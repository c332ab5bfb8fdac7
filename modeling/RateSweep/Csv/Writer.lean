namespace RateSweep.Csv

def needsQuotes (field : List Char) : Bool :=
  field.any fun c => c = ',' || c = '"' || c = '\r' || c = '\n'

def doubleQuotes (field : List Char) : List Char :=
  field.flatMap fun c => if c = '"' then ['"', '"'] else [c]

def writeField (field : List Char) : List Char :=
  if needsQuotes field then '"' :: doubleQuotes field ++ ['"'] else field

def writeFields : List (List Char) → List Char
  | [] => []
  | [f] => writeField f
  | f :: fs => writeField f ++ ',' :: writeFields fs

def writeRecord (fields : List (List Char)) : List Char :=
  let text := writeFields fields
  (if text.isEmpty then ['"', '"'] else text) ++ ['\n']

def write (records : List (List String)) : String :=
  String.ofList (records.flatMap fun r => writeRecord (r.map String.toList))

end RateSweep.Csv
