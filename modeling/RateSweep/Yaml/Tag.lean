import RateSweep.Yaml.Scalar

namespace RateSweep.Yaml

open Number (hexNumber?)

abbrev TagText := List UInt8

def asciiBytes (cs : List Char) : TagText := cs.map fun c => c.toNat.toUInt8

def scanAnchor (c : Cursor) : Option (List Char × Cursor) :=
  let name := c.takeWhile isWordChar
  let behind := c.drop name.length
  let ends := startsBlank behind.rest ||
    behind.peek.any fun ch => ['?', ':', ',', ']', '\x7d', '%', '@', '\x60'].contains ch
  if name.isEmpty || !ends then none else some (name, behind)

def isUriChar (verbatim : Bool) (c : Char) : Bool :=
  isWordChar c ||
    [';', '/', '?', ':', '@', '&', '=', '+', '$', '.', '!', '~', '*', '\'', '(', ')'].contains c ||
    (verbatim && [',', '[', ']'].contains c)

def uriByte? : List Char → Option UInt8
  | '%' :: high :: low :: _ => (hexNumber? [high, low]).map fun n => n.toUInt8
  | _ => none

def utf8Width? (b : UInt8) : Option Nat :=
  if b < 0x80 then some 1
  else if b &&& 0xe0 = 0xc0 then some 2
  else if b &&& 0xf0 = 0xe0 then some 3
  else if b &&& 0xf8 = 0xf0 then some 4
  else none

def uriEscapes (cs : List Char) : Option TagText := do
  let first ← uriByte? cs
  let width ← utf8Width? first
  let more ← (List.range (width - 1)).mapM fun i => do
    let b ← uriByte? (cs.drop (3 * (i + 1)))
    if b &&& 0xc0 = 0x80 then some b else none
  pure (first :: more)

def scanUri (verbatim : Bool) : Nat → Cursor → Option (TagText × Cursor)
  | 0, _ => none
  | fuel + 1, c =>
    match c.peek with
    | some '%' => do
      let bytes ← uriEscapes c.rest
      let (more, c) ← scanUri verbatim fuel (c.drop (3 * bytes.length))
      pure (bytes ++ more, c)
    | some ch =>
      if isUriChar verbatim ch then do
        let (more, c) ← scanUri verbatim fuel (c.drop 1)
        pure (asciiBytes [ch] ++ more, c)
      else some ([], c)
    | none => some ([], c)

def upToZero (t : TagText) : TagText := t.takeWhile (· != 0)

def uriAt (verbatim : Bool) (c : Cursor) : Option (TagText × Cursor) :=
  scanUri verbatim (c.rest.length + 1) c

def scanHandle (c : Cursor) : Option (List Char × Cursor) :=
  if c.peek = some '!' then
    let word := (c.drop 1).takeWhile isWordChar
    let behind := c.drop (word.length + 1)
    if behind.peek = some '!' then some ('!' :: word ++ ['!'], behind.drop 1)
    else some ('!' :: word, behind)
  else none

/-- A tag's handle and suffix. The handle is empty where the suffix is the whole tag. -/
def scanTagParts (c : Cursor) : Option (List Char × TagText × Cursor) :=
  if (c.peekAt 1) = some '<' then do
    let (suffix, c) ← uriAt true (c.drop 2)
    if suffix.isEmpty || c.peek != some '>' then none else some ([], suffix, c.drop 1)
  else do
    let (handle, c) ← scanHandle c
    let (suffix, c) ← uriAt false c
    if handle.length > 1 && handle.getLast? = some '!' then
      if suffix.isEmpty then none else some (handle, suffix, c)
    else
      let suffix := asciiBytes (handle.drop 1) ++ suffix
      if (upToZero suffix).isEmpty then some ([], asciiBytes ['!'], c)
      else some (['!'], suffix, c)

def scanTag (inFlow : Bool) (c : Cursor) : Option (List Char × TagText × Cursor) := do
  let (handle, suffix, c) ← scanTagParts c
  if startsBlank c.rest || (inFlow && c.peek = some ',') then some (handle, upToZero suffix, c)
  else none

inductive Directive where
  | version (major minor : Nat)
  | tag (handle : List Char) (stem : TagText)
deriving DecidableEq

def scanNumber (c : Cursor) : Option (Nat × Cursor) :=
  let digits := c.takeWhile Char.isDigit
  if digits.isEmpty || digits.length > 9 then none
  else some (Nat.ofDigitChars 10 digits 0, c.drop digits.length)

def scanVersion (c : Cursor) : Option (Directive × Cursor) := do
  let (major, c) ← scanNumber c.skipSpaces
  if c.peek != some '.' then none
  else do
    let (minor, c) ← scanNumber (c.drop 1)
    pure (.version major minor, c)

def scanTagStem (c : Cursor) : Option (Directive × Cursor) := do
  let (handle, c) ← scanHandle c.skipSpaces
  if handle != ['!'] && (handle.length = 1 || handle.getLast? != some '!') then none
  else if !c.peek.any isSpace then none
  else do
    let (stem, c) ← uriAt true c.skipSpaces
    if stem.isEmpty || !startsBlank c.rest then none else pure (.tag handle (upToZero stem), c)

def scanDirectiveText (name : List Char) (c : Cursor) : Option (Directive × Cursor) :=
  if name = ['Y', 'A', 'M', 'L'] then scanVersion c
  else if name = ['T', 'A', 'G'] then scanTagStem c
  else none

def scanDirective (c : Cursor) : Option (Directive × Cursor) := do
  let name := c.takeWhile isWordChar
  let c := c.drop name.length
  if !startsBlank c.rest then none
  else do
    let (directive, c) ← scanDirectiveText name c
    pure (directive, ← c.endLine)

end RateSweep.Yaml
