import RateSweep.Csv.Reader
import RateSweep.Disk.Error
import RateSweep.Number.Decimal
import RateSweep.Text.Blank
import RateSweep.Text.Quoted
import RateSweep.Text.Utf8

namespace RateSweep

inductive RecordError where
  | columnCount (line : Nat) (expected : String) (found : Nat)
  | invalidField (line : Nat) (column kind value : String)
  | malformedQueue (line : Nat) (snapshot : String)
  | queueLength (line expected found : Nat)
  | notUtf8 (position : Csv.Position) (field validBytes : Nat)
  | unreadable (cause : DiskError)
deriving DecidableEq, Repr

namespace RecordError

def message : RecordError → String
  | columnCount line expected found => s!"line {line}: expected {expected} columns, found {found}"
  | invalidField line column kind value =>
    s!"line {line}: {column} is not a valid {kind}: {Text.quoted value}"
  | malformedQueue line snapshot => s!"line {line}: malformed queue snapshot {Text.quoted snapshot}"
  | queueLength line expected found =>
    s!"line {line}: queue snapshot has {found} entries, cluster size is {expected}"
  | notUtf8 position field validBytes =>
    s!"reading log: CSV parse error: record {position.record} (line {position.line}, " ++
      s!"field: {field}, byte: {position.byte}): invalid utf-8: invalid UTF-8 in field {field} " ++
      s!"near byte index {validBytes}"
  | unreadable cause => s!"reading log: {cause.message}"

def line? : RecordError → Option Nat
  | columnCount line _ _ => some line
  | invalidField line _ _ _ => some line
  | malformedQueue line _ => some line
  | queueLength line _ _ => some line
  | notUtf8 position _ _ => some position.line
  | unreadable _ => none

end RecordError

structure Row where
  line : Nat
  fields : List String
deriving DecidableEq, Repr

namespace Row

def width (r : Row) : Nat := r.fields.length

def text (r : Row) (index : Nat) : String := r.fields.getD index ""

def rest (r : Row) (index : Nat) : String := ",".intercalate (r.fields.drop index)

def invalid (r : Row) (column kind value : String) : RecordError :=
  .invalidField r.line column kind value

def expectWidth (r : Row) (accepted : List Nat) (expected : String) : Except RecordError Unit :=
  if r.width ∈ accepted then .ok () else .error (.columnCount r.line expected r.width)

def parse {α : Type} (read : String → Option α) (r : Row) (index : Nat) (column kind : String) :
    Except RecordError α :=
  match read (r.text index) with
  | some a => .ok a
  | none => .error (r.invalid column kind (r.text index))

def parseOptional {α : Type} (read : String → Option α) (r : Row) (index : Nat)
    (column kind : String) : Except RecordError (Option α) :=
  if r.text index = "" then .ok none
  else (r.parse read index column kind).map some

def parseFinite (r : Row) (index : Nat) (column : String) : Except RecordError Float :=
  r.parse (fun s => (Number.readFloat s).filter Float.isFinite) index column "number"

end Row

end RateSweep
