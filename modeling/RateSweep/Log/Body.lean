import RateSweep.Log.Balancer
import RateSweep.Log.Client
import RateSweep.Log.Cluster

namespace RateSweep

/-- The records of a body up to the first row that is none, and what is wrong with that row. -/
structure Decoded (α : Type) where
  rows : List (Row × α)
  failure : Option RecordError

namespace Decoded

variable {α : Type}

def records (d : Decoded α) : List α := d.rows.map Prod.snd

def cons (row : Row × α) (d : Decoded α) : Decoded α := { d with rows := row :: d.rows }

def all? (d : Decoded α) : Except RecordError (List (Row × α)) :=
  match d.failure with
  | none => .ok d.rows
  | some e => .error e

end Decoded

namespace Log

def decodeFields (position : Csv.Position) (index : Nat) :
    List Csv.Field → Except RecordError (List String)
  | [] => .ok []
  | f :: fs =>
    match Text.decode f with
    | .error n => .error (.notUtf8 position index n)
    | .ok s => (decodeFields position (index + 1) fs).map (s :: ·)

def header (body : List UInt8) : Except RecordError (List String) :=
  match Csv.records body with
  | [] => .ok []
  | r :: _ => (decodeFields r.start 0 r.fields).map (·.map Text.trim)

def rowAt (position : Csv.Position) (r : Csv.Record) : Except RecordError Row :=
  (decodeFields position 0 (r.fields.map Text.trimBytes)).map
    fun fields => ⟨r.start.line, fields.map Text.trim⟩

inductive HeaderUse where
  | kept
  | passedOver
deriving DecidableEq, Repr

/-- The rows after the header. A first row that is no text is reported where reading began, which
is behind the header only if that was kept. -/
def rows (use : HeaderUse) (body : List UInt8) : List (Except RecordError Row) :=
  match (Csv.records body).drop 1 with
  | [] => []
  | r :: rs =>
    let position := match use with
      | .kept => r.start
      | .passedOver => Csv.Position.first
    rowAt position r :: rs.map fun r => rowAt r.start r

def decodeRows {α : Type} (read : Row → Except RecordError α) :
    List (Except RecordError Row) → Decoded α
  | [] => ⟨[], none⟩
  | .error e :: _ => ⟨[], some e⟩
  | .ok row :: rows =>
    match read row with
    | .error e => ⟨[], some e⟩
    | .ok a => (decodeRows read rows).cons (row, a)

def records {α : Type} (read : Row → Except RecordError α) (body : List UInt8) :
    List (Except RecordError α) := (rows .passedOver body).map (· >>= read)

def decode {α : Type} (read : Row → Except RecordError α) (body : List UInt8) : Decoded α :=
  decodeRows read (rows .passedOver body)

end Log

end RateSweep
