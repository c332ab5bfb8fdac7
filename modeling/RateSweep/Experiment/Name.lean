import RateSweep.Experiment
import RateSweep.Number.Integer
import RateSweep.Text.Quoted
import RateSweep.Text.Segments
/-!
The names of experiments and of their log files. A name has twelve segments between hyphens: fixed
words, each followed by the code of one field. A log file's name puts the kind of log in front and
may end in an extension.
-/

namespace RateSweep

inductive Field where
  | algorithm
  | latency
  | homogeneous
  | interval
  | fileSize
  | requestRate
deriving DecidableEq, Repr

def Field.label : Field → String
  | algorithm => "algorithm"
  | latency => "latency"
  | homogeneous => "homogeneous"
  | interval => "interval"
  | fileSize => "file size"
  | requestRate => "request rate"

inductive Segment where
  | word (text : String)
  | value (field : Field)
deriving DecidableEq, Repr

inductive NameError where
  | segmentCount (found : Nat)
  | unexpectedWord (position : Nat) (expected found : String)
  | invalidValue (field : Field) (value : String)
  /-- No segment for the field; a name with all its segments never lacks one. -/
  | missingField (field : Field)
  | unknownKind (tag : String)
deriving DecidableEq, Repr

namespace Experiment

def layout : List Segment :=
  [.word "exp", .value .algorithm, .word "lat", .value .latency, .word "homog",
    .value .homogeneous, .word "int", .value .interval, .word "fsz", .value .fileSize,
    .word "rate", .value .requestRate]

def fieldCode (e : Experiment) : Field → String
  | .algorithm => e.algorithm.code
  | .latency => toString e.latencyMs.toNat
  | .homogeneous => homogeneityCode e.homogeneous
  | .interval => toString e.intervalS.toNat
  | .fileSize => e.fileSize.code
  | .requestRate => toString e.requestRate.toNat

def segmentText (e : Experiment) : Segment → String
  | .word text => text
  | .value field => e.fieldCode field

def name (e : Experiment) : String :=
  String.ofList (Text.join '-' (layout.map fun s => (e.segmentText s).toList))

end Experiment

namespace NameError

def message : NameError → String
  | segmentCount found => s!"expected {Experiment.layout.length} name segments, found {found}"
  | unexpectedWord position expected found =>
    s!"segment {position}: expected {Text.quoted expected}, found {Text.quoted found}"
  | invalidValue field value => s!"invalid {field.label} value {Text.quoted value}"
  | missingField field => s!"missing {field.label} segment"
  | unknownKind tag => s!"unknown log kind prefix {Text.quoted tag}"

end NameError

namespace Experiment

def readHomogeneity : String → Option Bool
  | "true" => some true
  | "false" => some false
  | _ => none

def readCount (s : String) : Option UInt32 :=
  ((Number.readDigits s.toList).filter (· < UInt32.size)).map UInt32.ofNat

def readPositive (s : String) : Option UInt32 := (readCount s).filter (0 < ·)

end Experiment

abbrev Field.Value : Field → Type
  | algorithm => Algorithm
  | latency => UInt32
  | homogeneous => Bool
  | interval => UInt32
  | fileSize => FileSize
  | requestRate => UInt32

def Field.read : (field : Field) → String → Option field.Value
  | algorithm => Algorithm.ofCode?
  | latency => Experiment.readCount
  | homogeneous => Experiment.readHomogeneity
  | interval => Experiment.readPositive
  | fileSize => FileSize.ofCode?
  | requestRate => Experiment.readPositive

def Draft := (field : Field) → Option field.Value

namespace Draft

def empty : Draft := fun _ => none

def put (d : Draft) (field : Field) (value : field.Value) : Draft := fun other =>
  if h : other = field then some (h ▸ value) else d other

def set (d : Draft) (field : Field) (s : String) : Except NameError Draft :=
  match field.read s with
  | some value => .ok (d.put field value)
  | none => .error (.invalidValue field s)

def take (d : Draft) (position : Nat) : Segment → String → Except NameError Draft
  | .word expected, found =>
    if found = expected then .ok d else .error (.unexpectedWord position expected found)
  | .value field, s => d.set field s

def takeAll (d : Draft) (position : Nat) : List Segment → List String → Except NameError Draft
  | segment :: segments, s :: ss => do (← d.take position segment s).takeAll (position + 1) segments ss
  | _, _ => .ok d

def given (d : Draft) (field : Field) : Except NameError field.Value :=
  match d field with
  | some value => .ok value
  | none => .error (.missingField field)

def build (d : Draft) : Except NameError Experiment := do
  pure {
    algorithm := ← d.given .algorithm
    latencyMs := ← d.given .latency
    homogeneous := ← d.given .homogeneous
    intervalS := ← d.given .interval
    fileSize := ← d.given .fileSize
    requestRate := ← d.given .requestRate }

end Draft

namespace Experiment

def ofName? (s : String) : Except NameError Experiment :=
  let segments := Text.segments '-' s
  if segments.length = layout.length then do
    (← Draft.empty.takeAll 0 layout segments).build
  else .error (.segmentCount segments.length)

end Experiment

def extension : String := ".csv"

def withoutExtension (name : String) : String :=
  let cs := name.toList
  let n := cs.length - extension.length
  if extension.length ≤ cs.length && cs.drop n = extension.toList then String.ofList (cs.take n)
  else name

namespace Experiment

def logStem (e : Experiment) (kind : LogKind) : String := kind.tag ++ "-" ++ e.name

def logName (e : Experiment) (kind : LogKind) : String := e.logStem kind ++ extension

end Experiment

namespace LogKind

def ofFileName? (name : String) : Option LogKind :=
  (Text.segments '-' name).head?.bind ofTag?

end LogKind

def readLogName (name : String) : Except NameError (LogKind × Experiment) :=
  let stem := (withoutExtension name).toList
  let tag := String.ofList (stem.takeWhile (· ≠ '-'))
  let rest := String.ofList ((stem.dropWhile (· ≠ '-')).drop 1)
  match LogKind.ofTag? tag with
  | none => .error (.unknownKind tag)
  | some kind => do
    let experiment ← Experiment.ofName? rest
    pure (kind, experiment)

end RateSweep
