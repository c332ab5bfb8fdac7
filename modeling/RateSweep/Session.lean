import RateSweep.Steps
import RateSweep.Summary.File

namespace RateSweep

structure Diagnostic where
  file : String
  message : String
deriving DecidableEq, Repr

def Diagnostic.text (d : Diagnostic) : String := d.file ++ ": " ++ d.message

structure Session where
  clusterSize : Nat
  histogramBins : Nat
  filesFolded : Nat
  recordsFolded : Nat
  diagnostics : List Diagnostic
deriving DecidableEq, Repr

namespace Session

def start (clusterSize histogramBins : Nat) : Session := ⟨clusterSize, histogramBins, 0, 0, []⟩

def note (s : Session) (file message : String) : Session :=
  { s with diagnostics := s.diagnostics ++ [⟨file, message⟩] }

def takeDiagnostics (s : Session) : List Diagnostic × Session :=
  (s.diagnostics, { s with diagnostics := [] })

def countRecord (s : Session) : Session := { s with recordsFolded := s.recordsFolded + 1 }

def countFile (s : Session) : Session := { s with filesFolded := s.filesFolded + 1 }

abbrev Fold := Steps Session FoldError

def addRow {α τ : Type} (add : τ → α → Except FoldError τ) (tally : τ)
    (row : Except RecordError α) : Fold τ := do
  let record ← row.mapError FoldError.record
  let tally ← add tally record
  modify countRecord
  pure tally

def foldClient (e : Experiment) (rows : List (Except RecordError ClientRecord)) : Fold Outcome := do
  let tally ← rows.foldlM (addRow fun t r => .ok (ClientTally.add t r)) .empty
  modify countFile
  match tally.summary e with
  | .ok s => pure (.summary (.client s))
  | .error verdict => pure (.noValidRecords verdict)

def foldBalancer (e : Experiment) (rows : List (Except RecordError BalancerRecord)) :
    Fold BalancerSummary := do
  let tally ← rows.foldlM (addRow fun t r => .ok (BalancerTally.add t r)) .empty
  modify countFile
  pure (tally.summary e)

def addActivity (as : Activities) (r : ClusterRecord) : Except FoldError Activities :=
  match (as.ofNode r.node).apply r with
  | (a, none) => .ok (as.put r.node a)
  | (_, some err) => .error (.activity err)

def foldCluster (e : Experiment) (rows : List (Except RecordError ClusterRecord)) :
    Fold ClusterSummary := do
  let activities ← rows.foldlM (addRow addActivity) []
  let nodes ← activities.allFigures?.mapError FoldError.activity
  modify countFile
  pure ⟨e, nodes⟩

def foldFile (file : String) (kind : LogKind) (e : Experiment) (body : List UInt8) :
    Fold Outcome := do
  match kind with
  | .client => foldClient e (Log.records ClientRecord.ofRow? body)
  | .balancer =>
    let clusterSize := (← get).clusterSize
    let s ← foldBalancer e (Log.records (BalancerRecord.ofRow? clusterSize) body)
    forM s.condition.toList fun idleness => modify (·.note file idleness.message)
    pure (.summary (.balancer s))
  | .cluster =>
    let s ← foldCluster e (Log.records ClusterRecord.ofRow? body)
    forM s.silentNodes fun node => modify (·.note file (FileFold.silenceNote node))
    pure (.summary (.cluster s))

def fold (s : Session) (file : String) (kind : LogKind) (e : Experiment) (body : List UInt8) :
    Except FoldError Outcome × Session := (foldFile file kind e body).runOn s

end Session

end RateSweep
