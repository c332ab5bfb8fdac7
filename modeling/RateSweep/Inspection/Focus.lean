import RateSweep.Csv.Writer
import RateSweep.Experiment
import RateSweep.Log.Body

namespace RateSweep

structure LogFilter where
  node : Option UInt32 := none
  since : Option Nanos := none
deriving DecidableEq, Repr

namespace LogFilter

def accepts (f : LogFilter) (node : UInt32) (timestamp : Nanos) : Bool :=
  f.node.all (· == node) && f.since.all (· ≤ timestamp)

def isUnconstrained (f : LogFilter) : Bool := f.node.isNone && f.since.isNone

def keepsBalancer (f : LogFilter) (r : BalancerRecord) : Bool :=
  r.event = .userJoined && f.accepts r.node r.start

def keepsCluster (f : LogFilter) (r : ClusterRecord) : Bool :=
  r.event = .healthCheck && f.accepts r.node r.timestamp

/-- A client record has neither node nor time, so that any constraint rejects it. -/
def keepsClient (f : LogFilter) (_ : ClientRecord) : Bool := f.isUnconstrained

end LogFilter

structure FilteredLog where
  header : List String
  rows : List (List String)
deriving DecidableEq, Repr

namespace FilteredLog

def ofRows? {α : Type} (read : Row → Except RecordError α) (keep : α → Bool) (body : List UInt8) :
    Except RecordError FilteredLog := do
  let header ← Log.header body
  let rows ← (Log.decodeRows read (Log.rows .kept body)).all?
  pure ⟨header, (rows.filter fun row => keep row.2).map fun row => row.1.fields⟩

def ofBody? (clusterSize : Nat) (kind : LogKind) (f : LogFilter) (body : List UInt8) :
    Except RecordError FilteredLog :=
  match kind with
  | .client => ofRows? ClientRecord.ofRow? f.keepsClient body
  | .balancer => ofRows? (BalancerRecord.ofRow? clusterSize) f.keepsBalancer body
  | .cluster => ofRows? ClusterRecord.ofRow? f.keepsCluster body

def text (l : FilteredLog) : String := Csv.write (l.header :: l.rows)

end FilteredLog

end RateSweep
