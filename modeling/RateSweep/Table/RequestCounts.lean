import RateSweep.Csv.Writer
import RateSweep.Experiment.Name
import RateSweep.Summary.Cluster

namespace RateSweep

structure NodeCount where
  node : UInt32
  count : Nat
  overhead : Nanos
deriving DecidableEq, Repr

structure RequestCounts where
  title : String
  name : String
  rows : List NodeCount
deriving DecidableEq, Repr

namespace NodeCount

def le (a b : NodeCount) : Bool :=
  a.overhead < b.overhead || (a.overhead == b.overhead && a.node ≤ b.node)

def ofFigures? (f : NodeFigures) : Option NodeCount :=
  if f.transfers = 0 then none
  else f.overhead.map fun overhead => ⟨f.node, f.transfers, overhead⟩

def text (c : NodeCount) : List String :=
  [toString c.node.toNat, toString c.count, toString c.overhead.toInt]

end NodeCount

namespace RequestCounts

def ofSummary (s : ClusterSummary) : RequestCounts where
  title := s!"{s.experiment.algorithm.label}: Requests per Node"
  name := s!"node-req-count-{s.experiment.logStem .cluster}"
  rows := (s.nodes.filterMap NodeCount.ofFigures?).mergeSort NodeCount.le

def fileName (t : RequestCounts) : String := t.name ++ ".csv"

def csv (t : RequestCounts) : String :=
  Csv.write (["node-id", "count", "overhead"] :: t.rows.map NodeCount.text)

end RequestCounts

end RateSweep
