import RateSweep.Comparison.Report

namespace RateSweep

structure IdleSetting where
  algorithm : Algorithm
  latencyMs : UInt32
  homogeneous : Bool
  intervalS : UInt32
  fileSize : FileSize
deriving DecidableEq, Repr

namespace IdleSetting

def ofExperiment (e : Experiment) : IdleSetting :=
  ⟨e.algorithm, e.latencyMs, e.homogeneous, e.intervalS, e.fileSize⟩

def all (d : Design) : List IdleSetting :=
  d.algorithms.flatMap fun algorithm =>
    d.latenciesMs.flatMap fun latency =>
      d.homogeneity.flatMap fun homogeneous =>
        d.fileSizes.map fun fileSize => ⟨algorithm, latency, homogeneous, d.intervalS, fileSize⟩

def name (s : IdleSetting) : String :=
  let homogeneous := homogeneityCode s.homogeneous
  s!"idle-{s.algorithm.code}-lat-{s.latencyMs.toNat}-homog-{homogeneous}-fsz-{s.fileSize.code}"

def title (s : IdleSetting) : String :=
  s!"Idle Time: Algorithm: {s.algorithm.label}, Latency: {s.latencyMs.toNat}, " ++
    s!"{homogeneityLabel s.homogeneous}, {s.fileSize.label} Files"

def runs (s : IdleSetting) (summaries : List ClusterSummary) : List ClusterSummary :=
  (summaries.filter fun r => ofExperiment r.experiment = s).mergeSort Bins.rateLe

def nodeIds (runs : List ClusterSummary) : List UInt32 :=
  (runs.flatMap fun r => r.nodes.map NodeFigures.node).mergeSort (· ≤ ·) |>.eraseReps

def row? (runs : List ClusterSummary) (node : UInt32) : Option TableRow :=
  (runs.mapM fun (r : ClusterSummary) => (r.idleTime? node).map Int64.toFloat).map
    (TableRow.mk s!"Node {node.toNat}")

def table? (s : IdleSetting) (d : Design) (summaries : List ClusterSummary) : Option RateTable :=
  let runs := s.runs summaries
  if runs.map requestRate = d.sortedRates then
    some
      { title := s.title
        name := s.name
        keyLabel := "Node"
        rates := d.sortedRates
        rows := (nodeIds runs).filterMap (row? runs) }
  else none

end IdleSetting

def idleTables (d : Design) (summaries : List ClusterSummary) : Report :=
  .ofResults ((IdleSetting.all d).map fun s => s.table? d summaries)

end RateSweep
