import RateSweep.Comparison.Bins
import RateSweep.Summary.File
import RateSweep.Table.RateTable

namespace RateSweep

inductive Metric where
  | requestsPerSecond
  | meanServiceTime
  | errorFraction
  | idleTime
deriving DecidableEq, Repr

def Metric.title : Metric → String
  | requestsPerSecond => "Load Balancer Requests per Second"
  | meanServiceTime => "Average Client Request Service Time"
  | errorFraction => "Client Request Error Fraction"
  | idleTime => "Average Node Idle Time"

class Measured (σ : Type) extends Described σ where
  measure : σ → Metric → Option Float

instance : Measured ClientSummary where
  experiment s := s.experiment
  measure s
    | .meanServiceTime => some s.meanServiceTime
    | .errorFraction => some s.errorFraction
    | _ => none

instance : Measured BalancerSummary where
  experiment s := s.experiment
  measure s
    | .requestsPerSecond => some s.requestsPerSecond
    | _ => none

def ClusterSummary.meanIdleTime (s : ClusterSummary) : Option Float :=
  let times := (s.nodes.filterMap NodeFigures.idleTime).map Int64.toFloat
  if times.isEmpty then none else some (times.foldl (· + ·) 0.0 / Float.ofNat times.length)

instance : Measured ClusterSummary where
  experiment s := s.experiment
  measure s
    | .idleTime => s.meanIdleTime
    | _ => none

structure Report where
  tables : List RateTable
  dropped : Nat

namespace Report

def empty : Report := ⟨[], 0⟩

def add (r : Report) : Option RateTable → Report
  | some t => { r with tables := r.tables ++ [t] }
  | none => { r with dropped := r.dropped + 1 }

def ofResults (results : List (Option RateTable)) : Report := results.foldl add empty

end Report

namespace Configuration

variable {σ : Type} [Measured σ]

def bins (c : Configuration) (d : Design) (summaries : List σ) : Bins σ :=
  let insertCovered (b : Bins σ) (s : σ) : Bins σ :=
    let e := Described.experiment s
    if c.covers e then
      match c.grouping.key? e with
      | some key => if (b.get? key).isSome then b.insert key s else b
      | none => b
    else b
  (summaries.foldl insertCovered (Bins.seeded (c.grouping.seeds d))).sortByRate

def row? (metric : Metric) (key : BinKey) (bucket : List σ) : Option TableRow :=
  (bucket.mapM fun s => Measured.measure s metric).map (TableRow.mk key.code)

def table? (c : Configuration) (d : Design) (metric : Metric) (summaries : List σ) :
    Option RateTable :=
  let bins := c.bins d summaries
  if bins.isReportable d.sortedRates then
    (bins.buckets.mapM fun bin => row? metric bin.1 bin.2).map fun rows =>
      { title := s!"{metric.title} vs Request Rate: {c.describe}"
        name := c.name
        keyLabel := c.grouping.label
        rates := d.sortedRates
        rows := rows }
  else none

end Configuration

def compare {σ : Type} [Measured σ] (g : Grouping) (d : Design) (metric : Metric)
    (summaries : List σ) : Report :=
  .ofResults ((g.configurations d).map fun c => c.table? d metric summaries)

end RateSweep
