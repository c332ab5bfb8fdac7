import RateSweep.Experiment

namespace RateSweep

structure Design where
  algorithms : List Algorithm := Algorithm.all
  latenciesMs : List UInt32 := [0, 25]
  homogeneity : List Bool := [true, false]
  fileSizes : List FileSize := FileSize.all
  rates : List UInt32 := [10, 50, 100, 150, 200]
  intervalS : UInt32 := 20
deriving DecidableEq, Repr

def Design.sortedRates (d : Design) : List UInt32 := d.rates.mergeSort (· ≤ ·)

structure Directories where
  client : String := "tmp/output/user"
  balancer : String := "tmp/output/lb"
  cluster : String := "tmp/output/cluster"
  output : String := "tmp/output"
deriving DecidableEq, Repr

def Directories.ofKind (d : Directories) : LogKind → String
  | .client => d.client
  | .balancer => d.balancer
  | .cluster => d.cluster

structure Settings where
  logLevel : String := "info"
  directories : Directories := {}
  design : Design := {}
  clusterSize : Nat := 10
  histogramBins : Nat := 50
deriving DecidableEq, Repr

inductive Violation where
  | zeroClusterSize
  | zeroHistogramBins
  | noRates
  | zeroRate
  | repeatedRate (rate : UInt32)
  | noAlgorithms
  | noLatencies
  | noHomogeneity
  | noFileSizes
  | zeroInterval
deriving DecidableEq, Repr

def Violation.message : Violation → String
  | zeroClusterSize => "cluster_size must be positive"
  | zeroHistogramBins => "histogram_bins must be positive"
  | noRates => "design.rates must contain at least one rate"
  | zeroRate => "design.rates must be positive"
  | repeatedRate rate => s!"design.rates contains duplicate rate: {rate.toNat}"
  | noAlgorithms => "design.algorithms must not be empty"
  | noLatencies => "design.latencies_ms must not be empty"
  | noHomogeneity => "design.homogeneity must not be empty"
  | noFileSizes => "design.file_sizes must not be empty"
  | zeroInterval => "design.interval_s must be positive"

def Design.badRate (seen : List UInt32) : List UInt32 → Option Violation
  | [] => none
  | r :: rs =>
    if r = 0 then some .zeroRate
    else if r ∈ seen then some (.repeatedRate r)
    else badRate (r :: seen) rs

def Design.violation? (d : Design) : Option Violation :=
  if d.rates = [] then some .noRates
  else (Design.badRate [] d.rates) <|>
    if d.algorithms = [] then some .noAlgorithms
    else if d.latenciesMs = [] then some .noLatencies
    else if d.homogeneity = [] then some .noHomogeneity
    else if d.fileSizes = [] then some .noFileSizes
    else if d.intervalS = 0 then some .zeroInterval
    else none

def Settings.violation? (s : Settings) : Option Violation :=
  if s.clusterSize = 0 then some .zeroClusterSize
  else if s.histogramBins = 0 then some .zeroHistogramBins
  else s.design.violation?

def Settings.validate (s : Settings) : Except Violation Unit :=
  match s.violation? with
  | none => .ok ()
  | some v => .error v

end RateSweep
