import RateSweep.Design

namespace RateSweep

inductive BinKey where
  | algorithm (a : Algorithm)
  | fileSize (f : FileSize)
deriving DecidableEq, Repr

namespace BinKey

def code : BinKey → String
  | algorithm a => a.code
  | fileSize f => f.code

def label : BinKey → String
  | algorithm a => a.label
  | fileSize f => f.label

def covers (k : BinKey) (e : Experiment) : Bool :=
  match k with
  | algorithm a => e.algorithm = a
  | fileSize f => e.fileSize = f

end BinKey

inductive Grouping where
  | byAlgorithm
  | byFileSize
deriving DecidableEq, Repr

structure Configuration where
  grouping : Grouping
  homogeneous : Bool
  latencyMs : UInt32
  intervalS : UInt32
  fixed : BinKey
deriving DecidableEq, Repr

namespace Grouping

def all : List Grouping := [byAlgorithm, byFileSize]

def label : Grouping → String
  | byAlgorithm => "Algorithm"
  | byFileSize => "File Size"

def key? : Grouping → Experiment → Option BinKey
  | byAlgorithm, e => some (.algorithm e.algorithm)
  | byFileSize, e => if e.fileSize = .varied then none else some (.fileSize e.fileSize)

def seeds (d : Design) : Grouping → List BinKey
  | byAlgorithm => d.algorithms.map .algorithm
  | byFileSize => (d.fileSizes.filter (· ≠ .varied)).map .fileSize

def fixedKeys (d : Design) : Grouping → List BinKey
  | byAlgorithm => d.fileSizes.map .fileSize
  | byFileSize => d.algorithms.map .algorithm

def configurations (d : Design) (g : Grouping) : List Configuration :=
  d.homogeneity.flatMap fun homogeneous =>
    (g.fixedKeys d).flatMap fun fixed =>
      d.latenciesMs.map fun latency => ⟨g, homogeneous, latency, d.intervalS, fixed⟩

end Grouping

namespace Configuration

def covers (c : Configuration) (e : Experiment) : Bool :=
  e.homogeneous = c.homogeneous && e.latencyMs = c.latencyMs && e.intervalS = c.intervalS &&
    c.fixed.covers e

def name (c : Configuration) : String :=
  let homogeneous := homogeneityCode c.homogeneous
  match c.grouping with
  | .byAlgorithm =>
    s!"algs-compare-homog-{homogeneous}-fsz-{c.fixed.code}-delay-{c.latencyMs.toNat}"
  | .byFileSize =>
    s!"vary-fsz-alg-{c.fixed.code}-homog-{homogeneous}-delay-{c.latencyMs.toNat}"

def delayLabel (latencyMs : UInt32) : String :=
  if latencyMs = 0 then "Zero Network Delay" else s!"{latencyMs.toNat} ms Network Delay"

def describe (c : Configuration) : String :=
  let homogeneous := homogeneityLabel c.homogeneous
  let delay := delayLabel c.latencyMs
  match c.grouping with
  | .byAlgorithm => s!"{c.fixed.label} Files, {homogeneous}, {delay}"
  | .byFileSize => s!"{c.fixed.label}, {homogeneous}, {delay}"

end Configuration

end RateSweep
