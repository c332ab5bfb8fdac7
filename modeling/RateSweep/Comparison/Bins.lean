import RateSweep.Comparison.Grouping

namespace RateSweep

class Described (σ : Type) where
  experiment : σ → Experiment

def requestRate {σ : Type} [Described σ] (s : σ) : UInt32 := (Described.experiment s).requestRate

structure Bins (σ : Type) where
  buckets : List (BinKey × List σ)

namespace Bins

variable {σ : Type}

def empty : Bins σ := ⟨[]⟩

def changeAt (key : BinKey) (change : List σ → List σ) :
    List (BinKey × List σ) → List (BinKey × List σ)
  | [] => [(key, change [])]
  | (k, bucket) :: rest =>
    if k = key then (k, change bucket) :: rest else (k, bucket) :: changeAt key change rest

def addBin (b : Bins σ) (key : BinKey) : Bins σ := ⟨changeAt key id b.buckets⟩

def insert (b : Bins σ) (key : BinKey) (s : σ) : Bins σ := ⟨changeAt key (· ++ [s]) b.buckets⟩

def seeded (keys : List BinKey) : Bins σ := keys.foldl addBin empty

def get? (b : Bins σ) (key : BinKey) : Option (List σ) :=
  (b.buckets.find? (·.1 == key)).map Prod.snd

def size (b : Bins σ) : Nat := b.buckets.length

variable [Described σ]

def rateLe (s t : σ) : Bool := requestRate s ≤ requestRate t

def sortByRate (b : Bins σ) : Bins σ :=
  ⟨b.buckets.map fun (key, bucket) => (key, bucket.mergeSort rateLe)⟩

def isReportable (b : Bins σ) (sortedRates : List UInt32) : Bool :=
  !b.buckets.isEmpty && b.buckets.all fun (_, bucket) => bucket.map requestRate == sortedRates

def binBy (key? : σ → Option BinKey) (summaries : List σ) : Bins σ :=
  let insertKeyed (b : Bins σ) (s : σ) : Bins σ :=
    match key? s with
    | none => b
    | some key => b.insert key s
  (summaries.foldl insertKeyed empty).sortByRate

end Bins

end RateSweep
