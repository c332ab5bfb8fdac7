namespace RateSweep

structure Bucket where
  start : Float
  finish : Float
  count : Nat

structure Histogram where
  buckets : List Bucket

namespace Histogram

def bounds (values : List Float) : Float × Float :=
  values.foldl
    (fun (lo, hi) v => (if v < lo then v else lo, if hi < v then v else hi))
    (1.0 / 0.0, -1.0 / 0.0)

def range (values : List Float) : Float × Float :=
  let (lo, hi) := bounds values
  if lo == hi then (lo - 0.5, hi + 0.5) else (lo, hi)

def edge (lo hi width : Float) (bins i : Nat) : Float :=
  if i = bins then hi else lo + width * Float.ofNat i

def index (lo width : Float) (bins : Nat) (v : Float) : Nat :=
  let i := ((v - lo) / width).floor
  if i < 0.0 then 0 else min i.toUInt64.toNat (bins - 1)

def counts (lo width : Float) (bins : Nat) (values : List Float) : Array Nat :=
  values.foldl (fun cs v => cs.modify (index lo width bins v) (· + 1)) (Array.replicate bins 0)

def ofValues? (values : List Float) (bins : Nat) : Option Histogram :=
  if values.isEmpty || bins = 0 || values.any (fun v => !v.isFinite) then none
  else
    let (lo, hi) := range values
    let width := (hi - lo) / Float.ofNat bins
    let buckets := (counts lo width bins values).toList.mapIdx fun i n =>
      ⟨edge lo hi width bins i, edge lo hi width bins (i + 1), n⟩
    some ⟨buckets⟩

def total (h : Histogram) : Nat := (h.buckets.map Bucket.count).foldr (· + ·) 0

end Histogram

end RateSweep
