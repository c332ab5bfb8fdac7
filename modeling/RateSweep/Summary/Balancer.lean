import RateSweep.Experiment
import RateSweep.Log.Balancer

namespace RateSweep

inductive Idleness where
  | noUserJoined
  | emptyWindow
deriving DecidableEq, Repr

def Idleness.message : Idleness → String
  | noUserJoined => "no user-joined events, requests per second reported as 0"
  | emptyWindow => "user-joined events span zero time, requests per second reported as 0"

structure BalancerSummary where
  experiment : Experiment
  totalRequests : Nat
  requestsPerSecond : Float
  condition : Option Idleness

structure BalancerTally where
  totalRequests : Nat
  window : Option (Nanos × Nanos)
deriving DecidableEq, Repr

namespace BalancerTally

def empty : BalancerTally := ⟨0, none⟩

def widen (window : Option (Nanos × Nanos)) (start finish : Nanos) : Nanos × Nanos :=
  match window with
  | none => (start, finish)
  | some (first, last) => (min first start, max last finish)

def add (t : BalancerTally) (r : BalancerRecord) : BalancerTally :=
  if r.event = .userJoined then ⟨t.totalRequests + 1, some (widen t.window r.start r.finish)⟩
  else t

def ofRecords (rs : List BalancerRecord) : BalancerTally := rs.foldl add empty

def seconds (first last : Nanos) : Float := (last.subClamped first).toFloat / 1e9

def throughput (t : BalancerTally) : Float × Option Idleness :=
  match t.window with
  | none => (0.0, some .noUserJoined)
  | some (first, last) =>
    if first < last then (Float.ofNat t.totalRequests / seconds first last, none)
    else (0.0, some .emptyWindow)

def summary (t : BalancerTally) (e : Experiment) : BalancerSummary :=
  ⟨e, t.totalRequests, t.throughput.1, t.throughput.2⟩

end BalancerTally

end RateSweep
