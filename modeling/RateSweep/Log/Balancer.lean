import RateSweep.Log.Queue
import RateSweep.Log.Row
import RateSweep.Number.Nanos
/-!
The rows of a load balancer log:
`event,node_id,peer_id,start_time_ns,duration_ns,bytes,queue_snapshot`. The snapshot has commas of
its own; it may be one quoted field or spread over the columns that remain.
-/

namespace RateSweep

inductive BalancerEvent where
  | userJoined
  | nodeJoined
  | portForward
  | healthCheck
  | other (label : String)
deriving DecidableEq, Repr

namespace BalancerEvent

def ofLabel : String → BalancerEvent
  | "user-joined" => userJoined
  | "node-joined" => nodeJoined
  | "port-forward" => portForward
  | "health-check" => healthCheck
  | label => other label

def label : BalancerEvent → String
  | userJoined => "user-joined"
  | nodeJoined => "node-joined"
  | portForward => "port-forward"
  | healthCheck => "health-check"
  | other label => label

theorem label_ofLabel (s : String) : (ofLabel s).label = s := by
  unfold ofLabel
  split <;> rfl

def isKnown : BalancerEvent → Bool
  | other _ => false
  | _ => true

end BalancerEvent

structure BalancerRecord where
  event : BalancerEvent
  node : UInt32
  peer : String
  start : Nanos
  duration : Nanos
  bytes : UInt64
  /-- None where the row shows an empty snapshot. -/
  queue : Option QueueSnapshot
deriving DecidableEq, Repr

namespace BalancerRecord

def finish (r : BalancerRecord) : Nanos := r.start.addClamped r.duration

def queueColumn : Nat := 6

def queueOfRow? (clusterSize : Nat) (r : Row) : Except RecordError (Option QueueSnapshot) :=
  let snapshot := r.rest queueColumn
  if snapshot = "" then .ok none
  else match QueueSnapshot.ofText? snapshot clusterSize with
    | .ok q => .ok (some q)
    | .error .malformed => .error (.malformedQueue r.line snapshot)
    | .error (.length expected found) => .error (.queueLength r.line expected found)

def ofRow? (clusterSize : Nat) (r : Row) : Except RecordError BalancerRecord := do
  if r.width ≤ queueColumn then throw (.columnCount r.line "at least 7" r.width)
  if r.text 0 = "" then throw (r.invalid "event" "event type" "")
  let queue ← queueOfRow? clusterSize r
  let node ← r.parse Number.readU32 1 "node_id" "node id"
  let start ← r.parse Number.readI64 3 "start_time_ns" "timestamp"
  let duration ← r.parse Number.readI64 4 "duration_ns" "duration"
  let bytes ← r.parse Number.readU64 5 "bytes" "byte count"
  pure ⟨.ofLabel (r.text 0), node, r.text 2, start, duration, bytes, queue⟩

end BalancerRecord

end RateSweep
