import RateSweep.Log.Row
import RateSweep.Number.Nanos
/-!
The rows of a cluster log:
`node_id,performance_overhead_ns,event_type,peer,timestamp_ns,duration_ns,bytes_transferred`, on
newer logs with an eighth column `active_connections`.
-/

namespace RateSweep

inductive ClusterEvent where
  | nodeOnline
  | nodeOffline
  | fileTransfer
  | healthCheck
  | portForwarding
  | other (label : String)
deriving DecidableEq, Repr

namespace ClusterEvent

def ofLabel : String → ClusterEvent
  | "node-online" => nodeOnline
  | "node-offline" => nodeOffline
  | "file-transfer" => fileTransfer
  | "healthcheck" => healthCheck
  | "port-forwarding" => portForwarding
  | label => other label

def label : ClusterEvent → String
  | nodeOnline => "node-online"
  | nodeOffline => "node-offline"
  | fileTransfer => "file-transfer"
  | healthCheck => "healthcheck"
  | portForwarding => "port-forwarding"
  | other label => label

theorem label_ofLabel (s : String) : (ofLabel s).label = s := by
  unfold ofLabel
  split <;> rfl

def isKnown : ClusterEvent → Bool
  | other _ => false
  | _ => true

def isLifecycle : ClusterEvent → Bool
  | nodeOnline | nodeOffline => true
  | _ => false

end ClusterEvent

structure ClusterRecord where
  node : UInt32
  overhead : Nanos
  event : ClusterEvent
  peer : Option String
  timestamp : Nanos
  duration : Nanos
  bytes : UInt64
  activeConnections : Option UInt32
deriving DecidableEq, Repr

namespace ClusterRecord

def ofRow? (r : Row) : Except RecordError ClusterRecord := do
  r.expectWidth [7, 8] "7 or 8"
  if r.text 2 = "" then throw (r.invalid "event_type" "event type" "")
  let node ← r.parse Number.readU32 0 "node_id" "node id"
  let overhead ← r.parse Number.readI64 1 "performance_overhead_ns" "duration"
  let timestamp ← r.parse Number.readI64 4 "timestamp_ns" "timestamp"
  let duration ← r.parse Number.readI64 5 "duration_ns" "duration"
  let bytes ← r.parse Number.readU64 6 "bytes_transferred" "byte count"
  let active ← r.parseOptional Number.readU32 7 "active_connections" "connection count"
  let peer := if r.text 3 = "" then none else some (r.text 3)
  pure ⟨node, overhead, .ofLabel (r.text 2), peer, timestamp, duration, bytes, active⟩

end ClusterRecord

end RateSweep
