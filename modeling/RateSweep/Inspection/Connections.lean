import RateSweep.Csv.Writer
import RateSweep.Log.Body

namespace RateSweep

structure ConnectionSample where
  node : UInt32
  timestamp : Nanos
  connections : UInt32
deriving DecidableEq, Repr

namespace ConnectionSample

def ofRecord? (r : ClusterRecord) : Option ConnectionSample :=
  if r.event = .healthCheck then
    r.activeConnections.map fun connections => ⟨r.node, r.timestamp, connections⟩
  else none

def nodeLe (s t : ConnectionSample) : Bool := s.node ≤ t.node

def text (s : ConnectionSample) : List String :=
  [toString s.node.toNat, toString s.timestamp.toInt, toString s.connections.toNat]

end ConnectionSample

structure Connections where
  samples : List ConnectionSample
deriving DecidableEq, Repr

namespace Connections

def ofRecords (rs : List ClusterRecord) : Connections :=
  ⟨(rs.filterMap ConnectionSample.ofRecord?).mergeSort ConnectionSample.nodeLe⟩

def ofBody? (body : List UInt8) : Except RecordError Connections :=
  let d := Log.decode ClusterRecord.ofRow? body
  match d.failure with
  | some e => .error e
  | none => .ok (ofRecords d.records)

def csv (c : Connections) : String :=
  Csv.write (["node-id", "timestamp_ns", "connections"] :: c.samples.map ConnectionSample.text)

end Connections

end RateSweep
