import RateSweep.Csv.Writer
import RateSweep.Log.Body

namespace RateSweep

structure QueueSeries where
  clusterSize : Nat
  rows : List (Nanos × List UInt32)
deriving DecidableEq, Repr

namespace QueueSnapshot

def depths (q : QueueSnapshot) (clusterSize : Nat) : List UInt32 :=
  (List.range clusterSize).map fun i =>
    if i < UInt32.size then (q.depthOf? (UInt32.ofNat i)).getD 0 else 0

end QueueSnapshot

namespace QueueSeries

def row? (clusterSize : Nat) (r : BalancerRecord) : Option (Nanos × List UInt32) :=
  if r.event = .userJoined then r.queue.map fun q => (r.start, q.depths clusterSize)
  else none

def ofRecords (clusterSize : Nat) (rs : List BalancerRecord) : QueueSeries :=
  ⟨clusterSize, rs.filterMap (row? clusterSize)⟩

def ofBody? (clusterSize : Nat) (body : List UInt8) : Except RecordError QueueSeries :=
  let d := Log.decode (BalancerRecord.ofRow? clusterSize) body
  match d.failure with
  | some e => .error e
  | none => .ok (ofRecords clusterSize d.records)

def header (s : QueueSeries) : List String :=
  "timestamp_ns" :: (List.range s.clusterSize).map fun i => s!"node-{i}"

def rowText (row : Nanos × List UInt32) : List String :=
  toString row.1.toInt :: row.2.map fun depth => toString depth.toNat

def csv (s : QueueSeries) : String := Csv.write (s.header :: s.rows.map rowText)

end QueueSeries

end RateSweep
