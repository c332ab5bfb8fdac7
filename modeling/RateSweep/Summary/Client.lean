import RateSweep.Experiment
import RateSweep.Log.Client

namespace RateSweep

structure NoValidRecords where
  records : Nat
deriving DecidableEq, Repr

def NoValidRecords.message (v : NoValidRecords) : String :=
  if v.records = 0 then "file had no records"
  else s!"all {v.records} records were error records"

structure ClientSummary where
  experiment : Experiment
  /-- Of the last request that succeeded. -/
  byteSize : UInt64
  meanServiceTime : Float
  errorFraction : Float
  records : Nat
  errors : Nat
  /-- In seconds and in file order, errors left out. -/
  serviceTimes : List Float

structure ClientTally where
  total : Float
  records : Nat
  errors : Nat
  byteSize : UInt64
  serviceTimes : Array Float

namespace ClientTally

def empty : ClientTally := ⟨0.0, 0, 0, 0, #[]⟩

def serviceTime (r : ClientRecord) : Float := r.duration / 1000.0

def add (t : ClientTally) (r : ClientRecord) : ClientTally :=
  if r.isError then { t with records := t.records + 1, errors := t.errors + 1 }
  else
    { t with
      total := t.total + serviceTime r
      records := t.records + 1
      byteSize := r.bytes
      serviceTimes := t.serviceTimes.push (serviceTime r) }

def ofRecords (rs : List ClientRecord) : ClientTally := rs.foldl add empty

def summary (t : ClientTally) (e : Experiment) : Except NoValidRecords ClientSummary :=
  let valid := t.records - t.errors
  if valid = 0 then .error ⟨t.records⟩
  else .ok
    { experiment := e
      byteSize := t.byteSize
      meanServiceTime := t.total / Float.ofNat valid
      errorFraction := Float.ofNat t.errors / Float.ofNat t.records
      records := t.records
      errors := t.errors
      serviceTimes := t.serviceTimes.toList }

end ClientTally

end RateSweep
