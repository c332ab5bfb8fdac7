import RateSweep.Log.Row

namespace RateSweep

structure ClientRecord where
  duration : Float
  bytes : UInt64

namespace ClientRecord

def isError (r : ClientRecord) : Bool := r.duration == 0.0 && r.bytes == 0

def ofRow? (r : Row) : Except RecordError ClientRecord := do
  r.expectWidth [2] "2"
  let duration ← r.parseFinite 0 "duration"
  let bytes ← r.parse Number.readU64 1 "bytes_transferred" "byte count"
  pure ⟨duration, bytes⟩

end ClientRecord

end RateSweep
