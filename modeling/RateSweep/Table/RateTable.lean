import RateSweep.Csv.Writer
import RateSweep.Number.Decimal

namespace RateSweep

structure TableRow where
  key : String
  values : List Float

structure RateTable where
  title : String
  name : String
  keyLabel : String
  rates : List UInt32
  rows : List TableRow

structure SeriesSet where
  title : String
  fileName : String
  axis : List UInt32
  series : List (String × List Float)

namespace RateTable

def fileName (t : RateTable) : String := t.name ++ ".csv"

def rateLabel (rate : UInt32) : String := s!"{rate.toNat}(req/sec)"

def header (t : RateTable) : List String := t.keyLabel :: t.rates.map rateLabel

def rowText (r : TableRow) : List String := r.key :: r.values.map Number.writeFloat

def csv (t : RateTable) : String := Csv.write (t.header :: t.rows.map rowText)

def toSeries (t : RateTable) : SeriesSet :=
  ⟨t.title, t.name, t.rates, t.rows.map fun r => (r.key, r.values)⟩

end RateTable

end RateSweep
