import RateSweep.Number.Integer
/-!
Binary floating point numbers as decimal text. A number is written with the fewest digits that read
back to it, all of them positional; of two such texts the nearer is taken, and at equal distance
the greater.
-/

namespace RateSweep.Number

/-- A positive number, as quotients over one denominator: the number itself and the two ends of the
interval that rounds to it. The ends belong to the interval when `closed`. -/
structure Rounding where
  low : Nat
  value : Nat
  high : Nat
  den : Nat
  closed : Bool

/-- The rounding interval of a finite positive number, from its bits. Just above a power of two the
gap below is half the gap above. -/
def Rounding.ofBits (bits : UInt64) : Rounding :=
  let biased := ((bits >>> 52) &&& 0x7FF).toNat
  let fraction := (bits &&& 0xFFFFFFFFFFFFF).toNat
  let mantissa := if biased = 0 then fraction else 0x10000000000000 + fraction
  let exponent : Int := (if biased = 0 then 1 else biased) - 1077
  let below := if fraction = 0 && 1 < biased then 1 else 2
  let scale := Nat.pow 2 exponent.toNat
  ⟨(4 * mantissa - below) * scale, 4 * mantissa * scale, (4 * mantissa + 2) * scale,
    Nat.pow 2 (-exponent).toNat, mantissa % 2 == 0⟩

structure Decimal where
  digits : Nat
  exponent : Int

def Rounding.contains (r : Rounding) (d : Decimal) : Bool :=
  let n := d.digits * Nat.pow 10 d.exponent.toNat * r.den
  let s := Nat.pow 10 (-d.exponent).toNat
  if r.closed then r.low * s ≤ n && n ≤ r.high * s else r.low * s < n && n < r.high * s

def Rounding.onGrid (r : Rounding) (exponent : Int) : Option Decimal :=
  let n := r.value * Nat.pow 10 (-exponent).toNat
  let unit := r.den * Nat.pow 10 exponent.toNat
  let below : Decimal := ⟨n / unit, exponent⟩
  let above : Decimal := ⟨n / unit + 1, exponent⟩
  match r.contains below, r.contains above with
  | true, true => if 2 * (n % unit) < unit then some below else some above
  | true, false => some below
  | false, true => some above
  | false, false => none

def Rounding.topExponent (r : Rounding) : Int :=
  ((r.high.log2 : Int) - r.den.log2 + 1) * 30103 / 100000 + 1

/-- The decimal of fewest digits: the first on ever finer grids. Were there none within twenty
grids, the exact value. -/
def Rounding.shortest (r : Rounding) : Decimal :=
  ((List.range 20).findSome? fun (i : Nat) => r.onGrid (r.topExponent - (i : Int))).getD
    ⟨r.value * Nat.pow 5 r.den.log2, -(r.den.log2 : Int)⟩

def Decimal.positional (d : Decimal) : List Char :=
  let digits := Nat.toDigits 10 d.digits
  if 0 ≤ d.exponent then digits ++ List.replicate d.exponent.toNat '0'
  else
    let places := (-d.exponent).toNat
    let padded := List.replicate (places + 1 - digits.length) '0' ++ digits
    padded.take (padded.length - places) ++ '.' :: padded.drop (padded.length - places)

def writeFloat (x : Float) : String :=
  if x.isNaN then "NaN"
  else
    let bits := x.toBits
    let magnitude := bits &&& 0x7FFFFFFFFFFFFFFF
    let body :=
      if magnitude = 0 then ['0']
      else if x.isInf then ['i', 'n', 'f']
      else (Rounding.ofBits magnitude).shortest.positional
    String.ofList (if bits = magnitude then body else '-' :: body)

def readDecimal (cs : List Char) : Option Decimal :=
  let whole := cs.takeWhile Char.isDigit
  let afterWhole := cs.dropWhile Char.isDigit
  let (fraction, rest) := match afterWhole with
    | '.' :: ds => (ds.takeWhile Char.isDigit, ds.dropWhile Char.isDigit)
    | ds => ([], ds)
  let digits := whole ++ fraction
  let shifted (e : Int) : Option Decimal :=
    some ⟨Nat.ofDigitChars 10 digits 0, e - fraction.length⟩
  if digits.isEmpty then none
  else match rest with
    | [] => shifted 0
    | e :: cs =>
      if e = 'e' || e = 'E' then
        match cs with
        | '-' :: ds => (readDigits ds).bind fun (n : Nat) => shifted (-n)
        | '+' :: ds => (readDigits ds).bind fun (n : Nat) => shifted n
        | ds => (readDigits ds).bind fun (n : Nat) => shifted n
      else none

def Decimal.toFloat (d : Decimal) : Float :=
  let length := (Nat.toDigits 10 d.digits).length
  if d.digits = 0 || d.exponent + length < -400 then 0.0
  else if 400 < d.exponent + length then 1.0 / 0.0
  else Float.ofScientific d.digits (d.exponent < 0) d.exponent.natAbs

def readMagnitude (cs : List Char) : Option Float :=
  match readDecimal cs with
  | some d => some d.toFloat
  | none =>
    let word := cs.map Char.toLower
    if word = "inf".toList || word = "infinity".toList then some (1.0 / 0.0)
    else if word = "nan".toList then some (0.0 / 0.0)
    else none

def readFloat (s : String) : Option Float :=
  match s.toList with
  | '-' :: cs => (readMagnitude cs).map fun x => -x
  | '+' :: cs => readMagnitude cs
  | cs => readMagnitude cs

end RateSweep.Number
