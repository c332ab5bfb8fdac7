namespace RateSweep.Number

def readDigits (cs : List Char) : Option Nat :=
  if !cs.isEmpty && cs.all Char.isDigit then some (Nat.ofDigitChars 10 cs 0) else none

theorem readDigits_eq_some_iff {cs : List Char} {n : Nat} :
    readDigits cs = some n ↔
      cs ≠ [] ∧ (∀ c ∈ cs, c.isDigit = true) ∧ Nat.ofDigitChars 10 cs 0 = n := by
  cases cs <;> simp [readDigits, and_assoc]

theorem readDigits_toDigits (n : Nat) : readDigits (Nat.toDigits 10 n) = some n :=
  readDigits_eq_some_iff.2 ⟨Nat.toDigits_ne_nil,
    fun _ h => Nat.isDigit_of_mem_toDigits (by decide) (by decide) h, Nat.ofDigitChars_ten_toDigits⟩

def readUnsigned (bound : Nat) (cs : List Char) : Option Nat :=
  let digits := match cs with
    | '+' :: ds => ds
    | ds => ds
  (readDigits digits).filter (· < bound)

def signedBound : Nat := 9223372036854775808

def readSigned (cs : List Char) : Option Int :=
  match cs with
  | '-' :: ds => ((readDigits ds).filter (· ≤ signedBound)).map fun n => -(n : Int)
  | '+' :: ds => ((readDigits ds).filter (· < signedBound)).map fun n => (n : Int)
  | ds => ((readDigits ds).filter (· < signedBound)).map fun n => (n : Int)

def readU32 (s : String) : Option UInt32 := (readUnsigned UInt32.size s.toList).map UInt32.ofNat

def readU64 (s : String) : Option UInt64 := (readUnsigned UInt64.size s.toList).map UInt64.ofNat

def readI64 (s : String) : Option Int64 := (readSigned s.toList).map Int64.ofInt

end RateSweep.Number
