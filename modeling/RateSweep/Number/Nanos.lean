namespace RateSweep

abbrev Nanos := Int64

namespace Nanos

def InRange (n : Int) : Prop := Int64.minValue.toInt ≤ n ∧ n ≤ Int64.maxValue.toInt

instance (n : Int) : Decidable (InRange n) := inferInstanceAs (Decidable (_ ∧ _))

theorem inRange_iff {n : Int} : InRange n ↔ -9223372036854775808 ≤ n ∧ n < 9223372036854775808 := by
  have h1 : Int64.minValue.toInt = -9223372036854775808 := by decide
  have h2 : Int64.maxValue.toInt = 9223372036854775807 := by decide
  simp only [InRange, h1, h2]
  omega

theorem inRange_toInt (a : Nanos) : InRange a.toInt := ⟨a.minValue_le_toInt, a.toInt_le⟩

def ofInt? (n : Int) : Option Nanos := if InRange n then some (Int64.ofInt n) else none

theorem ofInt?_eq_some_iff {n : Int} {a : Nanos} : ofInt? n = some a ↔ a.toInt = n := by
  unfold ofInt?
  split
  · next h =>
    have hn := inRange_iff.1 h
    have e : (Int64.ofInt n).toInt = n := Int64.toInt_ofInt_of_le hn.1 hn.2
    constructor
    · intro h
      rw [← Option.some.inj h, e]
    · intro h
      rw [← h, Int64.ofInt_toInt]
  · next h =>
    constructor
    · intro e
      cases e
    · intro e
      exact absurd (e ▸ inRange_toInt a) h

theorem ofInt?_eq_none_iff {n : Int} : ofInt? n = none ↔ ¬ InRange n := by
  unfold ofInt?
  split <;> simp_all

def add? (a b : Nanos) : Option Nanos := ofInt? (a.toInt + b.toInt)

def sub? (a b : Nanos) : Option Nanos := ofInt? (a.toInt - b.toInt)

def addClamped (a b : Nanos) : Nanos := Int64.ofIntClamp (a.toInt + b.toInt)

def subClamped (a b : Nanos) : Nanos := Int64.ofIntClamp (a.toInt - b.toInt)

end Nanos

end RateSweep
