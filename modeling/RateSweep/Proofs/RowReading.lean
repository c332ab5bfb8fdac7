import Mathlib
import RateSweep.Log.Body

namespace RateSweep

section Values

variable {ε α β : Type}

theorem toOption_eq_some_iff {x : Except ε α} {a : α} : x.toOption = some a ↔ x = .ok a := by
  cases x <;> simp [Except.toOption]

theorem toOption_bind (x : Except ε α) (f : α → Except ε β) :
    (x >>= f).toOption = x.toOption.bind fun a => (f a).toOption := by
  cases x <;> rfl

theorem toOption_throw (e : ε) : (throw e : Except ε α).toOption = none := rfl

theorem toOption_ite (c : Prop) [Decidable c] (x y : Except ε α) :
    (if c then x else y).toOption = if c then x.toOption else y.toOption :=
  apply_ite Except.toOption c x y

end Values

structure ReadsFields {α : Type} (read : Row → Except RecordError α) : Prop where
  congr : ∀ {r s : Row}, r.fields = s.fields → (read r).toOption = (read s).toOption
  nonempty : ∀ {r : Row}, r.fields = [] → (read r).toOption = none

namespace Row

theorem toOption_parse {α : Type} (read : String → Option α) (r : Row) (index : Nat)
    (column kind : String) : (r.parse read index column kind).toOption = read (r.text index) := by
  unfold parse
  cases read (r.text index) <;> rfl

theorem toOption_parseOptional {α : Type} (read : String → Option α) (r : Row) (index : Nat)
    (column kind : String) :
    (r.parseOptional read index column kind).toOption =
      if r.text index = "" then some none else (read (r.text index)).map some := by
  unfold parseOptional parse
  split
  · rfl
  · cases read (r.text index) <;> rfl

theorem toOption_parseFinite (r : Row) (index : Nat) (column : String) :
    (r.parseFinite index column).toOption =
      (Number.readFloat (r.text index)).filter Float.isFinite :=
  toOption_parse _ r index column "number"

theorem toOption_expectWidth (r : Row) (accepted : List Nat) (expected : String) :
    (r.expectWidth accepted expected).toOption = if r.width ∈ accepted then some () else none := by
  unfold expectWidth
  split <;> rfl

theorem parse_congr {α : Type} (read : String → Option α) {r s : Row} {index : Nat}
    (hline : r.line = s.line) (htext : r.text index = s.text index) (column kind : String) :
    r.parse read index column kind = s.parse read index column kind := by
  unfold parse invalid
  rw [htext, hline]

variable {r s : Row} (h : r.fields = s.fields)

include h

theorem width_congr : r.width = s.width := by rw [width, width, h]

theorem text_congr (index : Nat) : r.text index = s.text index := by rw [text, text, h]

theorem rest_congr (index : Nat) : r.rest index = s.rest index := by rw [rest, rest, h]

end Row

theorem toOption_queueOfRow? (clusterSize : Nat) (r : Row) :
    (BalancerRecord.queueOfRow? clusterSize r).toOption =
      if r.rest BalancerRecord.queueColumn = "" then some none
      else (QueueSnapshot.ofText? (r.rest BalancerRecord.queueColumn) clusterSize).toOption.map
        some := by
  unfold BalancerRecord.queueOfRow?
  simp only
  split
  · rfl
  · split <;> simp_all [Except.toOption]

theorem readsFields_balancer (clusterSize : Nat) :
    ReadsFields (BalancerRecord.ofRow? clusterSize) where
  congr {r s} h := by
    simp only [BalancerRecord.ofRow?, toOption_bind, toOption_throw, toOption_ite,
      Row.toOption_parse, toOption_queueOfRow?, Row.width_congr h, Row.text_congr h,
      Row.rest_congr h]
  nonempty {r} h := by
    have hwidth : r.width ≤ BalancerRecord.queueColumn := by simp [Row.width, h]
    rw [BalancerRecord.ofRow?, if_pos hwidth, toOption_bind, toOption_throw]
    rfl

theorem readsFields_cluster : ReadsFields ClusterRecord.ofRow? where
  congr {r s} h := by
    simp only [ClusterRecord.ofRow?, toOption_bind, toOption_throw, toOption_ite,
      Row.toOption_parse, Row.toOption_parseOptional, Row.toOption_expectWidth, Row.width_congr h,
      Row.text_congr h]
  nonempty {r} h := by
    have hwidth : r.width ∉ [7, 8] := by simp [Row.width, h]
    rw [ClusterRecord.ofRow?, toOption_bind, Row.toOption_expectWidth, if_neg hwidth]
    rfl

theorem readsFields_client : ReadsFields ClientRecord.ofRow? where
  congr {r s} h := by
    simp only [ClientRecord.ofRow?, toOption_bind, Row.toOption_parse, Row.toOption_parseFinite,
      Row.toOption_expectWidth, Row.width_congr h, Row.text_congr h]
  nonempty {r} h := by
    have hwidth : r.width ∉ [2] := by simp [Row.width, h]
    rw [ClientRecord.ofRow?, toOption_bind, Row.toOption_expectWidth, if_neg hwidth]
    rfl

end RateSweep
