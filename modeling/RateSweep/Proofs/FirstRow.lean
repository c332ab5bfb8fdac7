import Mathlib
import RateSweep.Log.Body

namespace RateSweep

namespace Csv

theorem record_start_of_recordsFrom {start : Position} {bs : List UInt8} {r s : Record}
    {rs : List Record} (h : recordsFrom start bs = r :: s :: rs) :
    s.start.record = start.record + 1 := by
  rw [recordsFrom] at h
  simp only at h
  split at h
  · cases h
  · obtain ⟨-, h⟩ := List.cons.inj h
    rw [recordsFrom] at h
    simp only at h
    split at h
    · cases h
    · obtain ⟨rfl, -⟩ := List.cons.inj h
      rfl

theorem start_ne_first {body : List UInt8} {r s : Record} {rs : List Record}
    (h : records body = r :: s :: rs) : s.start ≠ .first := by
  have hrecord : s.start.record = 1 := by
    unfold records at h
    split at h
    · simp only at h
      split at h
      · cases h
      · next hread =>
        obtain ⟨-, rfl⟩ := List.cons.inj h
        exact record_start_of_recordsFrom hread
    · exact record_start_of_recordsFrom h
  intro hfirst
  rw [hfirst] at hrecord
  cases hrecord

end Csv

namespace Log

theorem decodeFields_cases (index : Nat) (fields : List Csv.Field) :
    (∃ texts, ∀ position, decodeFields position index fields = .ok texts) ∨
      ∃ field n, ∀ position,
        decodeFields position index fields = .error (.notUtf8 position field n) := by
  induction fields generalizing index with
  | nil => exact .inl ⟨[], fun _ => rfl⟩
  | cons f fields ih =>
    cases hf : Text.decode f with
    | error n => exact .inr ⟨index, n, fun position => by simp only [decodeFields, hf]⟩
    | ok s =>
      rcases ih (index + 1) with ⟨texts, htexts⟩ | ⟨field, n, hfault⟩
      · exact .inl ⟨s :: texts, fun position => by simp only [decodeFields, hf, htexts, Except.map]⟩
      · exact .inr ⟨field, n, fun position => by simp only [decodeFields, hf, hfault, Except.map]⟩

theorem rowAt_cases (r : Csv.Record) :
    (∃ row, ∀ position, rowAt position r = .ok row) ∨
      ∃ field n, ∀ position, rowAt position r = .error (.notUtf8 position field n) := by
  rcases decodeFields_cases 0 (r.fields.map Text.trimBytes) with ⟨texts, h⟩ | ⟨field, n, h⟩
  · exact .inl ⟨⟨r.start.line, texts.map Text.trim⟩, fun position => by rw [rowAt, h]; rfl⟩
  · exact .inr ⟨field, n, fun position => by rw [rowAt, h]; rfl⟩

theorem exists_rowAt_of_mem_rows {use : HeaderUse} {body : List UInt8} {x : Except RecordError Row}
    (h : x ∈ rows use body) :
    ∃ position, ∃ r ∈ Csv.records body, rowAt position r = x := by
  unfold rows at h
  split at h
  · cases h
  · next r rs hrs =>
    have hmem : ∀ s ∈ r :: rs, s ∈ Csv.records body := by
      rw [← hrs]
      exact fun s hs => List.mem_of_mem_drop hs
    rcases List.mem_cons.1 h with h | h
    · exact ⟨_, r, hmem r List.mem_cons_self, h.symm⟩
    · obtain ⟨s, hs, hrow⟩ := List.mem_map.1 h
      exact ⟨_, s, hmem s (List.mem_cons_of_mem r hs), hrow⟩

def FirstRowIsText (body : List UInt8) : Prop :=
  ∀ r ∈ (Csv.records body)[1]?, ∃ row, rowAt r.start r = .ok row

theorem rows_cases (body : List UInt8) :
    (FirstRowIsText body ∧ rows .passedOver body = rows .kept body) ∨
      ∃ r field n others, (Csv.records body)[1]? = some r ∧ r.start ≠ .first ∧
        rowAt r.start r = .error (.notUtf8 r.start field n) ∧
        rows .kept body = .error (.notUtf8 r.start field n) :: others ∧
        rows .passedOver body = .error (.notUtf8 .first field n) :: others := by
  unfold FirstRowIsText rows
  rcases hread : Csv.records body with _ | ⟨first, _ | ⟨r, rs⟩⟩
  · exact .inl ⟨by simp, rfl⟩
  · exact .inl ⟨by simp, rfl⟩
  · have hget : (first :: r :: rs)[1]? = some r := rfl
    rcases rowAt_cases r with ⟨row, hrow⟩ | ⟨field, n, hfault⟩
    · left
      rw [hget]
      exact ⟨by simpa using ⟨row, hrow r.start⟩, by simp [hrow]⟩
    · right
      exact ⟨r, field, n, rs.map fun r => rowAt r.start r, hget, Csv.start_ne_first hread, hfault _,
        by simp [hfault], by simp [hfault]⟩

end Log

end RateSweep
