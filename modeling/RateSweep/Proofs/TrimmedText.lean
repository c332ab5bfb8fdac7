import Mathlib
import RateSweep.Text.Blank

namespace RateSweep.Text

def trimChars (cs : List Char) : List Char := trimEnd (trimStart cs)

theorem trim_eq (s : String) : trim s = String.ofList (trimChars s.toList) := rfl

theorem trim_ofList (cs : List Char) : trim (String.ofList cs) = String.ofList (trimChars cs) := by
  rw [trim_eq, String.toList_ofList]

theorem toList_trim (s : String) : (trim s).toList = trimChars s.toList := by
  rw [trim_eq, String.toList_ofList]

theorem dropWhile_dropWhile {α : Type} {p q : α → Bool} (h : ∀ a, p a = true → q a = true)
    (l : List α) : (l.dropWhile p).dropWhile q = l.dropWhile q := by
  induction l with
  | nil => rfl
  | cons a l ih =>
    by_cases hp : p a
    · rw [List.dropWhile_cons_of_pos hp, List.dropWhile_cons_of_pos (h a hp), ih]
    · rw [List.dropWhile_cons_of_neg hp]

theorem trimEnd_cons (c : Char) (cs : List Char) :
    trimEnd (c :: cs) = if trimEnd cs = [] ∧ isBlank c = true then [] else c :: trimEnd cs := by
  unfold trimEnd
  rw [List.reverse_cons, List.dropWhile_append]
  by_cases h : cs.reverse.dropWhile isBlank = []
  · by_cases hc : isBlank c <;> simp [h, hc]
  · simp [h]

theorem trimEnd_trimEnd (cs : List Char) : trimEnd (trimEnd cs) = trimEnd cs := by
  have hidem := dropWhile_dropWhile (p := isBlank) (fun _ h => h) cs.reverse
  rw [trimEnd, trimEnd, List.reverse_reverse, hidem]

theorem trimStart_trimEnd (cs : List Char) : trimStart (trimEnd cs) = trimEnd (trimStart cs) := by
  induction cs with
  | nil => rfl
  | cons c cs ih =>
    by_cases hc : isBlank c = true
    · have hstart : trimStart (c :: cs) = trimStart cs := List.dropWhile_cons_of_pos hc
      rw [hstart, ← ih, trimEnd_cons]
      split
      · next h => rw [h.1]
      · exact List.dropWhile_cons_of_pos hc
    · have hstart : trimStart (c :: cs) = c :: cs := List.dropWhile_cons_of_neg hc
      have hend : trimEnd (c :: cs) = c :: trimEnd cs := by simp [trimEnd_cons, hc]
      rw [hstart, hend]
      exact List.dropWhile_cons_of_neg hc

section Outer

variable {p : Char → Bool} (hp : ∀ c, p c = true → isBlank c = true) (cs : List Char)

include hp

theorem trimChars_dropWhile : trimChars (cs.dropWhile p) = trimChars cs := by
  rw [trimChars, trimStart, dropWhile_dropWhile hp]
  rfl

theorem trimChars_dropWhile_reverse :
    trimChars (cs.reverse.dropWhile p).reverse = trimChars cs := by
  have hend : trimEnd (cs.reverse.dropWhile p).reverse = trimEnd cs := by
    rw [trimEnd, List.reverse_reverse, dropWhile_dropWhile hp]
    rfl
  rw [trimChars, ← trimStart_trimEnd, hend, trimStart_trimEnd]
  rfl

end Outer

theorem trimChars_trimChars (cs : List Char) : trimChars (trimChars cs) = trimChars cs := by
  have h : ∀ c, isBlank c = true → isBlank c = true := fun _ hc => hc
  calc trimChars (trimChars cs)
      = trimChars (trimStart cs) := trimChars_dropWhile_reverse h (trimStart cs)
    _ = trimChars cs := trimChars_dropWhile h cs

theorem trim_trim (s : String) : trim (trim s) = trim s := by
  rw [trim_eq (trim s), toList_trim, trimChars_trimChars, trim_eq]

end RateSweep.Text
