import RateSweep.Proofs.TrimmedText
import RateSweep.Steps
import RateSweep.Verbosity

namespace RateSweep

section Cuts

variable {α : Type} {p : α → Bool} {body body' rest rest' : List α}

theorem exists_cut (p : α → Bool) (l : List α) : ∃ body rest, l = body ++ rest ∧
    (∀ a ∈ body, p a = true) ∧ ∀ a, rest.head? = some a → p a = false := by
  refine ⟨l.takeWhile p, l.dropWhile p, List.takeWhile_append_dropWhile.symm,
    fun a ha => List.mem_takeWhile_imp ha, fun a ha => ?_⟩
  have hhead := List.head?_dropWhile_not p l
  rw [ha] at hhead
  simpa using hhead

theorem takeWhile_of_cut (hbody : ∀ a ∈ body, p a = true)
    (hrest : ∀ a, rest.head? = some a → p a = false) : (body ++ rest).takeWhile p = body := by
  rw [List.takeWhile_append_of_pos hbody]
  cases rest with
  | nil => simp
  | cons a rest => simp [hrest a rfl]

theorem cut_inj (hbody : ∀ a ∈ body, p a = true) (hbody' : ∀ a ∈ body', p a = true)
    (hrest : ∀ a, rest.head? = some a → p a = false)
    (hrest' : ∀ a, rest'.head? = some a → p a = false) (h : body ++ rest = body' ++ rest') :
    body = body' ∧ rest = rest' := by
  have htake := congrArg (List.takeWhile p) h
  rw [takeWhile_of_cut hbody hrest, takeWhile_of_cut hbody' hrest'] at htake
  subst htake
  exact ⟨rfl, List.append_cancel_left h⟩

end Cuts

namespace Verbosity

open Text

/-- A check that never has to cut inside a character, and passes where `p` holds. -/
structure Decides (x : Except Fault Unit) (p : Prop) : Prop where
  accepts : x = .ok () ↔ p
  untorn : x ≠ .error .torn

theorem Decides.congr {x : Except Fault Unit} {p q : Prop} (h : Decides x p) (hpq : p ↔ q) :
    Decides x q := ⟨h.accepts.trans hpq, h.untorn⟩

theorem decides_require (p : Bool) : Decides (require p) (p = true) := by
  cases p <;> exact ⟨by simp [require], by simp [require]⟩

theorem decides_malformed {p : Prop} (h : ¬ p) : Decides (.error .malformed) p :=
  ⟨by simp [h], by simp⟩

theorem decides_ok {p : Prop} (h : p) : Decides (.ok ()) p := ⟨by simp [h], by simp⟩

theorem require_bind {p : Bool} {x : Except Fault Unit} :
    (do require p; x) = if p = true then x else .error .malformed := by
  cases p <;> rfl

theorem decides_forM {texts : List (List Char)} {f : List Char → Except Fault Unit}
    {p : List Char → Prop} (h : ∀ text ∈ texts, Decides (f text) (p text)) :
    Decides (texts.forM f) (∀ text ∈ texts, p text) := by
  induction texts with
  | nil => exact decides_ok (by simp)
  | cons text texts ih =>
    obtain ⟨hfirst, hlater⟩ := List.forall_mem_cons.1 h
    have ih := ih hlater
    constructor
    · rw [List.forall_mem_cons, ← hfirst.accepts, ← ih.accepts]
      exact bind_eq_ok_iff.trans
        ⟨fun ⟨_, hx, hrest⟩ => ⟨hx, hrest⟩, fun ⟨hx, hrest⟩ => ⟨(), hx, hrest⟩⟩
    · intro htorn
      rcases bind_eq_error_iff.1 htorn with hx | ⟨_, -, hrest⟩
      · exact hfirst.untorn hx
      · exact ih.untorn hrest

theorem dropBytes_byteSize (before rest : List Char) :
    dropBytes (byteSize before) (before ++ rest) = .ok rest := by
  rw [dropBytes, splitBytes?_byteSize]

theorem slice_byteSize (before cs rest : List Char) :
    slice (byteSize before) (byteSize before + byteSize cs) (before ++ (cs ++ rest)) = .ok cs := by
  rw [slice, dropBytes_byteSize, Nat.add_sub_cancel_left]
  simp only [bind, Except.bind, splitBytes?_byteSize]
  rfl

/-- What may stand behind a target or a span, in front of the blanks that end the text. The blanks
are read as part of the level. -/
inductive EndsIn (blanks : List Char) : List Char → Prop
  | nothing : EndsIn blanks []
  | level {level : List Char} (h : isLevel (level ++ blanks) = true) : EndsIn blanks ('=' :: level)

inductive IsFields (blanks : List Char) : List Char → Prop
  | intro {field rest : List Char} (hpart : ∀ c ∈ field, isFieldPart c = true)
      (hfield : isField field = true) (hrest : EndsIn blanks rest) :
      IsFields blanks (field ++ '\x7d' :: ']' :: rest)

inductive IsSpan (blanks : List Char) : List Char → Prop
  | plain {name rest : List Char} (hname : ∀ c ∈ name, isNamePart c = true)
      (hrest : EndsIn blanks rest) : IsSpan blanks (name ++ ']' :: rest)
  | fields {name rest : List Char} (hname : ∀ c ∈ name, isNamePart c = true)
      (hrest : IsFields blanks rest) : IsSpan blanks (name ++ '\x7b' :: rest)

structure IsTarget (target : List Char) : Prop where
  starts : target.head?.any startsDirective = true
  parts : ∀ c ∈ target, isTargetPart c = true

inductive IsDirective (blanks : List Char) : List Char → Prop
  | span {rest : List Char} (hrest : IsSpan blanks rest) : IsDirective blanks ('[' :: rest)
  | target {target rest : List Char} (htarget : IsTarget target) (hrest : EndsIn blanks rest) :
      IsDirective blanks (target ++ rest)
  | targetSpan {target rest : List Char} (htarget : IsTarget target)
      (hrest : IsSpan blanks rest) : IsDirective blanks (target ++ '[' :: rest)

variable {blanks name field target rest : List Char}

def DecidesAt (f : List Char → Nat → List Char → Except Fault Unit)
    (p : List Char → List Char → Prop) : Prop :=
  ∀ before cs blanks, Decides (f (before ++ (cs ++ blanks)) (byteSize before) cs) (p blanks cs)

theorem DecidesAt.behind {f : List Char → Nat → List Char → Except Fault Unit}
    {p : List Char → List Char → Prop} (h : DecidesAt f p) (before cut rest blanks : List Char) :
    Decides (f (before ++ (cut ++ (rest ++ blanks))) (byteSize before + byteSize cut) rest)
      (p blanks rest) := by
  rw [← List.append_assoc, ← byteSize_append]
  exact h (before ++ cut) rest blanks

theorem endsIn_cons_iff {c : Char} {level : List Char} :
    EndsIn blanks (c :: level) ↔ c = '=' ∧ isLevel (level ++ blanks) = true := by
  constructor
  · rintro ⟨⟩
    exact ⟨rfl, by assumption⟩
  · rintro ⟨rfl, h⟩
    exact .level h

theorem decidesAt_checkBehindSpan : DecidesAt checkBehindSpan EndsIn := by
  intro before cs blanks
  unfold checkBehindSpan
  split
  · exact decides_ok .nothing
  · next level =>
    have hdrop : dropBytes (byteSize before + 1) (before ++ ('=' :: level ++ blanks)) =
        .ok (level ++ blanks) := by
      simpa [byteSize_append, show byteSize ['='] = 1 from rfl]
        using dropBytes_byteSize (before ++ ['=']) (level ++ blanks)
    rw [hdrop]
    exact (decides_require _).congr (by simp [endsIn_cons_iff])
  · next hnil hmark =>
    cases cs with
    | nil => exact absurd rfl hnil
    | cons c level =>
      apply decides_malformed
      rintro ⟨⟩
      exact hmark level rfl

theorem isFields_of_part_iff (hpart : ∀ c ∈ field, isFieldPart c = true)
    (hrest : ∀ c, rest.head? = some c → isFieldPart c = false) :
    IsFields blanks (field ++ rest) ↔
      ∃ behind, rest = '\x7d' :: ']' :: behind ∧ isField field = true ∧ EndsIn blanks behind := by
  constructor
  · intro h
    generalize hcs : field ++ rest = cs at h
    obtain ⟨hpart', hfield, hends⟩ := h
    obtain ⟨rfl, rfl⟩ := cut_inj hpart hpart' hrest (by simp [isFieldPart]) hcs
    exact ⟨_, rfl, hfield, hends⟩
  · rintro ⟨behind, rfl, hfield, hends⟩
    exact ⟨hpart, hfield, hends⟩

theorem isSpan_of_name_iff (hname : ∀ c ∈ name, isNamePart c = true)
    (hrest : ∀ c, rest.head? = some c → isNamePart c = false) :
    IsSpan blanks (name ++ rest) ↔ (∃ behind, rest = ']' :: behind ∧ EndsIn blanks behind) ∨
      ∃ behind, rest = '\x7b' :: behind ∧ IsFields blanks behind := by
  constructor
  · intro h
    generalize hcs : name ++ rest = cs at h
    cases h with
    | plain hname' hends =>
      obtain ⟨rfl, rfl⟩ := cut_inj hname hname' hrest (by simp [isNamePart]) hcs
      exact .inl ⟨_, rfl, hends⟩
    | fields hname' hfields =>
      obtain ⟨rfl, rfl⟩ := cut_inj hname hname' hrest (by simp [isNamePart]) hcs
      exact .inr ⟨_, rfl, hfields⟩
  · rintro (⟨behind, rfl, hends⟩ | ⟨behind, rfl, hfields⟩)
    · exact .plain hname hends
    · exact .fields hname hfields

theorem decidesAt_checkFields : DecidesAt checkFields IsFields := by
  intro before cs blanks
  obtain ⟨field, rest, rfl, hpart, hrest⟩ := exists_cut isFieldPart cs
  apply Decides.congr _ (isFields_of_part_iff hpart hrest).symm
  have hslice := slice_byteSize before field (rest ++ blanks)
  simp only [checkFields, takeWhile_of_cut hpart hrest, List.drop_left, List.append_assoc]
  cases rest with
  | nil => exact decides_malformed (by simp)
  | cons c rest =>
    obtain rfl : c = '\x7d' := by simpa [isFieldPart] using hrest c rfl
    have hplace : byteSize (field ++ ['\x7d', ']']) = byteSize field + 2 := byteSize_append ..
    have hends := decidesAt_checkBehindSpan.behind before (field ++ ['\x7d', ']'])
    rw [hplace] at hends
    simp only [hslice, ok_bind, require_bind]
    split
    · next hfield =>
      split
      · next behind => simpa [hfield, Nat.add_assoc] using hends behind blanks
      · next hmark =>
        apply decides_malformed
        rintro ⟨behind, hbehind, -⟩
        exact hmark behind (List.cons.inj hbehind).2
    · next hfield => exact decides_malformed (by simp [hfield])

theorem decidesAt_checkSpan : DecidesAt checkSpan IsSpan := by
  intro before cs blanks
  obtain ⟨name, rest, rfl, hname, hrest⟩ := exists_cut isNamePart cs
  apply Decides.congr _ (isSpan_of_name_iff hname hrest).symm
  have hslice := slice_byteSize before name (rest ++ blanks)
  simp only [checkSpan, takeWhile_of_cut hname hrest, List.drop_left, List.append_assoc]
  cases rest with
  | nil => exact decides_malformed (by simp)
  | cons c rest =>
    have hc : c = ']' ∨ c = '\x7b' := by simpa [isNamePart, or_iff_not_imp_left] using hrest c rfl
    rcases hc with rfl | rfl
    · have hplace : byteSize (name ++ [']']) = byteSize name + 1 := byteSize_append ..
      have hends := decidesAt_checkBehindSpan.behind before (name ++ [']']) rest blanks
      rw [hplace] at hends
      simp only [hslice, ok_bind]
      simpa [Nat.add_assoc] using hends
    · have hplace : byteSize (name ++ ['\x7b']) = byteSize name + 1 := byteSize_append ..
      have hfields := decidesAt_checkFields.behind before (name ++ ['\x7b']) rest blanks
      rw [hplace] at hfields
      simp only [hslice, ok_bind]
      simpa [Nat.add_assoc] using hfields

theorem IsTarget.ne_nil (h : IsTarget target) : target ≠ [] := by
  rintro rfl
  simpa using h.starts

theorem IsTarget.of_append (h : IsTarget target) {c : Char} {cs : List Char}
    (hcs : target ++ rest = c :: cs) : startsDirective c = true ∧ isTargetPart c = true := by
  obtain ⟨d, target, rfl⟩ := List.exists_cons_of_ne_nil h.ne_nil
  obtain rfl : d = c := (List.cons.inj hcs).1
  exact ⟨by simpa using h.starts, h.parts d List.mem_cons_self⟩

theorem not_isDirective_nil : ¬ IsDirective blanks [] := by
  generalize hcs : [] = cs
  rintro (_ | ⟨htarget, -⟩ | _)
  · cases hcs
  · exact htarget.ne_nil (List.append_eq_nil_iff.1 hcs.symm).1
  · simp at hcs

theorem isDirective_bracket_iff : IsDirective blanks ('[' :: rest) ↔ IsSpan blanks rest := by
  refine ⟨fun h => ?_, .span⟩
  generalize hcs : '[' :: rest = cs at h
  cases h with
  | span hspan => exact (List.cons.inj hcs).2 ▸ hspan
  | target htarget => exact absurd (htarget.of_append hcs.symm).2 (by simp [isTargetPart])
  | targetSpan htarget => exact absurd (htarget.of_append hcs.symm).2 (by simp [isTargetPart])

theorem IsDirective.starts {c : Char} {cs : List Char} (h : IsDirective blanks (c :: cs))
    (hc : c ≠ '[') : startsDirective c = true := by
  generalize hcs : c :: cs = text at h
  cases h with
  | span => exact absurd (List.cons.inj hcs).1 hc
  | target htarget => exact (htarget.of_append hcs.symm).1
  | targetSpan htarget => exact (htarget.of_append hcs.symm).1

theorem isDirective_of_target_iff (htarget : IsTarget target)
    (hrest : ∀ c, rest.head? = some c → isTargetPart c = false) :
    IsDirective blanks (target ++ rest) ↔
      EndsIn blanks rest ∨ ∃ behind, rest = '[' :: behind ∧ IsSpan blanks behind := by
  constructor
  · intro h
    generalize hcs : target ++ rest = cs at h
    cases h with
    | span => exact absurd (htarget.of_append hcs).2 (by simp [isTargetPart])
    | @target target' rest' htarget' hends =>
      have hrest' : ∀ c, rest'.head? = some c → isTargetPart c = false := by
        cases hends <;> simp [isTargetPart]
      obtain ⟨rfl, rfl⟩ := cut_inj htarget.parts htarget'.parts hrest hrest' hcs
      exact .inl hends
    | targetSpan htarget' hspan =>
      obtain ⟨rfl, rfl⟩ :=
        cut_inj htarget.parts htarget'.parts hrest (by simp [isTargetPart]) hcs
      exact .inr ⟨_, rfl, hspan⟩
  · rintro (hends | ⟨behind, rfl, hspan⟩)
    · exact .target htarget hends
    · exact .targetSpan htarget hspan

theorem startsDirective_equals : startsDirective '=' = false := by
  simp only [startsDirective, isAlphanumeric, isAlphabetic, isNumeric, Ranges.has,
    ← Array.any_toList]
  decide +kernel

theorem isTargetPart_of_starts {c : Char} (h : startsDirective c = true) (hc : c ≠ '[') :
    isTargetPart c = true := by
  have hne : c ≠ '=' := by
    rintro rfl
    rw [startsDirective_equals] at h
    cases h
  simp [isTargetPart, hc, hne]

theorem trimEnd_append_blanks (text : List Char) :
    trimEnd text ++ text.rtakeWhile isBlank = text := by
  rw [trimEnd, List.rtakeWhile, ← List.reverse_append, List.takeWhile_append_dropWhile,
    List.reverse_reverse]

/-- A directive is cut where its characters end unless there are blanks in front of it. -/
theorem decides_checkDirective {text : List Char} (h : trimStart text = text) :
    Decides (checkDirective text) (IsDirective (text.rtakeWhile isBlank) (trimEnd text)) := by
  have htext := trimEnd_append_blanks text
  unfold checkDirective
  rw [h]
  generalize text.rtakeWhile isBlank = blanks at htext ⊢
  generalize trimEnd text = core at htext ⊢
  subst htext
  split
  · exact decides_malformed not_isDirective_nil
  · next rest =>
    exact (decidesAt_checkSpan.behind [] ['['] rest blanks).congr isDirective_bracket_iff.symm
  · next c cs hc =>
    rw [require_bind]
    split
    · next hstart =>
      obtain ⟨target, rest, hcs, hparts, hrest⟩ := exists_cut isTargetPart (c :: cs)
      have htarget : IsTarget target := by
        cases target with
        | nil =>
          have hmark := hrest c (by rw [← List.nil_append rest, ← hcs]; rfl)
          rw [isTargetPart_of_starts hstart hc] at hmark
          cases hmark
        | cons d target => exact ⟨by simpa [(List.cons.inj hcs).1] using hstart, hparts⟩
      have hslice : slice 0 (byteSize target) (target ++ (rest ++ blanks)) = .ok target := by
        simpa using slice_byteSize [] target (rest ++ blanks)
      simp only [hcs, takeWhile_of_cut hparts hrest, List.drop_left, List.append_assoc]
      apply Decides.congr _ (isDirective_of_target_iff htarget hrest).symm
      split
      · exact decides_ok (.inl .nothing)
      · next rest =>
        have hplace : byteSize (target ++ ['[']) = byteSize target + 1 := byteSize_append ..
        have hspan := decidesAt_checkSpan.behind [] (target ++ ['[']) rest blanks
        rw [hplace] at hspan
        have hiff : IsSpan blanks rest ↔ EndsIn blanks ('[' :: rest) ∨
            ∃ behind, '[' :: rest = '[' :: behind ∧ IsSpan blanks behind := by
          simp [endsIn_cons_iff]
        simp only [hslice, ok_bind]
        apply Decides.congr _ hiff
        simpa using hspan
      · next hnil hbracket =>
        have hends := decidesAt_checkBehindSpan.behind [] target rest blanks
        have hiff : EndsIn blanks rest ↔ EndsIn blanks rest ∨
            ∃ behind, rest = '[' :: behind ∧ IsSpan blanks behind := by
          refine ⟨.inl, fun h => h.resolve_right ?_⟩
          rintro ⟨behind, hrest, -⟩
          exact hbracket behind hrest
        simp only [hslice, ok_bind]
        apply Decides.congr _ hiff
        simpa using hends
    · next hstart =>
      apply decides_malformed
      intro h
      exact hstart (h.starts hc)

theorem decides_check {text : String}
    (h : ∀ piece ∈ split ',' text.toList, trimStart piece = piece) :
    Decides (check text) (∀ piece ∈ (split ',' text.toList).filter (!·.isEmpty),
      IsDirective (piece.rtakeWhile isBlank) (trimEnd piece)) :=
  decides_forM fun piece hpiece => decides_checkDirective (h piece (List.mem_of_mem_filter hpiece))

end Verbosity

end RateSweep
