import Mathlib
import RateSweep.Yaml.Value

namespace RateSweep

namespace Yaml.Document

/-- Every key is a text, and none of the names is the text of two of them. -/
structure IsRecord (d : Document) (names : List String) (entries : List (Node × Node)) : Prop where
  texts : ∀ e ∈ entries, ∃ name, d.text? e.1 = some name
  distinct : entries.Pairwise fun e f => ∀ name ∈ names,
    d.text? e.1 = some name → d.text? f.1 ≠ some name

def HasEntry (d : Document) (entries : List (Node × Node)) (name : String) (v : Node) : Prop :=
  ∃ e ∈ entries, d.text? e.1 = some name ∧ e.2 = v

structure Lists (d : Document) (names : List String) (entries : List (Node × Node))
    (fs : List (String × Node)) : Prop where
  mem_iff : ∀ name v, (name, v) ∈ fs ↔ name ∈ names ∧ d.HasEntry entries name v
  nodup : (fs.map Prod.fst).Nodup

variable {d : Document} {names : List String} {name : String} {n v : Node} {e : Node × Node}
  {entries : List (Node × Node)} {fs : List (String × Node)}

theorem hasEntry_cons_iff (he : d.text? e.1 = some name) {other : String} :
    d.HasEntry (e :: entries) other v ↔ other = name ∧ v = e.2 ∨ d.HasEntry entries other v := by
  simp only [HasEntry, List.exists_mem_cons_iff, he, Option.some.injEq, eq_comm]

theorem isRecord_cons_iff (he : d.text? e.1 = some name) : d.IsRecord names (e :: entries) ↔
    d.IsRecord names entries ∧ (name ∈ names → ∀ v, ¬ d.HasEntry entries name v) := by
  constructor
  · rintro ⟨htexts, hdistinct⟩
    obtain ⟨-, htexts⟩ := List.forall_mem_cons.1 htexts
    obtain ⟨hfirst, hdistinct⟩ := List.pairwise_cons.1 hdistinct
    refine ⟨⟨htexts, hdistinct⟩, ?_⟩
    rintro hname v ⟨f, hf, htext, -⟩
    exact hfirst f hf name hname he htext
  · rintro ⟨⟨htexts, hdistinct⟩, hnew⟩
    refine ⟨List.forall_mem_cons.2 ⟨⟨name, he⟩, htexts⟩, List.pairwise_cons.2 ⟨?_, hdistinct⟩⟩
    intro f hf other hother htext hf'
    obtain rfl := Option.some.inj (he.symm.trans htext)
    exact hnew hother f.2 ⟨f, hf, hf', rfl⟩

theorem Lists.mem_names_iff (h : d.Lists names entries fs) :
    name ∈ fs.map Prod.fst ↔ name ∈ names ∧ ∃ v, d.HasEntry entries name v := by
  simp only [List.mem_map, Prod.exists, exists_and_right, exists_eq_right, h.mem_iff,
    exists_and_left]

theorem Lists.cons_unnamed (h : d.Lists names entries fs) (he : d.text? e.1 = some name)
    (hname : name ∉ names) : d.Lists names (e :: entries) fs := by
  refine ⟨fun other v => ?_, h.nodup⟩
  rw [h.mem_iff, hasEntry_cons_iff he]
  grind

theorem Lists.cons_named (h : d.Lists names entries fs) (he : d.text? e.1 = some name)
    (hname : name ∈ names) (hnew : name ∉ fs.map Prod.fst) :
    d.Lists names (e :: entries) ((name, e.2) :: fs) := by
  refine ⟨fun other v => ?_, List.nodup_cons.2 ⟨hnew, h.nodup⟩⟩
  rw [List.mem_cons, h.mem_iff, hasEntry_cons_iff he, Prod.mk.injEq]
  grind

theorem entriesNamed_cases (names : List String) (d : Document) (entries : List (Node × Node)) :
    (∃ fs, entriesNamed names d entries = some fs ∧ d.IsRecord names entries ∧
      d.Lists names entries fs) ∨
    entriesNamed names d entries = none ∧ ¬ d.IsRecord names entries := by
  induction entries with
  | nil =>
    refine .inl ⟨[], rfl, ⟨?_, .nil⟩, ?_, List.nodup_nil⟩
    · simp
    · simp [HasEntry]
  | cons e entries ih =>
    obtain ⟨k, v⟩ := e
    cases htext : d.text? k with
    | none =>
      refine .inr ⟨by simp [entriesNamed, htext], fun h => ?_⟩
      obtain ⟨name, hname⟩ := h.texts (k, v) List.mem_cons_self
      rw [htext] at hname
      cases hname
    | some name =>
      rw [isRecord_cons_iff htext]
      rcases ih with ⟨fs, hfs, hrecord, hlists⟩ | ⟨hnone, hno⟩
      · have hany : fs.any (·.1 = name) = true ↔ name ∈ fs.map Prod.fst := by
          simp [List.any_eq_true]
        have hnew : (name ∈ names → ∀ v, ¬ d.HasEntry entries name v) ↔
            name ∉ fs.map Prod.fst := by
          rw [hlists.mem_names_iff, not_and, not_exists]
        rw [hnew]
        by_cases hmem : name ∈ names
        · by_cases hold : name ∈ fs.map Prod.fst
          · exact .inr ⟨by simp [entriesNamed, htext, hfs, hmem, hany.2 hold], fun h => h.2 hold⟩
          · have hread : entriesNamed names d ((k, v) :: entries) = some ((name, v) :: fs) := by
              simp [entriesNamed, htext, hfs, hmem, mt hany.1 hold]
            exact .inl ⟨_, hread, ⟨hrecord, hold⟩, hlists.cons_named htext hmem hold⟩
        · have hread : entriesNamed names d ((k, v) :: entries) = some fs := by
            simp [entriesNamed, htext, hfs, hmem]
          have hold : name ∉ fs.map Prod.fst := fun h => hmem (hlists.mem_names_iff.1 h).1
          exact .inl ⟨fs, hread, ⟨hrecord, hold⟩, hlists.cons_unnamed htext hmem⟩
      · exact .inr ⟨by simp [entriesNamed, htext, hnone], fun h => hno h.1⟩

theorem Lists.lookup_eq_some_iff (h : d.Lists names entries fs) (hname : name ∈ names) :
    fs.lookup name = some v ↔ d.HasEntry entries name v := by
  rw [List.lookup_eq_some_iff]
  constructor
  · rintro ⟨before, after, rfl, -⟩
    exact ((h.mem_iff name v).1 (by simp)).2
  · intro hentry
    obtain ⟨before, after, rfl⟩ := List.append_of_mem ((h.mem_iff name v).2 ⟨hname, hentry⟩)
    refine ⟨before, after, rfl, fun p hp => ?_⟩
    have hnodup := h.nodup
    rw [List.map_append, List.map_cons] at hnodup
    have hne := (List.nodup_append.1 hnodup).2.2 p.1 (List.mem_map_of_mem hp) name (by simp)
    simpa using Ne.symm hne

theorem Lists.lookup_eq_none_iff (h : d.Lists names entries fs) (hname : name ∈ names) :
    fs.lookup name = none ↔ ∀ v, ¬ d.HasEntry entries name v := by
  simp only [← h.lookup_eq_some_iff hname, Option.eq_none_iff_forall_ne_some]

def entries? (d : Document) (n : Node) : Option (List (Node × Node)) :=
  match d.resolve n with
  | some (.mapping _ entries) => some entries
  | some (.scalar _ [] .plain _) => some []
  | _ => none

theorem fields?_eq (names : List String) (d : Document) (n : Node) :
    d.fields? names n = (d.entries? n).bind (entriesNamed names d) := by
  unfold fields? entries?
  cases d.resolve n with
  | none => rfl
  | some m =>
    cases m with
    | reference => rfl
    | sequence => rfl
    | mapping => rfl
    | scalar anchor text style tag =>
      cases text with
      | nil => cases style <;> rfl
      | cons => rfl

theorem fields?_bind_eq_some_iff {α : Type} {a : α} {f : List (String × Node) → Option α}
    {p : List (Node × Node) → Prop}
    (hf : ∀ entries fs, d.Lists names entries fs → (f fs = some a ↔ p entries)) :
    (d.fields? names n).bind f = some a ↔
      ∃ entries, d.entries? n = some entries ∧ d.IsRecord names entries ∧ p entries := by
  rw [fields?_eq]
  cases hentries : d.entries? n with
  | none => simp
  | some entries =>
    rcases entriesNamed_cases names d entries with ⟨fs, hfs, hrecord, hlists⟩ | ⟨hnone, hno⟩
    · simp [hfs, hrecord, hf entries fs hlists]
    · simp [hnone, hno]

end Yaml.Document

namespace Yaml

open Number (hexValue?)

theorem digitOf?_ten {c : Char} (h : c.isDigit = true) : digitOf? 10 c = some (c.toNat - 48) := by
  have hle : c.toNat ≤ 57 := by
    simp only [Char.isDigit, Bool.and_eq_true, decide_eq_true_eq] at h
    exact h.2
  unfold digitOf? hexValue?
  rw [if_pos h, Option.filter_some, if_pos (by simp; omega)]

theorem foldlM_digitOf? {ds : List Char} (h : ∀ c ∈ ds, c.isDigit = true) (n : Nat) :
    ds.foldlM (fun n c => (digitOf? 10 c).map (10 * n + ·)) n =
      some (Nat.ofDigitChars 10 ds n) := by
  induction ds generalizing n with
  | nil => rfl
  | cons c ds ih =>
    obtain ⟨hc, hds⟩ := List.forall_mem_cons.1 h
    rw [List.foldlM_cons, digitOf?_ten hc, Nat.ofDigitChars_cons]
    exact ih hds _

theorem readRadix_toDigits {n : Nat} (h : n < UInt64.size) :
    readRadix 10 (Nat.toDigits 10 n) = some n := by
  have hdigits : ∀ c ∈ Nat.toDigits 10 n, c.isDigit = true :=
    fun c hc => Nat.isDigit_of_mem_toDigits (by decide) (by decide) hc
  rw [readRadix, if_neg (by simp [Nat.toDigits_ne_nil]), foldlM_digitOf? hdigits,
    Nat.ofDigitChars_ten_toDigits, Option.filter_some, if_pos (by simpa using h)]

theorem exists_cons_toDigits {n : Nat} (h : 0 < n) :
    ∃ c cs, Nat.toDigits 10 n = c :: cs ∧ c.isDigit = true ∧ c ≠ '0' := by
  induction n using Nat.strong_induction_on with
  | _ n ih =>
    have hfirst : ∀ k < 10, 0 < k → (Nat.digitChar k).isDigit = true ∧ Nat.digitChar k ≠ '0' := by
      decide
    rcases Nat.lt_or_ge n 10 with hlt | hge
    · exact ⟨_, [], Nat.toDigits_of_lt_base hlt, hfirst n hlt h⟩
    · obtain ⟨c, cs, hcs, hc⟩ := ih (n / 10) (by omega) (by omega)
      refine ⟨c, cs ++ [(n % 10).digitChar], ?_, hc⟩
      rw [Nat.toDigits_of_base_le (by decide) hge, hcs, List.cons_append]

theorem readNumber_of_digit {c : Char} {cs : List Char} (hdigit : c.isDigit = true)
    (hzero : c ≠ '0') : readNumber (c :: cs) = readRadix 10 (c :: cs) := by
  have hplus : c ≠ '+' := by
    rintro rfl
    revert hdigit
    decide
  simp [readNumber, hplus, hzero]

theorem readNumber_toDigits {n : Nat} (h : n < UInt64.size) :
    readNumber (Nat.toDigits 10 n) = some n := by
  rcases Nat.eq_zero_or_pos n with rfl | hpos
  · rfl
  · obtain ⟨c, cs, hcs, hdigit, hzero⟩ := exists_cons_toDigits hpos
    rw [← readRadix_toDigits h, hcs, readNumber_of_digit hdigit hzero]

theorem lt_of_readRadix {radix n : Nat} {cs : List Char} (h : readRadix radix cs = some n) :
    n < UInt64.size := by
  unfold readRadix at h
  split at h
  · cases h
  · obtain ⟨-, hlt⟩ := Option.filter_eq_some_iff.1 h
    exact of_decide_eq_true hlt

theorem lt_of_readNumber {n : Nat} {cs : List Char} (h : readNumber cs = some n) :
    n < UInt64.size := by
  unfold readNumber at h
  dsimp only at h
  split at h
  · exact lt_of_readRadix h
  · exact lt_of_readRadix h
  · exact lt_of_readRadix h
  · exact Option.some.inj h ▸ (by decide)
  · cases h
  · exact lt_of_readRadix h

namespace Node

def plain (text : String) : Node := .scalar none text.toList .plain none

def number (n : Nat) : Node := .scalar none (Nat.toDigits 10 n) .plain none

def list {α : Type} (item : α → Node) (xs : List α) : Node := .sequence none (xs.map item)

def record (entries : List (String × Node)) : Node :=
  .mapping none (entries.map fun e => (plain e.1, e.2))

end Node

namespace Document

variable {d : Document}

theorem lt_of_number? {n : Node} {k : Nat} (h : d.number? n = some k) : k < UInt64.size := by
  unfold number? at h
  split at h
  · split at h
    · exact lt_of_readNumber h
    · cases h
  · cases h

theorem text?_plain (text : String) : d.text? (.plain text) = some text := by
  simp [text?, Node.plain, resolve]

theorem name?_plain (text : String) : d.name? (.plain text) = some text := by
  simp [name?, Node.plain, resolve]

theorem number?_number {n : Nat} (h : n < UInt64.size) : d.number? (.number n) = some n :=
  readNumber_toDigits h

theorem word?_number (n : UInt32) : d.word? (.number n.toNat) = some n := by
  have hlt : n.toNat < UInt32.size := n.toNat_lt
  rw [word?, number?_number (hlt.trans (by decide)), Option.filter_some, if_pos (by simpa using hlt)]
  simp

theorem bool?_plain (b : Bool) : d.bool? (.plain (toString b)) = some b := by
  cases b <;> rfl

theorem list?_list {α : Type} {item : α → Node} {read : Node → Option α}
    (h : ∀ x, read (item x) = some x) (xs : List α) :
    d.list? read (.list item xs) = some xs := by
  change (xs.map item).mapM read = some xs
  induction xs with
  | nil => rfl
  | cons x xs ih => rw [List.map_cons, List.mapM_cons, h, ih]; rfl

theorem hasEntry_record_iff {entries : List (String × Node)} {name : String} {v : Node} :
    d.HasEntry (entries.map fun e => (.plain e.1, e.2)) name v ↔ (name, v) ∈ entries := by
  simp [HasEntry, text?_plain]

theorem isRecord_record {entries : List (String × Node)} {names : List String}
    (h : (entries.map Prod.fst).Nodup) :
    d.IsRecord names (entries.map fun e => (.plain e.1, e.2)) := by
  constructor
  · rintro _ he
    obtain ⟨e, -, rfl⟩ := List.mem_map.1 he
    exact ⟨e.1, text?_plain _⟩
  · rw [List.pairwise_map]
    refine (List.pairwise_map.1 h).imp ?_
    intro e f hne name _ he hf
    rw [text?_plain] at he hf
    exact hne (Option.some.inj (he.trans hf.symm))

end Document

end Yaml

end RateSweep
