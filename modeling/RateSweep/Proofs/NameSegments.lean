import Mathlib
import RateSweep.Experiment.Name
import RateSweep.Steps

namespace RateSweep

structure WritesCount (digits : String) (n : UInt32) : Prop where
  nonempty : digits ≠ ""
  digit : ∀ c ∈ digits.toList, c.isDigit = true
  value : Nat.ofDigitChars 10 digits.toList 0 = n.toNat

namespace Experiment

theorem readCount_eq_some_iff {s : String} {n : UInt32} : readCount s = some n ↔ WritesCount s n := by
  have hsize := n.toNat_lt_size
  simp only [readCount, Option.map_eq_some_iff, Option.filter_eq_some_iff, decide_eq_true_eq,
    Number.readDigits_eq_some_iff]
  constructor
  · rintro ⟨m, ⟨⟨hne, hd, hv⟩, hm⟩, rfl⟩
    refine ⟨by simpa using hne, hd, ?_⟩
    rw [hv, UInt32.toNat_ofNat_of_lt' hm]
  · rintro ⟨hne, hd, hv⟩
    exact ⟨n.toNat, ⟨⟨by simpa using hne, hd, hv⟩, hsize⟩, UInt32.ofNat_toNat⟩

theorem readPositive_eq_some_iff {s : String} {n : UInt32} :
    readPositive s = some n ↔ WritesCount s n ∧ 0 < n := by
  simp [readPositive, Option.filter_eq_some_iff, readCount_eq_some_iff]

theorem readHomogeneity_eq_some_iff {s : String} {b : Bool} :
    readHomogeneity s = some b ↔ s = homogeneityCode b := by
  unfold readHomogeneity
  split
  · cases b <;> simp [homogeneityCode]
  · cases b <;> simp [homogeneityCode]
  · cases b <;> simp_all [homogeneityCode]

theorem writesCount_toString (n : UInt32) : WritesCount (toString n.toNat) n := by
  rw [← readCount_eq_some_iff, readCount, Nat.toString_eq_ofList_toDigits]
  simp [Number.readDigits_toDigits, Option.filter, n.toNat_lt_size]

def Writes (e : Experiment) : Field → String → Prop
  | .algorithm, s => s = e.algorithm.code
  | .latency, s => WritesCount s e.latencyMs
  | .homogeneous, s => s = homogeneityCode e.homogeneous
  | .interval, s => WritesCount s e.intervalS ∧ 0 < e.intervalS
  | .fileSize, s => s = e.fileSize.code
  | .requestRate, s => WritesCount s e.requestRate ∧ 0 < e.requestRate

def Fits (e : Experiment) : Segment → String → Prop
  | .word w, s => s = w
  | .value field, s => e.Writes field s

end Experiment

inductive Misfit (position : Nat) : Segment → String → NameError → Prop
  | word {w s : String} (h : s ≠ w) : Misfit position (.word w) s (.unexpectedWord position w s)
  | value {field : Field} {s : String} (h : ∀ e : Experiment, ¬ e.Writes field s) :
    Misfit position (.value field) s (.invalidValue field s)

inductive FirstMisfit : Nat → List Segment → List String → NameError → Prop
  | here {position : Nat} {seg : Segment} {segs : List Segment} {s : String} {ss : List String}
      {err : NameError} (h : Misfit position seg s err) :
      FirstMisfit position (seg :: segs) (s :: ss) err
  | later {position : Nat} {seg : Segment} {segs : List Segment} {s : String} {ss : List String}
      {err : NameError} (hfit : ∃ e : Experiment, e.Fits seg s)
      (h : FirstMisfit (position + 1) segs ss err) :
      FirstMisfit position (seg :: segs) (s :: ss) err

theorem Misfit.not_fits {position : Nat} {seg : Segment} {s : String} {err : NameError}
    (h : Misfit position seg s err) (e : Experiment) : ¬ e.Fits seg s := by
  cases h with
  | word h => exact h
  | value h => exact h e

theorem Misfit.unique {position : Nat} {seg : Segment} {s : String} {err err' : NameError}
    (h : Misfit position seg s err) (h' : Misfit position seg s err') : err = err' := by
  cases h <;> cases h' <;> rfl

namespace FirstMisfit

variable {position : Nat} {segs : List Segment} {ss : List String} {err err' : NameError}

theorem not_fits (h : FirstMisfit position segs ss err) (e : Experiment) :
    ¬ List.Forall₂ e.Fits segs ss := by
  induction h with
  | here h =>
    intro hall
    cases hall with
    | cons hfit _ => exact h.not_fits e hfit
  | later _ _ ih =>
    intro hall
    cases hall with
    | cons _ hrest => exact ih hrest

theorem unique (h : FirstMisfit position segs ss err) (h' : FirstMisfit position segs ss err') :
    err = err' := by
  induction h with
  | here h =>
    cases h' with
    | here h' => exact h.unique h'
    | later hfit _ => exact absurd hfit.choose_spec (h.not_fits _)
  | later hfit _ ih =>
    cases h' with
    | here h' => exact absurd hfit.choose_spec (h'.not_fits _)
    | later _ h' => exact ih h'

theorem ne_missingField (h : FirstMisfit position segs ss err) (field : Field) :
    err ≠ .missingField field := by
  induction h with
  | here h => cases h <;> simp
  | later _ _ ih => exact ih

end FirstMisfit

namespace Experiment

def value (e : Experiment) : (field : Field) → field.Value
  | .algorithm => e.algorithm
  | .latency => e.latencyMs
  | .homogeneous => e.homogeneous
  | .interval => e.intervalS
  | .fileSize => e.fileSize
  | .requestRate => e.requestRate

theorem exists_value (field : Field) (v : field.Value) : ∃ e : Experiment, e.value field = v := by
  cases field with
  | algorithm => exact ⟨⟨v, 0, true, 1, .small, 1⟩, rfl⟩
  | latency => exact ⟨⟨.roundRobin, v, true, 1, .small, 1⟩, rfl⟩
  | homogeneous => exact ⟨⟨.roundRobin, 0, v, 1, .small, 1⟩, rfl⟩
  | interval => exact ⟨⟨.roundRobin, 0, true, v, .small, 1⟩, rfl⟩
  | fileSize => exact ⟨⟨.roundRobin, 0, true, 1, v, 1⟩, rfl⟩
  | requestRate => exact ⟨⟨.roundRobin, 0, true, 1, .small, v⟩, rfl⟩

theorem writes_iff {e : Experiment} {field : Field} {s : String} :
    e.Writes field s ↔ field.read s = some (e.value field) := by
  cases field with
  | algorithm => exact eq_comm.trans Algorithm.ofCode?_eq_some_iff.symm
  | latency => exact readCount_eq_some_iff.symm
  | homogeneous => exact readHomogeneity_eq_some_iff.symm
  | interval => exact readPositive_eq_some_iff.symm
  | fileSize => exact eq_comm.trans FileSize.ofCode?_eq_some_iff.symm
  | requestRate => exact readPositive_eq_some_iff.symm

end Experiment

namespace Draft

variable {d d' : Draft} {field other : Field} {position : Nat} {seg : Segment} {segs : List Segment}
  {s : String} {ss : List String} {err : NameError}

theorem put_self (d : Draft) (v : field.Value) : d.put field v field = some v := dif_pos rfl

theorem put_of_ne (d : Draft) (v : field.Value) (h : other ≠ field) : d.put field v other = d other :=
  dif_neg h

structure Takes (d : Draft) (field : Field) (s : String) (d' : Draft) : Prop where
  taken : ∀ e : Experiment, e.Writes field s ↔ d' field = some (e.value field)
  given : ∃ e : Experiment, e.Writes field s
  kept : ∀ other, other ≠ field → d' other = d other

theorem set_cases (d : Draft) (field : Field) (s : String) :
    (∃ d', d.set field s = .ok d' ∧ d.Takes field s d') ∨
      d.set field s = .error (.invalidValue field s) ∧ ∀ e : Experiment, ¬ e.Writes field s := by
  unfold set
  cases hread : field.read s with
  | some v =>
    left
    refine ⟨_, rfl, ?_, ?_, ?_⟩
    · intro e
      rw [Experiment.writes_iff, hread, put_self]
    · obtain ⟨e, he⟩ := Experiment.exists_value field v
      exact ⟨e, Experiment.writes_iff.2 (he ▸ hread)⟩
    · intro other hother
      exact d.put_of_ne v hother
  | none =>
    right
    refine ⟨rfl, ?_⟩
    intro e he
    rw [Experiment.writes_iff, hread] at he
    cases he

theorem take_eq_error (h : d.take position seg s = .error err) : Misfit position seg s err := by
  cases seg with
  | word w =>
    simp only [take] at h
    split at h
    · cases h
    · next hne =>
      cases h
      exact .word hne
  | value field =>
    rcases d.set_cases field s with ⟨d', hset, -⟩ | ⟨hset, hno⟩
    · rw [take, hset] at h
      cases h
    · rw [take, hset] at h
      cases h
      exact .value hno

theorem fits_of_take (h : d.take position seg s = .ok d') : ∃ e : Experiment, e.Fits seg s := by
  cases seg with
  | word w =>
    simp only [take] at h
    split at h
    · next heq => exact ⟨⟨.roundRobin, 0, true, 1, .small, 1⟩, heq⟩
    · cases h
  | value field =>
    rcases d.set_cases field s with ⟨d₁, -, htakes⟩ | ⟨hset, -⟩
    · exact htakes.given
    · rw [take, hset] at h
      cases h

theorem firstMisfit_of_takeAll (h : d.takeAll position segs ss = .error err) :
    FirstMisfit position segs ss err := by
  induction segs generalizing d position ss with
  | nil => cases h
  | cons seg segs ih =>
    cases ss with
    | nil => cases h
    | cons s ss =>
      simp only [takeAll] at h
      cases htake : d.take position seg s with
      | error err' =>
        rw [htake] at h
        obtain rfl : err' = err := Except.error.inj h
        exact .here (take_eq_error htake)
      | ok d' =>
        rw [htake] at h
        exact .later (fits_of_take htake) (ih h)

structure TakesAll (d : Draft) (segs : List Segment) (ss : List String) (d' : Draft) : Prop where
  taken : ∀ e : Experiment, List.Forall₂ e.Fits segs ss ↔
    ∀ field, .value field ∈ segs → d' field = some (e.value field)
  given : ∀ field, .value field ∈ segs → ∃ v, d' field = some v
  kept : ∀ field, .value field ∉ segs → d' field = d field

theorem takesAll_of_takeAll (hsegs : segs.Nodup) (hlength : segs.length = ss.length)
    (h : d.takeAll position segs ss = .ok d') : d.TakesAll segs ss d' := by
  induction segs generalizing d position ss with
  | nil =>
    obtain rfl : d = d' := Except.ok.inj h
    obtain rfl := List.length_eq_zero_iff.1 hlength.symm
    exact ⟨by simp, by simp, fun _ _ => rfl⟩
  | cons seg segs ih =>
    obtain ⟨hseg, hsegs⟩ := List.nodup_cons.1 hsegs
    cases ss with
    | nil => cases hlength
    | cons s ss =>
      have hlength : segs.length = ss.length := Nat.succ.inj hlength
      simp only [takeAll] at h
      cases htake : d.take position seg s with
      | error =>
        rw [htake] at h
        cases h
      | ok d₁ =>
        rw [htake] at h
        obtain ⟨htaken, hgiven, hkept⟩ := ih hsegs hlength h
        cases seg with
        | word w =>
          simp only [take] at htake
          split at htake
          · next heq =>
            obtain rfl : d = d₁ := Except.ok.inj htake
            refine ⟨?_, ?_, ?_⟩
            · intro e
              simp [List.forall₂_cons, Experiment.Fits, heq, htaken]
            · intro field hfield
              exact hgiven field (by simpa using hfield)
            · intro field hfield
              exact hkept field (by simpa using hfield)
          · cases htake
        | value field =>
          rcases d.set_cases field s with ⟨d₂, hset, htakes⟩ | ⟨hset, -⟩
          · obtain rfl : d₂ = d₁ := Except.ok.inj (hset.symm.trans htake)
            have hfield : d' field = d₂ field := hkept field hseg
            refine ⟨?_, ?_, ?_⟩
            · intro e
              simp [List.forall₂_cons, Experiment.Fits, htakes.taken, htaken, hfield]
            · intro other hother
              obtain heq | hother := List.mem_cons.1 hother
              · cases heq
                obtain ⟨e, he⟩ := htakes.given
                exact ⟨_, hfield.trans ((htakes.taken e).1 he)⟩
              · exact hgiven other hother
            · intro other hother
              rw [List.mem_cons, not_or] at hother
              rw [hkept other hother.2]
              apply htakes.kept
              intro heq
              exact hother.1 (congrArg Segment.value heq)
          · rw [take, hset] at htake
            cases htake

theorem build_eq_ok_iff {e : Experiment} :
    d.build = .ok e ↔ ∀ field, d field = some (e.value field) := by
  have hgiven (field : Field) (v : field.Value) : d.given field = .ok v ↔ d field = some v := by
    unfold given
    cases d field <;> simp
  simp only [build, bind_eq_ok_iff, hgiven]
  constructor
  · rintro ⟨a, ha, l, hl, b, hb, i, hi, f, hf, r, hr, he⟩
    obtain rfl := Except.ok.inj he
    intro field
    cases field <;> assumption
  · intro h
    exact ⟨_, h .algorithm, _, h .latency, _, h .homogeneous, _, h .interval, _, h .fileSize, _,
      h .requestRate, rfl⟩

theorem exists_build (h : ∀ field, ∃ v, d field = some v) : ∃ e, d.build = .ok e := by
  choose v hv using h
  refine ⟨⟨v .algorithm, v .latency, v .homogeneous, v .interval, v .fileSize, v .requestRate⟩, ?_⟩
  rw [build_eq_ok_iff]
  intro field
  rw [hv]
  cases field <;> rfl

end Draft

namespace Experiment

theorem nodup_layout : layout.Nodup := by decide

theorem mem_layout (field : Field) : .value field ∈ layout := by cases field <;> decide

theorem ofName?_of_length {s : String} (h : (Text.segments '-' s).length = layout.length) :
    ofName? s = (Draft.empty.takeAll 0 layout (Text.segments '-' s)) >>= Draft.build := if_pos h

theorem ofName?_eq_ok_iff {s : String} {e : Experiment} :
    ofName? s = .ok e ↔ List.Forall₂ e.Fits layout (Text.segments '-' s) := by
  by_cases hlength : (Text.segments '-' s).length = layout.length
  · rw [ofName?_of_length hlength]
    cases htake : Draft.empty.takeAll 0 layout (Text.segments '-' s) with
    | error err =>
      constructor
      · intro h
        cases h
      · intro h
        exact absurd h ((Draft.firstMisfit_of_takeAll htake).not_fits e)
    | ok d =>
      have htakes := Draft.takesAll_of_takeAll nodup_layout hlength.symm htake
      rw [htakes.taken]
      refine Draft.build_eq_ok_iff.trans ⟨?_, ?_⟩
      · intro h field _
        exact h field
      · intro h field
        exact h field (mem_layout field)
  · constructor
    · intro h
      rw [ofName?, if_neg hlength] at h
      cases h
    · intro h
      exact absurd h.length_eq.symm hlength

theorem misfit_of_ofName? {s : String} {err : NameError} (h : ofName? s = .error err) :
    ((Text.segments '-' s).length ≠ layout.length ∧
        err = .segmentCount (Text.segments '-' s).length) ∨
      (Text.segments '-' s).length = layout.length ∧
        FirstMisfit 0 layout (Text.segments '-' s) err := by
  by_cases hlength : (Text.segments '-' s).length = layout.length
  · right
    refine ⟨hlength, ?_⟩
    rw [ofName?_of_length hlength] at h
    cases htake : Draft.empty.takeAll 0 layout (Text.segments '-' s) with
    | error err' =>
      rw [htake] at h
      obtain rfl : err' = err := Except.error.inj h
      exact Draft.firstMisfit_of_takeAll htake
    | ok d =>
      -- every field is in the layout, so that none is missing
      have htakes := Draft.takesAll_of_takeAll nodup_layout hlength.symm htake
      obtain ⟨e, he⟩ := Draft.exists_build fun field => htakes.given field (mem_layout field)
      rw [htake] at h
      cases he.symm.trans h
  · left
    rw [ofName?, if_neg hlength] at h
    exact ⟨hlength, (Except.error.inj h).symm⟩

theorem ofName?_eq_error_iff {s : String} {err : NameError} :
    ofName? s = .error err ↔
      ((Text.segments '-' s).length ≠ layout.length ∧
          err = .segmentCount (Text.segments '-' s).length) ∨
        (Text.segments '-' s).length = layout.length ∧
          FirstMisfit 0 layout (Text.segments '-' s) err := by
  refine ⟨misfit_of_ofName?, fun h => ?_⟩
  cases hr : ofName? s with
  | ok e =>
    have hfits := ofName?_eq_ok_iff.1 hr
    rcases h with ⟨hlen, -⟩ | ⟨-, hfirst⟩
    · exact absurd hfits.length_eq.symm hlen
    · exact absurd hfits (hfirst.not_fits e)
  | error err' =>
    rcases h with ⟨hlen, rfl⟩ | ⟨hlen, hfirst⟩ <;>
      rcases misfit_of_ofName? hr with ⟨hlen', rfl⟩ | ⟨hlen', hfirst'⟩
    · rfl
    · exact absurd hlen' hlen
    · exact absurd hlen hlen'
    · rw [hfirst.unique hfirst']

end Experiment

end RateSweep
