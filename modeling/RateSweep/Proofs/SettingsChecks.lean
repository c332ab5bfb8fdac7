import RateSweep.Proofs.Bins
import RateSweep.Proofs.OutputNames
import RateSweep.Proofs.StableSort
import RateSweep.Proofs.Walks
import RateSweep.SettingsFile

namespace RateSweep

structure SoundRates (rates : List UInt32) : Prop where
  positive : ∀ r ∈ rates, 0 < r
  distinct : rates.Nodup

theorem soundRates_nil : SoundRates [] := ⟨List.forall_mem_nil _, List.nodup_nil⟩

theorem soundRates_concat_iff {rates : List UInt32} {r : UInt32} :
    SoundRates (rates ++ [r]) ↔ SoundRates rates ∧ 0 < r ∧ r ∉ rates := by
  constructor
  · rintro ⟨hpositive, hdistinct⟩
    obtain ⟨hrates, -, hdisjoint⟩ := List.nodup_append.1 hdistinct
    refine ⟨⟨fun q hq => hpositive q (List.mem_append_left _ hq), hrates⟩, hpositive r (by simp), ?_⟩
    intro hr
    exact hdisjoint r hr r (List.mem_singleton_self r) rfl
  · rintro ⟨⟨hpositive, hdistinct⟩, hr, hnew⟩
    refine ⟨?_, List.concat_eq_append ▸ hdistinct.concat hnew⟩
    simpa [or_imp, forall_and] using ⟨hpositive, hr⟩

inductive RateFault : List UInt32 → Violation → Prop
  | zero {before : List UInt32} (h : SoundRates before) (after : List UInt32) :
      RateFault (before ++ 0 :: after) .zeroRate
  | repeated {before : List UInt32} {r : UInt32} (h : SoundRates before) (hr : r ∈ before)
      (after : List UInt32) : RateFault (before ++ r :: after) (.repeatedRate r)

theorem RateFault.append {rates : List UInt32} {v : Violation} (h : RateFault rates v)
    (later : List UInt32) : RateFault (rates ++ later) v := by
  cases h with
  | zero h after =>
    rw [List.append_assoc, List.cons_append]
    exact .zero h _
  | repeated h hr after =>
    rw [List.append_assoc, List.cons_append]
    exact .repeated h hr _

theorem sound_or_fault (rates : List UInt32) : SoundRates rates ∨ ∃ v, RateFault rates v := by
  induction rates using List.reverseRecOn with
  | nil => exact .inl soundRates_nil
  | append_singleton rates r ih =>
    rcases ih with hsound | ⟨v, hv⟩
    · by_cases hzero : r = 0
      · subst hzero
        exact .inr ⟨_, .zero hsound []⟩
      · by_cases hr : r ∈ rates
        · exact .inr ⟨_, .repeated hsound hr []⟩
        · exact .inl (soundRates_concat_iff.2 ⟨hsound, UInt32.pos_iff_ne_zero.2 hzero, hr⟩)
    · exact .inr ⟨v, hv.append [r]⟩

namespace Design

theorem badRate_append {seen before : List UInt32} (hsound : SoundRates before)
    (hnew : ∀ r ∈ before, r ∉ seen) (after : List UInt32) :
    badRate seen (before ++ after) = badRate (before.reverse ++ seen) after := by
  -- what has been passed over is what has been seen
  induction before generalizing seen with
  | nil => rfl
  | cons r before ih =>
    obtain ⟨hpositive, hdistinct⟩ := hsound
    obtain ⟨hr, hpositive⟩ := List.forall_mem_cons.1 hpositive
    obtain ⟨hrnew, hnew⟩ := List.forall_mem_cons.1 hnew
    obtain ⟨hne, hdistinct⟩ := List.nodup_cons.1 hdistinct
    have hnew' : ∀ q ∈ before, q ∉ r :: seen := by
      intro q hq
      rw [List.mem_cons, not_or]
      exact ⟨fun h => hne (h ▸ hq), hnew q hq⟩
    rw [List.cons_append, badRate, if_neg (UInt32.pos_iff_ne_zero.1 hr), if_neg hrnew,
      ih ⟨hpositive, hdistinct⟩ hnew', List.reverse_cons, List.append_assoc, List.singleton_append]

theorem badRate_of_sound {rates : List UInt32} (h : SoundRates rates) : badRate [] rates = none := by
  have hpass := badRate_append h (fun _ _ => List.not_mem_nil) []
  rwa [List.append_nil] at hpass

theorem badRate_of_fault {rates : List UInt32} {v : Violation} (h : RateFault rates v) :
    badRate [] rates = some v := by
  cases h with
  | zero hsound after =>
    rw [badRate_append hsound fun _ _ => List.not_mem_nil]
    rfl
  | @repeated before r hsound hr after =>
    have hpositive := UInt32.pos_iff_ne_zero.1 (hsound.positive r hr)
    have hseen : r ∈ before.reverse ++ [] := by simpa using hr
    rw [badRate_append hsound fun _ _ => List.not_mem_nil, badRate, if_neg hpositive, if_pos hseen]

theorem badRate_eq_none_iff {rates : List UInt32} : badRate [] rates = none ↔ SoundRates rates := by
  refine ⟨fun h => ?_, badRate_of_sound⟩
  rcases sound_or_fault rates with hsound | ⟨v, hv⟩
  · exact hsound
  · rw [badRate_of_fault hv] at h
    cases h

theorem badRate_eq_some_iff {rates : List UInt32} {v : Violation} :
    badRate [] rates = some v ↔ RateFault rates v := by
  refine ⟨fun h => ?_, badRate_of_fault⟩
  rcases sound_or_fault rates with hsound | ⟨w, hw⟩
  · rw [badRate_of_sound hsound] at h
    cases h
  · rw [badRate_of_fault hw] at h
    exact Option.some.inj h ▸ hw

theorem pairwise_lt_sortedRates {d : Design} (h : d.rates.Nodup) :
    d.sortedRates.Pairwise (· < ·) := pairwise_lt_mergeSort h

end Design

theorem SoundRates.not_fault {rates : List UInt32} (h : SoundRates rates) (v : Violation) :
    ¬ RateFault rates v := by
  intro hv
  have hnone := Design.badRate_of_sound h
  rw [Design.badRate_of_fault hv] at hnone
  cases hnone

/-- The place of a violation's check among the checks. One pass over the rates finds either fault. -/
def Violation.place : Violation → Nat
  | zeroClusterSize => 0
  | zeroHistogramBins => 1
  | noRates => 2
  | zeroRate => 3
  | repeatedRate _ => 3
  | noAlgorithms => 4
  | noLatencies => 5
  | noHomogeneity => 6
  | noFileSizes => 7
  | zeroInterval => 8

theorem RateFault.place_eq {rates : List UInt32} {v : Violation} (h : RateFault rates v) :
    v.place = 3 := by
  cases h <;> rfl

namespace Violation

def fixed : List Violation :=
  [zeroClusterSize, zeroHistogramBins, noRates, zeroRate, noAlgorithms, noLatencies, noHomogeneity,
    noFileSizes, zeroInterval]

theorem mem_fixed_or_repeatedRate (v : Violation) : v ∈ fixed ∨ ∃ r, v = repeatedRate r := by
  cases v with
  | repeatedRate r => exact .inr ⟨r, rfl⟩
  | _ => exact .inl (by decide)

theorem place_lt (v : Violation) : v.place < 9 := by
  cases v <;> simp [place]

theorem eq_of_place_eq {v w : Violation} (hrates : v.place ≠ 3) (h : v.place = w.place) : v = w := by
  cases v with
  | zeroRate => exact absurd rfl hrates
  | repeatedRate r => exact absurd rfl hrates
  | _ => cases w <;> simp_all [place]

theorem message_repeatedRate (r : UInt32) :
    (repeatedRate r).message = "design.rates contains duplicate rate: " ++ toString r.toNat := rfl

theorem message_ne_of_mem_fixed {v : Violation} (hv : v ∈ fixed) (r : UInt32) :
    v.message ≠ (repeatedRate r).message := by
  -- the messages part at the word behind `design.rates`
  have hfixed : ∀ v ∈ fixed, (v.message.toList.drop 13).head? ≠ some 'c' := by decide +kernel
  intro h
  apply hfixed v hv
  rw [h, message_repeatedRate, String.toList_append]
  rfl

theorem message_inj {v w : Violation} (h : v.message = w.message) : v = w := by
  have hfixed : ∀ v ∈ fixed, ∀ w ∈ fixed, v.message = w.message → v = w := by decide +kernel
  rcases v.mem_fixed_or_repeatedRate with hv | ⟨r, rfl⟩
  · rcases w.mem_fixed_or_repeatedRate with hw | ⟨r', rfl⟩
    · exact hfixed v hv w hw h
    · exact absurd h (message_ne_of_mem_fixed hv r')
  · rcases w.mem_fixed_or_repeatedRate with hw | ⟨r', rfl⟩
    · exact absurd h.symm (message_ne_of_mem_fixed hw r)
    · rw [message_repeatedRate, message_repeatedRate, String.append_right_inj] at h
      rw [toString_toNat_inj h]

end Violation

namespace Settings

structure Usable (s : Settings) : Prop where
  clusterSize : 0 < s.clusterSize
  histogramBins : 0 < s.histogramBins
  someRates : s.design.rates ≠ []
  soundRates : SoundRates s.design.rates
  algorithms : s.design.algorithms ≠ []
  latenciesMs : s.design.latenciesMs ≠ []
  homogeneity : s.design.homogeneity ≠ []
  fileSizes : s.design.fileSizes ≠ []
  intervalS : 0 < s.design.intervalS

def Violates (s : Settings) : Violation → Prop
  | .zeroClusterSize => s.clusterSize = 0
  | .zeroHistogramBins => s.histogramBins = 0
  | .noRates => s.design.rates = []
  | .zeroRate => RateFault s.design.rates .zeroRate
  | .repeatedRate r => RateFault s.design.rates (.repeatedRate r)
  | .noAlgorithms => s.design.algorithms = []
  | .noLatencies => s.design.latenciesMs = []
  | .noHomogeneity => s.design.homogeneity = []
  | .noFileSizes => s.design.fileSizes = []
  | .zeroInterval => s.design.intervalS = 0

structure FirstViolation (s : Settings) (v : Violation) : Prop where
  violates : s.Violates v
  first : ∀ w, s.Violates w → v.place ≤ w.place

variable {s : Settings} {v w : Violation}

theorem violates_iff_fault (h : v.place = 3) : s.Violates v ↔ RateFault s.design.rates v := by
  cases v with
  | zeroRate => exact .rfl
  | repeatedRate r => exact .rfl
  | _ => cases h

theorem usable_iff : s.Usable ↔ ∀ v, ¬ s.Violates v := by
  constructor
  · intro h v hv
    cases v with
    | zeroClusterSize => exact Nat.ne_of_gt h.clusterSize hv
    | zeroHistogramBins => exact Nat.ne_of_gt h.histogramBins hv
    | noRates => exact h.someRates hv
    | zeroRate => exact h.soundRates.not_fault _ hv
    | repeatedRate r => exact h.soundRates.not_fault _ hv
    | noAlgorithms => exact h.algorithms hv
    | noLatencies => exact h.latenciesMs hv
    | noHomogeneity => exact h.homogeneity hv
    | noFileSizes => exact h.fileSizes hv
    | zeroInterval => exact UInt32.pos_iff_ne_zero.1 h.intervalS hv
  · intro h
    refine ⟨Nat.pos_of_ne_zero (h .zeroClusterSize), Nat.pos_of_ne_zero (h .zeroHistogramBins),
      h .noRates, ?_, h .noAlgorithms, h .noLatencies, h .noHomogeneity, h .noFileSizes,
      UInt32.pos_iff_ne_zero.2 (h .zeroInterval)⟩
    rcases sound_or_fault s.design.rates with hsound | ⟨v, hv⟩
    · exact hsound
    · exact absurd ((violates_iff_fault hv.place_eq).2 hv) (h v)

theorem eq_of_place_eq (hv : s.Violates v) (hw : s.Violates w) (h : v.place = w.place) : v = w := by
  by_cases hrates : v.place = 3
  · have hfound := Design.badRate_of_fault ((violates_iff_fault hrates).1 hv)
    rw [Design.badRate_of_fault ((violates_iff_fault (h ▸ hrates)).1 hw)] at hfound
    exact (Option.some.inj hfound).symm
  · exact Violation.eq_of_place_eq hrates h

def FirstFrom (s : Settings) (n : Nat) : Option Violation → Prop
  | none => ∀ w, n ≤ w.place → ¬ s.Violates w
  | some v => s.Violates v ∧ ∀ w, n ≤ w.place → s.Violates w → v.place ≤ w.place

theorem FirstFrom.later {n : Nat} {rest : Option Violation} (hrest : s.FirstFrom (n + 1) rest)
    (hn : ∀ w : Violation, w.place = n → ¬ s.Violates w) : s.FirstFrom n rest := by
  have hlater : ∀ w : Violation, n ≤ w.place → s.Violates w → n + 1 ≤ w.place := by
    intro w hw hviolated
    exact Nat.lt_of_le_of_ne hw fun h => hn w h.symm hviolated
  cases rest with
  | none => exact fun w hw hviolated => hrest w (hlater w hw hviolated) hviolated
  | some u => exact ⟨hrest.1, fun w hw hviolated => hrest.2 w (hlater w hw hviolated) hviolated⟩

theorem FirstFrom.check {n : Nat} {c : Prop} [Decidable c] {rest : Option Violation}
    (hplace : v.place = n) (hrates : n ≠ 3) (hc : s.Violates v ↔ c)
    (hrest : s.FirstFrom (n + 1) rest) : s.FirstFrom n (if c then some v else rest) := by
  split
  · next h => exact ⟨hc.2 h, fun w hw _ => hplace ▸ hw⟩
  · next h =>
    apply hrest.later
    intro w hw hviolated
    apply h
    apply hc.1
    rwa [Violation.eq_of_place_eq (hplace ▸ hrates) (hplace.trans hw.symm)]

theorem FirstFrom.check_rates {rest : Option Violation} (hrest : s.FirstFrom 4 rest) :
    s.FirstFrom 3 (Design.badRate [] s.design.rates <|> rest) := by
  cases hbad : Design.badRate [] s.design.rates with
  | none =>
    have hsound := Design.badRate_eq_none_iff.1 hbad
    apply hrest.later
    intro w hw hviolated
    exact hsound.not_fault w ((violates_iff_fault hw).1 hviolated)
  | some v =>
    have hfault := Design.badRate_eq_some_iff.1 hbad
    exact ⟨(violates_iff_fault hfault.place_eq).2 hfault, fun w hw _ => hfault.place_eq ▸ hw⟩

theorem firstFrom_violation? (s : Settings) : s.FirstFrom 0 s.violation? := by
  have hnone : s.FirstFrom 9 none := fun w hw => absurd w.place_lt (Nat.not_lt.2 hw)
  unfold violation? Design.violation?
  refine .check rfl (by decide) .rfl ?_
  refine .check rfl (by decide) .rfl ?_
  refine .check rfl (by decide) .rfl (.check_rates ?_)
  refine .check rfl (by decide) .rfl ?_
  refine .check rfl (by decide) .rfl ?_
  refine .check rfl (by decide) .rfl ?_
  refine .check rfl (by decide) .rfl ?_
  exact .check rfl (by decide) .rfl hnone

theorem violation?_eq_none_iff : s.violation? = none ↔ s.Usable := by
  have hfirst := s.firstFrom_violation?
  rw [usable_iff]
  cases h : s.violation? with
  | none =>
    rw [h] at hfirst
    constructor
    · intro _ v
      exact hfirst v (Nat.zero_le _)
    · intro _
      rfl
  | some v =>
    rw [h] at hfirst
    constructor
    · intro hnone
      cases hnone
    · intro hno
      exact absurd hfirst.1 (hno v)

theorem violation?_eq_some_iff : s.violation? = some v ↔ s.FirstViolation v := by
  have hfirst := s.firstFrom_violation?
  cases h : s.violation? with
  | none =>
    rw [h] at hfirst
    constructor
    · intro hnone
      cases hnone
    · intro hv
      exact absurd hv.violates (hfirst v (Nat.zero_le _))
  | some u =>
    rw [h] at hfirst
    have hu : s.FirstViolation u := ⟨hfirst.1, fun w hw => hfirst.2 w (Nat.zero_le _) hw⟩
    rw [Option.some.injEq]
    constructor
    · rintro rfl
      exact hu
    · intro hv
      have hplace := Nat.le_antisymm (hu.first v hv.violates) (hv.first u hu.violates)
      exact eq_of_place_eq hu.violates hv.violates hplace

theorem validate_eq_ok_iff : s.validate = .ok () ↔ s.Usable := by
  rw [← violation?_eq_none_iff, validate]
  cases s.violation? <;> simp

theorem validate_eq_error_iff : s.validate = .error v ↔ s.FirstViolation v := by
  rw [← violation?_eq_some_iff, validate]
  cases s.violation? <;> simp

variable {t : FileTree} {path text : String} {e : FileError}

def ReadsText (t : FileTree) (path text : String) : Prop :=
  ∃ bytes, t.openAt path = .ok (.file bytes) ∧ Text.decode bytes = .ok text

theorem ReadsText.load_malformed (h : ReadsText t path text) (hno : ofText? text = none) :
    load t path = .error (.malformed path) := by
  obtain ⟨bytes, hopen, hdecode⟩ := h
  unfold load
  simp only [hopen, Except.mapError, ok_bind, FileTree.contents, hdecode, hno]
  rfl

theorem ReadsText.load_settings (h : ReadsText t path text) (hs : ofText? text = some s) :
    load t path = (s.validate.mapError .violated).map fun _ => s := by
  obtain ⟨bytes, hopen, hdecode⟩ := h
  unfold load
  simp only [hopen, Except.mapError, ok_bind, FileTree.contents, hdecode, hs]
  rfl

theorem load_of_not_readsText (h : ∀ text, ¬ ReadsText t path text) :
    load t path = .error (.unreadable path) := by
  unfold load
  cases hopen : t.openAt path with
  | error => rfl
  | ok entry =>
    cases entry with
    | directory => rfl
    | locked => rfl
    | file bytes =>
      cases hdecode : Text.decode bytes with
      | ok text => exact absurd ⟨bytes, hopen, hdecode⟩ (h text)
      | error => simp only [Except.mapError, bind, Except.bind, FileTree.contents, hdecode]

inductive LoadFault (t : FileTree) (path : String) : FileError → Prop
  | unreadable (h : ∀ text, ¬ ReadsText t path text) : LoadFault t path (.unreadable path)
  | malformed {text : String} (h : ReadsText t path text) (hno : ofText? text = none) :
      LoadFault t path (.malformed path)
  | violated {text : String} {s : Settings} {v : Violation} (h : ReadsText t path text)
      (hs : ofText? text = some s) (hv : s.FirstViolation v) : LoadFault t path (.violated v)

theorem load_cases (t : FileTree) (path : String) :
    (∃ text s, ReadsText t path text ∧ ofText? text = some s ∧ s.Usable ∧ load t path = .ok s) ∨
    ∃ e, LoadFault t path e ∧ load t path = .error e := by
  by_cases hreads : ∃ text, ReadsText t path text
  · obtain ⟨text, hreads⟩ := hreads
    cases hs : ofText? text with
    | none => exact .inr ⟨_, .malformed hreads hs, hreads.load_malformed hs⟩
    | some s =>
      have hload := hreads.load_settings hs
      cases hvalid : s.validate with
      | ok =>
        rw [hvalid] at hload
        exact .inl ⟨text, s, hreads, hs, validate_eq_ok_iff.1 hvalid, hload⟩
      | error v =>
        rw [hvalid] at hload
        exact .inr ⟨_, .violated hreads hs (validate_eq_error_iff.1 hvalid), hload⟩
  · have hno := not_exists.1 hreads
    exact .inr ⟨_, .unreadable hno, load_of_not_readsText hno⟩

theorem ReadsText.unique {other : String} (h : ReadsText t path text)
    (h' : ReadsText t path other) : text = other := by
  obtain ⟨bytes, hopen, hdecode⟩ := h
  obtain ⟨bytes', hopen', hdecode'⟩ := h'
  obtain rfl : bytes = bytes' := Entry.file.inj (Except.ok.inj (hopen.symm.trans hopen'))
  exact Except.ok.inj (hdecode.symm.trans hdecode')

theorem load_eq_ok_iff : load t path = .ok s ↔
    ∃ text, ReadsText t path text ∧ ofText? text = some s ∧ s.Usable := by
  constructor
  · intro h
    rcases load_cases t path with ⟨text, s', hreads, hs, husable, hload⟩ | ⟨e, -, hload⟩
    · obtain rfl := Except.ok.inj (hload.symm.trans h)
      exact ⟨text, hreads, hs, husable⟩
    · cases hload.symm.trans h
  · rintro ⟨text, hreads, hs, husable⟩
    rw [hreads.load_settings hs, validate_eq_ok_iff.2 husable]
    rfl

theorem load_eq_error_iff : load t path = .error e ↔ LoadFault t path e := by
  constructor
  · intro h
    rcases load_cases t path with ⟨-, s, -, -, -, hload⟩ | ⟨e', hfault, hload⟩
    · cases hload.symm.trans h
    · exact Except.error.inj (hload.symm.trans h) ▸ hfault
  · intro h
    cases h with
    | unreadable hno => exact load_of_not_readsText hno
    | malformed hreads hno => exact hreads.load_malformed hno
    | violated hreads hs hv =>
      rw [hreads.load_settings hs, validate_eq_error_iff.2 hv]
      rfl

theorem usable_of_load (h : load t path = .ok s) : s.Usable := by
  obtain ⟨-, -, -, husable⟩ := load_eq_ok_iff.1 h
  exact husable

theorem validate_reports_first (s : Settings) :
    (s.validate = .ok () ↔ s.Usable) ∧
      (∀ v, s.validate = .error v ↔ s.FirstViolation v) ∧
      (∀ v w : Violation, v.message = w.message → v = w) ∧
      (s.validate = .ok () → s.design.sortedRates.Pairwise (· < ·) ∧
        s.design.sortedRates.Perm s.design.rates) ∧
      ∀ t path, load t path = .ok s → s.Usable ∧ s.design.sortedRates.Pairwise (· < ·) ∧
        s.design.sortedRates.Perm s.design.rates := by
  have hrates (h : s.Usable) : s.design.sortedRates.Pairwise (· < ·) ∧
      s.design.sortedRates.Perm s.design.rates :=
    ⟨Design.pairwise_lt_sortedRates h.soundRates.distinct, s.design.perm_sortedRates⟩
  refine ⟨validate_eq_ok_iff, fun v => validate_eq_error_iff, fun v w => Violation.message_inj,
    fun h => hrates (validate_eq_ok_iff.1 h), fun t path h => ?_⟩
  have husable := usable_of_load h
  exact ⟨husable, hrates husable⟩

def faultyRates : Settings where
  design := { algorithms := [], rates := [50, 10, 50, 0] }

def twoRatesFile : FileTree where
  workingDirectory := []
  entries := [(["lbsweep.yaml"], .file (Text.encode "design:\n  rates: [200, 10]\n"))]

def twoRatesRead : Settings where
  design := { rates := [200, 10] }

theorem validate_reports_first_file :
    (∃ v, faultyRates.validate = .error v ∧ faultyRates.FirstViolation v ∧
      v.message = "design.rates contains duplicate rate: 50") ∧
    load twoRatesFile "lbsweep.yaml" = .ok twoRatesRead ∧ twoRatesRead.Usable ∧
      twoRatesRead.design.sortedRates.Pairwise (· < ·) := by
  have hfaulty : faultyRates.validate = .error (.repeatedRate 50) := by decide
  have hload : load twoRatesFile "lbsweep.yaml" = .ok twoRatesRead := by decide +kernel
  obtain ⟨-, hreports, -⟩ := validate_reports_first faultyRates
  obtain ⟨-, -, -, -, hread⟩ := validate_reports_first twoRatesRead
  obtain ⟨husable, hsorted, -⟩ := hread twoRatesFile "lbsweep.yaml" hload
  exact ⟨⟨_, hfaulty, (hreports _).1 hfaulty, by rfl⟩, hload, husable, hsorted⟩

end Settings

end RateSweep
