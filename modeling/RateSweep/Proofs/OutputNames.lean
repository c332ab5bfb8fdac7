import RateSweep.Comparison.IdleTime
import RateSweep.Proofs.LogNames

namespace RateSweep

namespace Text

theorem join_inj {sep : Char} {ss ts : List (List Char)} (hs : ss ≠ []) (ht : ts ≠ [])
    (hss : ∀ s ∈ ss, sep ∉ s) (hts : ∀ t ∈ ts, sep ∉ t) (h : join sep ss = join sep ts) :
    ss = ts := by
  have hsplit := congrArg (split sep) h
  rwa [split_join hs hss, split_join ht hts] at hsplit

end Text

def Plain (s : String) : Prop := '-' ∉ s.toList ∧ '/' ∉ s.toList

instance (s : String) : Decidable (Plain s) := inferInstanceAs (Decidable (_ ∧ _))

def hyphenated (parts : List String) : String :=
  String.ofList (Text.join '-' (parts.map String.toList))

structure Segmented (parts : List String) : Prop where
  ne_nil : parts ≠ []
  plain : ∀ part ∈ parts, Plain part

theorem Segmented.cons {part : String} {parts : List String} (hpart : Plain part)
    (hparts : Segmented parts) : Segmented (part :: parts) where
  ne_nil := List.cons_ne_nil _ _
  plain := List.forall_mem_cons.2 ⟨hpart, hparts.plain⟩

theorem Segmented.hyphen_notMem {parts : List String} (h : Segmented parts) :
    ∀ part ∈ parts, '-' ∉ part.toList := fun part hpart => (h.plain part hpart).1

theorem hyphenated_inj {ps qs : List String} (hp : Segmented ps) (hq : Segmented qs)
    (h : hyphenated ps = hyphenated qs) : ps = qs := by
  have hjoin : Text.join '-' (ps.map String.toList) = Text.join '-' (qs.map String.toList) :=
    String.ofList_inj.1 h
  have hlists : ps.map String.toList = qs.map String.toList := by
    apply Text.join_inj _ _ _ _ hjoin
    · simpa using hp.ne_nil
    · simpa using hq.ne_nil
    · simpa using hp.hyphen_notMem
    · simpa using hq.hyphen_notMem
  exact List.map_injective_iff.2 (fun s t hst => String.toList_inj.1 hst) hlists

section Codes

theorem homogeneityCode_inj {b b' : Bool} (h : homogeneityCode b = homogeneityCode b') : b = b' := by
  revert h
  cases b <;> cases b' <;> decide

theorem BinKey.code_inj {k k' : BinKey} (h : k.code = k'.code) : k = k' := by
  revert h
  rcases k with (_ | _ | _) | (_ | _ | _ | _) <;> rcases k' with (_ | _ | _) | (_ | _ | _ | _) <;>
    decide

theorem toString_toNat_inj {n n' : UInt32} (h : toString n.toNat = toString n'.toNat) : n = n' := by
  have hn := Experiment.readCount_eq_some_iff.2 (Experiment.writesCount_toString n)
  have hn' := Experiment.readCount_eq_some_iff.2 (Experiment.writesCount_toString n')
  rw [h, hn'] at hn
  exact (Option.some.inj hn).symm

theorem plain_homogeneityCode (b : Bool) : Plain (homogeneityCode b) := by
  cases b <;> decide

theorem plain_code (k : BinKey) : Plain k.code := by
  rcases k with (_ | _ | _) | (_ | _ | _ | _) <;> decide

theorem plain_tag (kind : LogKind) : Plain kind.tag := by
  cases kind <;> decide

theorem plain_toString (n : UInt32) : Plain (toString n.toNat) := by
  have hdigit := (Experiment.writesCount_toString n).digit
  constructor
  · intro hmem
    exact absurd (hdigit _ hmem) (by decide)
  · intro hmem
    exact absurd (hdigit _ hmem) (by decide)

end Codes

namespace Experiment

def stemParts (e : Experiment) (kind : LogKind) : List String :=
  kind.tag :: grammarSegments e (toString e.latencyMs.toNat) (toString e.intervalS.toNat)
    (toString e.requestRate.toNat)

theorem logStem_eq_hyphenated (e : Experiment) (kind : LogKind) :
    e.logStem kind = hyphenated (e.stemParts kind) := by
  rw [← String.toList_inj]
  simp [logStem, name, layout, segmentText, fieldCode, hyphenated, stemParts, grammarSegments,
    Text.join]

theorem segmented_stemParts (e : Experiment) (kind : LogKind) : Segmented (e.stemParts kind) where
  ne_nil := List.cons_ne_nil _ _
  plain := by
    have halgorithm : Plain e.algorithm.code := plain_code (.algorithm e.algorithm)
    have hsize : Plain e.fileSize.code := plain_code (.fileSize e.fileSize)
    simp only [stemParts, grammarSegments, List.forall_mem_cons]
    exact ⟨plain_tag kind, by decide, halgorithm, by decide, plain_toString _, by decide,
      plain_homogeneityCode _, by decide, plain_toString _, by decide, hsize, by decide,
      plain_toString _, List.forall_mem_nil _⟩

theorem stemParts_inj {e e' : Experiment} {kind kind' : LogKind}
    (h : e.stemParts kind = e'.stemParts kind') : kind = kind' ∧ e = e' := by
  simp only [stemParts, grammarSegments, List.cons.injEq] at h
  obtain ⟨htag, -, halgorithm, -, hlatency, -, hhomogeneous, -, hinterval, -, hsize, -, hrate, -⟩ := h
  constructor
  · have hkind := LogKind.ofTag?_tag kind
    rw [htag, LogKind.ofTag?_tag] at hkind
    exact (Option.some.inj hkind).symm
  · cases e
    cases e'
    obtain rfl := Algorithm.code_inj halgorithm
    obtain rfl := toString_toNat_inj hlatency
    obtain rfl := homogeneityCode_inj hhomogeneous
    obtain rfl := toString_toNat_inj hinterval
    obtain rfl := FileSize.code_inj hsize
    obtain rfl := toString_toNat_inj hrate
    rfl

end Experiment

namespace Configuration

def nameParts (c : Configuration) : List String :=
  let homogeneous := homogeneityCode c.homogeneous
  match c.grouping with
  | .byAlgorithm => ["algs", "compare", "homog", homogeneous, "fsz", c.fixed.code, "delay",
      toString c.latencyMs.toNat]
  | .byFileSize => ["vary", "fsz", "alg", c.fixed.code, "homog", homogeneous, "delay",
      toString c.latencyMs.toNat]

theorem name_eq_hyphenated (c : Configuration) : c.name = hyphenated c.nameParts := by
  cases hg : c.grouping with
  | byAlgorithm =>
    have hname : c.name = "algs-compare-homog-" ++ homogeneityCode c.homogeneous ++ "-fsz-" ++
        c.fixed.code ++ "-delay-" ++ toString c.latencyMs.toNat := by
      simp only [name, hg]
      rfl
    rw [hname, ← String.toList_inj]
    simp [nameParts, hg, hyphenated, Text.join]
  | byFileSize =>
    have hname : c.name = "vary-fsz-alg-" ++ c.fixed.code ++ "-homog-" ++
        homogeneityCode c.homogeneous ++ "-delay-" ++ toString c.latencyMs.toNat := by
      simp only [name, hg]
      rfl
    rw [hname, ← String.toList_inj]
    simp [nameParts, hg, hyphenated, Text.join]

theorem segmented_nameParts (c : Configuration) : Segmented c.nameParts := by
  cases hg : c.grouping with
  | byAlgorithm =>
    constructor
    · simp [nameParts, hg]
    · simp only [nameParts, hg, List.forall_mem_cons]
      exact ⟨by decide, by decide, by decide, plain_homogeneityCode _, by decide, plain_code _,
        by decide, plain_toString _, List.forall_mem_nil _⟩
  | byFileSize =>
    constructor
    · simp [nameParts, hg]
    · simp only [nameParts, hg, List.forall_mem_cons]
      exact ⟨by decide, by decide, by decide, plain_code _, by decide, plain_homogeneityCode _,
        by decide, plain_toString _, List.forall_mem_nil _⟩

theorem nameParts_inj {c c' : Configuration} (hinterval : c.intervalS = c'.intervalS)
    (h : c.nameParts = c'.nameParts) : c = c' := by
  obtain ⟨g, homogeneous, latency, interval, fixed⟩ := c
  obtain ⟨g', homogeneous', latency', interval', fixed'⟩ := c'
  -- the length of the experiments is not in the name
  obtain rfl : interval = interval' := hinterval
  cases g with
  | byAlgorithm =>
    cases g' with
    | byAlgorithm =>
      simp only [nameParts, List.cons.injEq, true_and, and_true] at h
      obtain ⟨hhomogeneous, hfixed, hlatency⟩ := h
      rw [homogeneityCode_inj hhomogeneous, BinKey.code_inj hfixed, toString_toNat_inj hlatency]
    | byFileSize => simp [nameParts] at h
  | byFileSize =>
    cases g' with
    | byAlgorithm => simp [nameParts] at h
    | byFileSize =>
      simp only [nameParts, List.cons.injEq, true_and, and_true] at h
      obtain ⟨hfixed, hhomogeneous, hlatency⟩ := h
      rw [homogeneityCode_inj hhomogeneous, BinKey.code_inj hfixed, toString_toNat_inj hlatency]

theorem name_inj {c c' : Configuration} (hinterval : c.intervalS = c'.intervalS)
    (h : c.name = c'.name) : c = c' := by
  rw [name_eq_hyphenated, name_eq_hyphenated] at h
  exact nameParts_inj hinterval (hyphenated_inj (segmented_nameParts c) (segmented_nameParts c') h)

theorem name_of_table? {σ : Type} [Measured σ] {c : Configuration} {d : Design} {metric : Metric}
    {ss : List σ} {t : RateTable} (h : c.table? d metric ss = some t) : t.name = c.name := by
  unfold table? at h
  simp only at h
  split at h
  · obtain ⟨rows, -, rfl⟩ := Option.map_eq_some_iff.1 h
    rfl
  · cases h

theorem mem_configurations_iff {c : Configuration} {d : Design} {g : Grouping} :
    c ∈ g.configurations d ↔ c.grouping = g ∧ c.homogeneous ∈ d.homogeneity ∧
      c.latencyMs ∈ d.latenciesMs ∧ c.intervalS = d.intervalS ∧ c.fixed ∈ g.fixedKeys d := by
  obtain ⟨grouping, homogeneous, latency, interval, fixed⟩ := c
  simp only [Grouping.configurations, List.mem_flatMap, List.mem_map, Configuration.mk.injEq]
  constructor
  · rintro ⟨_, hhomogeneous, _, hfixed, _, hlatency, rfl, rfl, rfl, rfl, rfl⟩
    exact ⟨rfl, hhomogeneous, hlatency, rfl, hfixed⟩
  · rintro ⟨rfl, hhomogeneous, hlatency, rfl, hfixed⟩
    exact ⟨_, hhomogeneous, _, hfixed, _, hlatency, rfl, rfl, rfl, rfl, rfl⟩

end Configuration

namespace IdleSetting

def nameParts (s : IdleSetting) : List String :=
  ["idle", s.algorithm.code, "lat", toString s.latencyMs.toNat, "homog",
    homogeneityCode s.homogeneous, "fsz", s.fileSize.code]

theorem name_eq_hyphenated (s : IdleSetting) : s.name = hyphenated s.nameParts := by
  have hname : s.name = "idle-" ++ s.algorithm.code ++ "-lat-" ++ toString s.latencyMs.toNat ++
      "-homog-" ++ homogeneityCode s.homogeneous ++ "-fsz-" ++ s.fileSize.code := rfl
  rw [hname, ← String.toList_inj]
  simp [nameParts, hyphenated, Text.join]

theorem segmented_nameParts (s : IdleSetting) : Segmented s.nameParts where
  ne_nil := List.cons_ne_nil _ _
  plain := by
    have halgorithm : Plain s.algorithm.code := plain_code (.algorithm s.algorithm)
    have hsize : Plain s.fileSize.code := plain_code (.fileSize s.fileSize)
    simp only [nameParts, List.forall_mem_cons]
    exact ⟨by decide, halgorithm, by decide, plain_toString _, by decide, plain_homogeneityCode _,
      by decide, hsize, List.forall_mem_nil _⟩

theorem nameParts_inj {s s' : IdleSetting} (hinterval : s.intervalS = s'.intervalS)
    (h : s.nameParts = s'.nameParts) : s = s' := by
  simp only [nameParts, List.cons.injEq, true_and, and_true] at h
  obtain ⟨halgorithm, hlatency, hhomogeneous, hsize⟩ := h
  cases s
  cases s'
  obtain rfl := Algorithm.code_inj halgorithm
  obtain rfl := toString_toNat_inj hlatency
  obtain rfl := homogeneityCode_inj hhomogeneous
  obtain rfl := FileSize.code_inj hsize
  obtain rfl := hinterval
  rfl

theorem name_inj {s s' : IdleSetting} (hinterval : s.intervalS = s'.intervalS)
    (h : s.name = s'.name) : s = s' := by
  rw [name_eq_hyphenated, name_eq_hyphenated] at h
  exact nameParts_inj hinterval (hyphenated_inj (segmented_nameParts s) (segmented_nameParts s') h)

theorem name_of_table? {s : IdleSetting} {d : Design} {ss : List ClusterSummary} {t : RateTable}
    (h : s.table? d ss = some t) : t.name = s.name := by
  unfold table? at h
  simp only at h
  split at h
  · obtain rfl := Option.some.inj h
    rfl
  · cases h

theorem mem_all_iff {s : IdleSetting} {d : Design} :
    s ∈ all d ↔ s.algorithm ∈ d.algorithms ∧ s.latencyMs ∈ d.latenciesMs ∧
      s.homogeneous ∈ d.homogeneity ∧ s.intervalS = d.intervalS ∧ s.fileSize ∈ d.fileSizes := by
  obtain ⟨algorithm, latency, homogeneous, interval, fileSize⟩ := s
  simp only [all, List.mem_flatMap, List.mem_map, IdleSetting.mk.injEq]
  constructor
  · rintro ⟨_, halgorithm, _, hlatency, _, hhomogeneous, _, hsize, rfl, rfl, rfl, rfl, rfl⟩
    exact ⟨halgorithm, hlatency, hhomogeneous, rfl, hsize⟩
  · rintro ⟨halgorithm, hlatency, hhomogeneous, rfl, hsize⟩
    exact ⟨_, halgorithm, _, hlatency, _, hhomogeneous, _, hsize, rfl, rfl, rfl, rfl, rfl⟩

end IdleSetting

end RateSweep
