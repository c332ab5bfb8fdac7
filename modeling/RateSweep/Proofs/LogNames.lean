import RateSweep.Proofs.NameSegments

namespace RateSweep

namespace Text

theorem segments_eq_iff {sep : Char} {s : String} {ss : List String} (hne : ss ≠ [])
    (hfree : ∀ t ∈ ss, sep ∉ t.toList) :
    segments sep s = ss ↔ s.toList = join sep (ss.map String.toList) := by
  unfold segments
  constructor
  · rintro rfl
    simp
  · intro h
    rw [h, split_join (by simpa using hne) (by simpa using hfree)]
    simp

end Text

section Extension

theorem withoutExtension_append (stem : String) : withoutExtension (stem ++ extension) = stem := by
  have hlen : (stem ++ extension).toList.length - extension.length = stem.toList.length := by
    rw [String.toList_append, List.length_append, ← String.length_toList, Nat.add_sub_cancel]
  unfold withoutExtension
  simp only [hlen]
  simp [String.length_toList]

theorem withoutExtension_eq_self {name : String} (h : ∀ s, name ≠ s ++ extension) :
    withoutExtension name = name := by
  unfold withoutExtension
  simp only
  split
  · next hc =>
    simp only [Bool.and_eq_true, decide_eq_true_eq] at hc
    refine absurd ?_ (h (String.ofList (name.toList.take (name.toList.length - extension.length))))
    rw [← String.toList_inj, String.toList_append, String.toList_ofList, ← hc.2,
      List.take_append_drop]
  · rfl

theorem withoutExtension_eq_iff {name stem : String} :
    withoutExtension name = stem ↔
      name = stem ++ extension ∨ name = stem ∧ ∀ s, name ≠ s ++ extension := by
  by_cases h : ∃ s, name = s ++ extension
  · obtain ⟨s, rfl⟩ := h
    rw [withoutExtension_append]
    constructor
    · rintro rfl
      exact .inl rfl
    · rintro (hs | ⟨-, hno⟩)
      · exact String.append_left_inj extension |>.1 hs
      · exact absurd rfl (hno s)
  · have hno : ∀ s, name ≠ s ++ extension := fun s hs => h ⟨s, hs⟩
    rw [withoutExtension_eq_self hno]
    constructor
    · intro hs
      exact .inr ⟨hs, hno⟩
    · rintro (hs | ⟨hs, -⟩)
      · exact absurd hs (hno stem)
      · exact hs

end Extension

/-- The text before the first hyphen and the text behind it, which is empty if there is none. -/
def Heads (stem tag rest : String) : Prop :=
  '-' ∉ tag.toList ∧ (stem = tag ++ "-" ++ rest ∨ stem = tag ∧ rest = "")

theorem exists_heads (stem : String) : ∃ tag rest, Heads stem tag rest := by
  by_cases h : '-' ∈ stem.toList
  · obtain ⟨tag, rest, hstem, htag⟩ := List.eq_append_cons_of_mem h
    refine ⟨String.ofList tag, String.ofList rest, by simpa using htag, .inl ?_⟩
    rw [← String.toList_inj, hstem]
    simp
  · exact ⟨stem, "", h, .inr ⟨rfl, rfl⟩⟩

theorem Heads.parts {stem tag rest : String} (h : Heads stem tag rest) :
    stem.toList.takeWhile (· ≠ '-') = tag.toList ∧
      (stem.toList.dropWhile (· ≠ '-')).drop 1 = rest.toList := by
  obtain ⟨htag, h⟩ := h
  have hpass : ∀ c ∈ tag.toList, decide (c ≠ '-') = true := by
    intro c hc
    simp only [decide_eq_true_eq]
    rintro rfl
    exact htag hc
  rcases h with rfl | ⟨rfl, rfl⟩
  · have hstem : (tag ++ "-" ++ rest).toList = tag.toList ++ '-' :: rest.toList := by simp
    rw [hstem, List.takeWhile_append_of_pos hpass, List.dropWhile_append_of_pos hpass]
    simp
  · rw [List.takeWhile_eq_self_iff.2 hpass, List.dropWhile_eq_nil_iff.2 hpass]
    simp

theorem readLogName_of_heads {name tag rest : String} (h : Heads (withoutExtension name) tag rest) :
    readLogName name =
      match LogKind.ofTag? tag with
      | none => .error (.unknownKind tag)
      | some kind => (Experiment.ofName? rest).map fun e => (kind, e) := by
  obtain ⟨htag, hrest⟩ := h.parts
  unfold readLogName
  simp only [htag, hrest, String.ofList_toList]
  cases LogKind.ofTag? tag with
  | none => rfl
  | some kind => cases Experiment.ofName? rest <;> rfl

/-- What is wrong with a name of that tag and those segments behind it. A fault that is listed
earlier hides the later ones. -/
inductive NameFault (tag rest : String) : NameError → Prop
  | kind (htag : ∀ kind : LogKind, kind.tag ≠ tag) : NameFault tag rest (.unknownKind tag)
  | count {kind : LogKind} (htag : kind.tag = tag)
      (hcount : (Text.segments '-' rest).length ≠ Experiment.layout.length) :
      NameFault tag rest (.segmentCount (Text.segments '-' rest).length)
  | segment {kind : LogKind} {err : NameError} (htag : kind.tag = tag)
      (hcount : (Text.segments '-' rest).length = Experiment.layout.length)
      (h : FirstMisfit 0 Experiment.layout (Text.segments '-' rest) err) : NameFault tag rest err

section Reading

variable {name tag rest : String} (h : Heads (withoutExtension name) tag rest)

include h

theorem readLogName_eq_ok_iff_fits {kind : LogKind} {e : Experiment} :
    readLogName name = .ok (kind, e) ↔ kind.tag = tag ∧
      List.Forall₂ e.Fits Experiment.layout (Text.segments '-' rest) := by
  rw [readLogName_of_heads h, ← LogKind.ofTag?_eq_some_iff, ← Experiment.ofName?_eq_ok_iff]
  cases LogKind.ofTag? tag with
  | none => simp
  | some kind' => cases Experiment.ofName? rest <;> simp [Except.map]

theorem readLogName_eq_error_iff {err : NameError} :
    readLogName name = .error err ↔ NameFault tag rest err := by
  rw [readLogName_of_heads h]
  cases hkind : LogKind.ofTag? tag with
  | none =>
    have htag : ∀ kind : LogKind, kind.tag ≠ tag := fun kind hk => by
      rw [← LogKind.ofTag?_eq_some_iff, hkind] at hk
      cases hk
    constructor
    · intro herr
      obtain rfl := Except.error.inj herr
      exact .kind htag
    · rintro (_ | ⟨hk, _⟩ | ⟨hk, _, _⟩)
      · rfl
      · exact absurd hk (htag _)
      · exact absurd hk (htag _)
  | some kind =>
    have htag := LogKind.ofTag?_eq_some_iff.1 hkind
    have hmap : (Experiment.ofName? rest).map (fun e => (kind, e)) = .error err ↔
        Experiment.ofName? rest = .error err := by
      cases Experiment.ofName? rest <;> simp [Except.map]
    simp only [hmap, Experiment.ofName?_eq_error_iff]
    constructor
    · rintro (⟨hcount, rfl⟩ | ⟨hcount, hfirst⟩)
      · exact .count htag hcount
      · exact .segment htag hcount hfirst
    · rintro (hno | ⟨_, hcount⟩ | ⟨_, hcount, hfirst⟩)
      · exact absurd htag (hno kind)
      · exact .inl ⟨hcount, rfl⟩
      · exact .inr ⟨hcount, hfirst⟩

end Reading

def IsLogStem (kind : LogKind) (e : Experiment) (stem : String) : Prop :=
  ∃ latency interval rate, WritesCount latency e.latencyMs ∧
    WritesCount interval e.intervalS ∧ 0 < e.intervalS ∧
    WritesCount rate e.requestRate ∧ 0 < e.requestRate ∧
    stem = kind.tag ++ "-exp-" ++ e.algorithm.code ++ "-lat-" ++ latency ++ "-homog-" ++
      homogeneityCode e.homogeneous ++ "-int-" ++ interval ++ "-fsz-" ++ e.fileSize.code ++
      "-rate-" ++ rate

def grammarSegments (e : Experiment) (latency interval rate : String) : List String :=
  ["exp", e.algorithm.code, "lat", latency, "homog", homogeneityCode e.homogeneous, "int", interval,
    "fsz", e.fileSize.code, "rate", rate]

theorem fits_layout_iff {e : Experiment} {texts : List String} :
    List.Forall₂ e.Fits Experiment.layout texts ↔
      ∃ latency interval rate, WritesCount latency e.latencyMs ∧
        WritesCount interval e.intervalS ∧ 0 < e.intervalS ∧
        WritesCount rate e.requestRate ∧ 0 < e.requestRate ∧
        texts = grammarSegments e latency interval rate := by
  simp only [Experiment.layout, List.forall₂_cons_left_iff, List.forall₂_nil_left_iff,
    Experiment.Fits, Experiment.Writes, grammarSegments]
  constructor
  · rintro ⟨_, _, rfl, ⟨_, _, rfl, ⟨_, _, rfl, ⟨latency, _, hl, ⟨_, _, rfl, ⟨_, _, rfl, ⟨_, _, rfl,
      ⟨interval, _, ⟨hi, hipos⟩, ⟨_, _, rfl, ⟨_, _, rfl, ⟨_, _, rfl, ⟨rate, _, ⟨hr, hrpos⟩, rfl,
      rfl⟩, rfl⟩, rfl⟩, rfl⟩, rfl⟩, rfl⟩, rfl⟩, rfl⟩, rfl⟩, rfl⟩, rfl⟩, rfl⟩
    exact ⟨latency, interval, rate, hl, hi, hipos, hr, hrpos, rfl⟩
  · rintro ⟨latency, interval, rate, hl, hi, hipos, hr, hrpos, rfl⟩
    simp [hl, hi, hipos, hr, hrpos]

theorem hyphen_notMem_of_writesCount {digits : String} {n : UInt32} (h : WritesCount digits n) :
    '-' ∉ digits.toList := fun hmem => absurd (h.digit _ hmem) (by decide)

theorem hyphen_notMem_tag (kind : LogKind) : '-' ∉ kind.tag.toList := by cases kind <;> decide

theorem hyphen_notMem_grammarSegments {e : Experiment} {latency interval rate : String}
    (hl : WritesCount latency e.latencyMs) (hi : WritesCount interval e.intervalS)
    (hr : WritesCount rate e.requestRate) :
    ∀ t ∈ grammarSegments e latency interval rate, '-' ∉ t.toList := by
  have halgorithm : '-' ∉ e.algorithm.code.toList := by cases e.algorithm <;> decide
  have hhomogeneous : '-' ∉ (homogeneityCode e.homogeneous).toList := by
    cases e.homogeneous <;> decide
  have hfileSize : '-' ∉ e.fileSize.code.toList := by cases e.fileSize <;> decide
  simp [grammarSegments, halgorithm, hhomogeneous, hfileSize, hyphen_notMem_of_writesCount hl,
    hyphen_notMem_of_writesCount hi, hyphen_notMem_of_writesCount hr]

theorem Heads.unique {stem tag tag' rest rest' : String} (h : Heads stem tag rest)
    (h' : Heads stem tag' rest') : tag = tag' ∧ rest = rest' :=
  ⟨String.toList_inj.1 (h.parts.1.symm.trans h'.parts.1),
    String.toList_inj.1 (h.parts.2.symm.trans h'.parts.2)⟩

theorem logStem_eq (kind : LogKind) (e : Experiment) (latency interval rate : String) :
    kind.tag ++ "-exp-" ++ e.algorithm.code ++ "-lat-" ++ latency ++ "-homog-" ++
        homogeneityCode e.homogeneous ++ "-int-" ++ interval ++ "-fsz-" ++ e.fileSize.code ++
        "-rate-" ++ rate =
      kind.tag ++ "-" ++ String.ofList
        (Text.join '-' ((grammarSegments e latency interval rate).map String.toList)) := by
  rw [← String.toList_inj]
  simp [grammarSegments, Text.join]

theorem isLogStem_iff {stem tag rest : String} {kind : LogKind} {e : Experiment}
    (h : Heads stem tag rest) :
    IsLogStem kind e stem ↔
      kind.tag = tag ∧ List.Forall₂ e.Fits Experiment.layout (Text.segments '-' rest) := by
  rw [fits_layout_iff]
  unfold IsLogStem
  simp only [logStem_eq]
  constructor
  · rintro ⟨latency, interval, rate, hl, hi, hipos, hr, hrpos, hstem⟩
    have hfree := hyphen_notMem_grammarSegments hl hi hr
    obtain ⟨rfl, rfl⟩ := h.unique ⟨hyphen_notMem_tag kind, .inl hstem⟩
    refine ⟨rfl, latency, interval, rate, hl, hi, hipos, hr, hrpos, ?_⟩
    rw [Text.segments_eq_iff (by simp [grammarSegments]) hfree, String.toList_ofList]
  · rintro ⟨rfl, latency, interval, rate, hl, hi, hipos, hr, hrpos, hsegments⟩
    have hfree := hyphen_notMem_grammarSegments hl hi hr
    rw [Text.segments_eq_iff (by simp [grammarSegments]) hfree] at hsegments
    refine ⟨latency, interval, rate, hl, hi, hipos, hr, hrpos, ?_⟩
    rw [← hsegments, String.ofList_toList]
    rcases h.2 with hstem | ⟨-, rfl⟩
    · exact hstem
    · simp [grammarSegments, Text.join] at hsegments

theorem readLogName_eq_ok_iff {name : String} {kind : LogKind} {e : Experiment} :
    readLogName name = .ok (kind, e) ↔ IsLogStem kind e (withoutExtension name) := by
  obtain ⟨tag, rest, h⟩ := exists_heads (withoutExtension name)
  rw [readLogName_eq_ok_iff_fits h, isLogStem_iff h]

theorem isLogStem_logStem {e : Experiment} (kind : LogKind) (hi : 0 < e.intervalS)
    (hr : 0 < e.requestRate) : IsLogStem kind e (e.logStem kind) := by
  refine ⟨_, _, _, Experiment.writesCount_toString e.latencyMs,
    Experiment.writesCount_toString e.intervalS, hi,
    Experiment.writesCount_toString e.requestRate, hr, ?_⟩
  rw [logStem_eq]
  rfl

theorem withoutExtension_of_isLogStem {stem : String} {kind : LogKind} {e : Experiment}
    (h : IsLogStem kind e stem) : withoutExtension stem = stem := by
  obtain ⟨latency, interval, rate, -, -, -, hr, -, rfl⟩ := h
  apply withoutExtension_eq_self
  intro s hs
  have hne : rate.toList ≠ [] := by simpa using hr.nonempty
  have hlast := congrArg (fun t => t.toList.getLast?) hs
  simp only [String.toList_append, List.getLast?_append_of_ne_nil _ hne, extension] at hlast
  rw [List.getLast?_append_of_ne_nil _ (by decide)] at hlast
  have hmem : 'v' ∈ rate.toList := List.mem_of_getLast? (hlast.trans (by decide))
  exact absurd (hr.digit _ hmem) (by decide)

theorem ofFileName?_of_isLogStem {name : String} {kind : LogKind} {e : Experiment}
    (h : IsLogStem kind e (withoutExtension name)) : LogKind.ofFileName? name = some kind := by
  obtain ⟨text, hstem⟩ : ∃ text, withoutExtension name = kind.tag ++ "-" ++ text := by
    obtain ⟨latency, interval, rate, -, -, -, -, -, hstem⟩ := h
    exact ⟨_, hstem.trans (logStem_eq kind e latency interval rate)⟩
  obtain ⟨behind, hname⟩ : ∃ behind, name.toList = kind.tag.toList ++ '-' :: behind := by
    rcases withoutExtension_eq_iff.1 hstem with rfl | ⟨rfl, -⟩
    · exact ⟨text.toList ++ extension.toList, by simp⟩
    · exact ⟨text.toList, by simp⟩
  simp [LogKind.ofFileName?, Text.segments, hname, Text.split_append (hyphen_notMem_tag kind),
    LogKind.ofTag?_tag]

theorem readLogName_follows_grammar (name : String) :
    (∀ stem, withoutExtension name = stem ↔
      name = stem ++ ".csv" ∨ name = stem ∧ ∀ s, name ≠ s ++ ".csv") ∧
    (∀ kind e, readLogName name = .ok (kind, e) ↔ IsLogStem kind e (withoutExtension name)) ∧
    (∀ kind e, 0 < e.intervalS → 0 < e.requestRate →
      readLogName (e.logName kind) = .ok (kind, e) ∧
        readLogName (e.logStem kind) = .ok (kind, e)) ∧
    (∀ kind e, readLogName name = .ok (kind, e) → LogKind.ofFileName? name = some kind) ∧
    (∀ err, readLogName name = .error err ↔
      ∃ tag rest, Heads (withoutExtension name) tag rest ∧ NameFault tag rest err) ∧
    ∀ field, readLogName name ≠ .error (.missingField field) := by
  obtain ⟨tag, rest, h⟩ := exists_heads (withoutExtension name)
  refine ⟨fun stem => withoutExtension_eq_iff, fun kind e => readLogName_eq_ok_iff,
    fun kind e hi hr => ?_, fun kind e hread => ?_, fun err => ?_, fun field hread => ?_⟩
  · have hstem := isLogStem_logStem kind hi hr
    rw [readLogName_eq_ok_iff, readLogName_eq_ok_iff, Experiment.logName, withoutExtension_append,
      withoutExtension_of_isLogStem hstem]
    exact ⟨hstem, hstem⟩
  · exact ofFileName?_of_isLogStem (readLogName_eq_ok_iff.1 hread)
  · rw [readLogName_eq_error_iff h]
    constructor
    · intro hfault
      exact ⟨tag, rest, h, hfault⟩
    · rintro ⟨tag', rest', h', hfault⟩
      obtain ⟨rfl, rfl⟩ := h.unique h'
      exact hfault
  · obtain _ | _ | ⟨-, -, hfirst⟩ := (readLogName_eq_error_iff h).1 hread
    exact hfirst.ne_missingField field rfl

theorem readLogName_follows_grammar_leadingZeros :
    let e : Experiment := ⟨.leastResponseTime, 25, false, 20, .varied, 4294967295⟩
    0 < e.intervalS ∧ 0 < e.requestRate ∧
      readLogName (e.logName .balancer) = .ok (.balancer, e) ∧
      IsLogStem .balancer e
        (withoutExtension "lb-exp-lrt-lat-025-homog-false-int-20-fsz-v-rate-4294967295") ∧
      LogKind.ofFileName? "lb-exp-lrt-lat-025-homog-false-int-20-fsz-v-rate-4294967295" =
        some .balancer := by
  intro e
  obtain ⟨-, hok, hinverse, htag, -⟩ := readLogName_follows_grammar
    "lb-exp-lrt-lat-025-homog-false-int-20-fsz-v-rate-4294967295"
  have hread : readLogName "lb-exp-lrt-lat-025-homog-false-int-20-fsz-v-rate-4294967295" =
      .ok (.balancer, e) := by decide +kernel
  exact ⟨by decide, by decide, (hinverse .balancer e (by decide) (by decide)).1,
    (hok .balancer e).1 hread, htag .balancer e hread⟩

end RateSweep
