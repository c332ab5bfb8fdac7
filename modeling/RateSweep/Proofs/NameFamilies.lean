import RateSweep.Proofs.Results

namespace RateSweep

def Begins (head name : String) : Prop := '-' ∉ head.toList ∧ ∃ rest, name = head ++ "-" ++ rest

theorem begins_hyphenated {head : String} {parts : List String} (hhead : '-' ∉ head.toList)
    (hparts : parts ≠ []) : Begins head (hyphenated (head :: parts)) :=
  ⟨hhead, _, hyphenated_cons hparts head⟩

theorem Begins.append {head name : String} (h : Begins head name) (more : String) :
    Begins head (name ++ more) := by
  obtain ⟨hhead, rest, rfl⟩ := h
  exact ⟨hhead, rest ++ more, by rw [String.append_assoc]⟩

theorem Begins.unique {head head' name : String} (h : Begins head name) (h' : Begins head' name) :
    head = head' := by
  obtain ⟨hhead, rest, hname⟩ := h
  obtain ⟨hhead', rest', hname'⟩ := h'
  have hheads : Heads name head rest := ⟨hhead, .inl hname⟩
  have hheads' : Heads name head' rest' := ⟨hhead', .inl hname'⟩
  exact (hheads.unique hheads').1

theorem Experiment.begins_logStem (e : Experiment) (kind : LogKind) : Begins kind.tag (e.logStem kind) := by
  rw [logStem_eq_hyphenated]
  exact begins_hyphenated (plain_tag kind).1 (List.cons_ne_nil _ _)

theorem Experiment.logStem_inj {e e' : Experiment} {kind kind' : LogKind}
    (h : e.logStem kind = e'.logStem kind') : kind = kind' ∧ e = e' := by
  rw [logStem_eq_hyphenated, logStem_eq_hyphenated] at h
  exact stemParts_inj (hyphenated_inj (e.segmented_stemParts kind) (e'.segmented_stemParts kind') h)

theorem Configuration.begins_name (c : Configuration) : Begins "algs" c.name ∨ Begins "vary" c.name := by
  rw [name_eq_hyphenated, nameParts]
  cases c.grouping with
  | byAlgorithm => exact .inl (begins_hyphenated (by decide) (List.cons_ne_nil _ _))
  | byFileSize => exact .inr (begins_hyphenated (by decide) (List.cons_ne_nil _ _))

theorem IdleSetting.begins_name (s : IdleSetting) : Begins "idle" s.name := by
  rw [name_eq_hyphenated]
  exact begins_hyphenated (by decide) (List.cons_ne_nil _ _)

theorem IdleSetting.agree_of_name_eq {s s' : IdleSetting} (h : s.name = s'.name) :
    s.algorithm = s'.algorithm ∧ s.latencyMs = s'.latencyMs ∧ s.homogeneous = s'.homogeneous ∧
      s.fileSize = s'.fileSize := by
  -- the name is the same for experiments of any length
  have hsame : s = { s' with intervalS := s.intervalS } := name_inj rfl h
  rw [hsame]
  exact ⟨rfl, rfl, rfl, rfl⟩

theorem Task.name_of_distribution? {bins : Nat} {directory : String} {s : ClientSummary} {o : Output}
    (h : distribution? bins directory s = some o) :
    o.name = "hist-" ++ s.experiment.logStem .client ++ extension := by
  obtain ⟨histogram, -, rfl⟩ := Option.map_eq_some_iff.1 h
  rfl

theorem RequestCounts.name_ofSummary (s : ClusterSummary) :
    (ofSummary s).name = "node-req-count-" ++ s.experiment.logStem .cluster := rfl

inductive NameFamily where
  | comparisons
  | idleTimes
  | logs
  | distributions
  | requestCounts
deriving DecidableEq

namespace NameFamily

def heads : NameFamily → List String
  | comparisons => ["algs", "vary"]
  | idleTimes => ["idle"]
  | logs => LogKind.all.map LogKind.tag
  | distributions => ["hist"]
  | requestCounts => ["node"]

theorem eq_of_mem_heads {f f' : NameFamily} {head : String} (h : head ∈ f.heads)
    (h' : head ∈ f'.heads) : f = f' := by
  revert head
  cases f <;> cases f' <;> decide

inductive Gives : NameFamily → String → Prop
  | configuration (c : Configuration) : Gives comparisons c.name
  | comparison {σ : Type} [Measured σ] {c : Configuration} {d : Design} {metric : Metric}
      {ss : List σ} {t : RateTable} (h : c.table? d metric ss = some t) : Gives comparisons t.fileName
  | idleSetting (s : IdleSetting) : Gives idleTimes s.name
  | idleTable {s : IdleSetting} {d : Design} {ss : List ClusterSummary} {t : RateTable}
      (h : s.table? d ss = some t) : Gives idleTimes t.fileName
  | logStem (e : Experiment) (kind : LogKind) : Gives logs (e.logStem kind)
  | logName (e : Experiment) (kind : LogKind) : Gives logs (e.logName kind)
  | distribution {bins : Nat} {directory : String} {s : ClientSummary} {o : Output}
      (h : Task.distribution? bins directory s = some o) : Gives distributions o.name
  | countsName (s : ClusterSummary) : Gives requestCounts (RequestCounts.ofSummary s).name
  | countsFile (s : ClusterSummary) : Gives requestCounts (RequestCounts.ofSummary s).fileName

theorem Gives.begins {f : NameFamily} {name : String} (h : f.Gives name) :
    ∃ head ∈ f.heads, Begins head name := by
  have hconfiguration (c : Configuration) : ∃ head ∈ comparisons.heads, Begins head c.name := by
    rcases c.begins_name with hbegins | hbegins
    · exact ⟨"algs", by decide, hbegins⟩
    · exact ⟨"vary", by decide, hbegins⟩
  have htag (kind : LogKind) : kind.tag ∈ logs.heads := by cases kind <;> decide
  have hcounts (s : ClusterSummary) : Begins "node" (RequestCounts.ofSummary s).name :=
    ⟨by decide, "req-count-" ++ s.experiment.logStem .cluster, by
      rw [RequestCounts.name_ofSummary, ← String.append_assoc]
      rfl⟩
  cases h with
  | configuration c => exact hconfiguration c
  | @comparison _ _ c _ _ _ t h =>
    obtain ⟨head, hhead, hbegins⟩ := hconfiguration c
    refine ⟨head, hhead, ?_⟩
    rw [RateTable.fileName, Configuration.name_of_table? h]
    exact hbegins.append _
  | idleSetting s => exact ⟨"idle", by decide, s.begins_name⟩
  | @idleTable s _ _ t h =>
    refine ⟨"idle", by decide, ?_⟩
    rw [RateTable.fileName, IdleSetting.name_of_table? h]
    exact s.begins_name.append _
  | logStem e kind => exact ⟨_, htag kind, e.begins_logStem kind⟩
  | logName e kind => exact ⟨_, htag kind, (e.begins_logStem kind).append _⟩
  | @distribution _ _ s _ h =>
    refine ⟨"hist", by decide, by decide, s.experiment.logStem .client ++ extension, ?_⟩
    rw [Task.name_of_distribution? h, ← String.append_assoc]
    rfl
  | countsName s => exact ⟨"node", by decide, hcounts s⟩
  | countsFile s => exact ⟨"node", by decide, (hcounts s).append _⟩

theorem Gives.unique {f f' : NameFamily} {name : String} (h : f.Gives name) (h' : f'.Gives name) :
    f = f' := by
  obtain ⟨head, hhead, hbegins⟩ := h.begins
  obtain ⟨head', hhead', hbegins'⟩ := h'.begins
  obtain rfl := hbegins.unique hbegins'
  exact eq_of_mem_heads hhead hhead'

end NameFamily

theorem names_identify (d : Design) :
    (∀ g g' : Grouping, ∀ c ∈ g.configurations d, ∀ c' ∈ g'.configurations d, c.name = c'.name →
      g = g' ∧ c = c') ∧
    (∀ s s' : IdleSetting, s.name = s'.name → s.algorithm = s'.algorithm ∧
      s.latencyMs = s'.latencyMs ∧ s.homogeneous = s'.homogeneous ∧ s.fileSize = s'.fileSize) ∧
    (∀ (e e' : Experiment) (kind kind' : LogKind), e.logStem kind = e'.logStem kind' →
      kind = kind' ∧ e = e') ∧
    (∀ (bins bins' : Nat) (directory directory' : String) (s s' : ClientSummary) (o o' : Output),
      Task.distribution? bins directory s = some o →
        Task.distribution? bins' directory' s' = some o' → o.name = o'.name →
          s.experiment = s'.experiment) ∧
    (∀ s s' : ClusterSummary,
      (RequestCounts.ofSummary s).fileName = (RequestCounts.ofSummary s').fileName →
        s.experiment = s'.experiment) ∧
    ∀ (f f' : NameFamily) (name : String), f.Gives name → f'.Gives name → f = f' := by
  refine ⟨?_, fun s s' => IdleSetting.agree_of_name_eq, fun e e' kind kind' => Experiment.logStem_inj,
    ?_, ?_, fun f f' name => NameFamily.Gives.unique⟩
  · intro g g' c hc c' hc' hname
    obtain ⟨rfl, -, -, hinterval, -⟩ := Configuration.mem_configurations_iff.1 hc
    obtain ⟨rfl, -, -, hinterval', -⟩ := Configuration.mem_configurations_iff.1 hc'
    have hsame := Configuration.name_inj (hinterval.trans hinterval'.symm) hname
    exact ⟨congrArg Configuration.grouping hsame, hsame⟩
  · intro bins bins' directory directory' s s' o o' ho ho' hname
    rw [Task.name_of_distribution? ho, Task.name_of_distribution? ho', String.append_left_inj,
      String.append_right_inj] at hname
    exact (Experiment.logStem_inj hname).2
  · intro s s' hname
    rw [RequestCounts.fileName, RequestCounts.fileName, String.append_left_inj,
      RequestCounts.name_ofSummary, RequestCounts.name_ofSummary, String.append_right_inj] at hname
    exact (Experiment.logStem_inj hname).2

def timedOnce (bytes : UInt64) : ClientSummary :=
  ⟨⟨.roundRobin, 0, true, 0, .small, 0⟩, bytes, 1.0, 0.0, 1, 0, [1.0]⟩

def variedFor (length : UInt32) : IdleSetting := ⟨.roundRobin, 25, true, length, .varied⟩

theorem names_identify_shared :
    (∃ o o', Task.distribution? 1 "a" (timedOnce 5) = some o ∧
      Task.distribution? 2 "b" (timedOnce 9) = some o' ∧ o.name = o'.name ∧
        (timedOnce 5).experiment = (timedOnce 9).experiment) ∧
    ((variedFor 20).name = (variedFor 60).name ∧
      (variedFor 20).fileSize = (variedFor 60).fileSize) ∧
    (∀ c ∈ Grouping.byAlgorithm.configurations {}, ∀ c' ∈ Grouping.byFileSize.configurations {},
      c.name ≠ c'.name) ∧
    ∀ (c : Configuration) (e : Experiment) (kind : LogKind), c.name ≠ e.logName kind := by
  obtain ⟨hconfigurations, hidle, -, hdistributions, -, hfamilies⟩ := names_identify {}
  refine ⟨?_, ?_, ?_, ?_⟩
  · have hsome : (Task.distribution? 1 "a" (timedOnce 5)).isSome ∧
        (Task.distribution? 2 "b" (timedOnce 9)).isSome := by decide +kernel
    obtain ⟨o, ho⟩ := Option.isSome_iff_exists.1 hsome.1
    obtain ⟨o', ho'⟩ := Option.isSome_iff_exists.1 hsome.2
    have hname : o.name = o'.name := by
      rw [Task.name_of_distribution? ho, Task.name_of_distribution? ho']
      rfl
    exact ⟨o, o', ho, ho', hname, hdistributions 1 2 "a" "b" _ _ o o' ho ho' hname⟩
  · have hname : (variedFor 20).name = (variedFor 60).name := rfl
    exact ⟨hname, (hidle _ _ hname).2.2.2⟩
  · intro c hc c' hc' hname
    cases (hconfigurations _ _ c hc c' hc' hname).1
  · intro c e kind hname
    have hgiven : NameFamily.Gives .comparisons (e.logName kind) := hname ▸ .configuration c
    cases hfamilies _ _ _ hgiven (.logName e kind)

end RateSweep
