import RateSweep.Proofs.Activities
import RateSweep.Proofs.GateAgreement
import RateSweep.Proofs.TaskPlans

namespace RateSweep

namespace Path

def lead (dir : String) : String :=
  if dir = "" then ""
  else if dir.toList.getLast? = some '/' then dir
  else dir ++ "/"

theorem join_eq (dir name : String) : join dir name = lead dir ++ name := by
  unfold join lead
  split
  · simp
  · split <;> rfl

theorem join_right_inj {dir name name' : String} :
    join dir name = join dir name' ↔ name = name' := by
  rw [join_eq, join_eq, String.append_right_inj]

theorem lead_join {folder : String} (hne : folder ≠ "") (hfolder : '/' ∉ folder.toList)
    (dir : String) : lead (join dir folder) = lead dir ++ folder ++ "/" := by
  have hlist : folder.toList ≠ [] := by simpa using hne
  have hempty : join dir folder ≠ "" := by
    intro h
    simp [join_eq, hne] at h
  have hlast : (join dir folder).toList.getLast? ≠ some '/' := by
    rw [join_eq, String.toList_append, List.getLast?_append_of_ne_nil _ hlist]
    intro h
    exact hfolder (List.mem_of_getLast? h)
  rw [lead, if_neg hempty, if_neg hlast, join_eq]

theorem join_join_inj {dir folder folder' name name' : String} (hne : folder ≠ "")
    (hne' : folder' ≠ "") (hfolder : '/' ∉ folder.toList) (hfolder' : '/' ∉ folder'.toList)
    (h : join (join dir folder) name = join (join dir folder') name') :
    folder = folder' ∧ name = name' := by
  rw [join_eq _ name, join_eq _ name', lead_join hne hfolder, lead_join hne' hfolder'] at h
  have hlist : folder.toList ++ '/' :: name.toList = folder'.toList ++ '/' :: name'.toList := by
    simpa using congrArg String.toList h
  have hsplit := congrArg (Text.split '/') hlist
  rw [Text.split_append hfolder, Text.split_append hfolder'] at hsplit
  have hfolders := (List.cons.inj hsplit).1
  rw [hfolders, List.append_cancel_left_eq] at hlist
  exact ⟨String.toList_inj.1 hfolders, String.toList_inj.1 (List.cons.inj hlist).2⟩

end Path

inductive Result where
  | distribution (e : Experiment)
  | serviceTimes (c : Configuration)
  | clientErrors (c : Configuration)
  | requestRates (c : Configuration)
  | requestCounts (e : Experiment)
  | idleTimes (s : IdleSetting)
deriving DecidableEq

theorem hyphenated_cons {parts : List String} (hparts : parts ≠ []) (part : String) :
    hyphenated (part :: parts) = part ++ "-" ++ hyphenated parts := by
  obtain ⟨next, rest, rfl⟩ := List.exists_cons_of_ne_nil hparts
  rw [← String.toList_inj]
  simp [hyphenated, Text.join]

theorem slash_notMem_hyphenated {parts : List String} (h : Segmented parts) :
    '/' ∉ (hyphenated parts).toList := by
  obtain ⟨hne, hplain⟩ := h
  induction parts with
  | nil => exact absurd rfl hne
  | cons part parts ih =>
    obtain ⟨hpart, hparts⟩ := List.forall_mem_cons.1 hplain
    cases parts with
    | nil => simpa [hyphenated, Text.join] using hpart.2
    | cons next rest =>
      have hrest := ih (List.cons_ne_nil _ _) hparts
      rw [hyphenated_cons (List.cons_ne_nil _ _)]
      simp [hpart.2, hrest]

namespace Result

def folder : Result → String
  | distribution _ => "client-distributions"
  | serviceTimes _ => "client-service-times"
  | clientErrors _ => "client-errors"
  | requestRates _ => "lb-tables"
  | requestCounts _ => "node-request-counts"
  | idleTimes _ => "idle-times"

def nameParts : Result → List String
  | distribution e => "hist" :: e.stemParts .client
  | serviceTimes c => c.nameParts
  | clientErrors c => c.nameParts
  | requestRates c => c.nameParts
  | requestCounts e => "node" :: "req" :: "count" :: e.stemParts .cluster
  | idleTimes s => s.nameParts

def name (r : Result) : String := hyphenated r.nameParts ++ extension

def path (output : String) (r : Result) : String := Path.join (Path.join output r.folder) r.name

theorem folder_ne_empty (r : Result) : r.folder ≠ "" := by
  cases r <;> simp [folder]

theorem slash_notMem_folder (r : Result) : '/' ∉ r.folder.toList := by
  cases r <;> simp [folder]

theorem segmented_nameParts (r : Result) : Segmented r.nameParts := by
  cases r with
  | distribution e => exact .cons (by decide) (e.segmented_stemParts .client)
  | serviceTimes c => exact c.segmented_nameParts
  | clientErrors c => exact c.segmented_nameParts
  | requestRates c => exact c.segmented_nameParts
  | requestCounts e =>
    exact .cons (by decide) (.cons (by decide) (.cons (by decide) (e.segmented_stemParts .cluster)))
  | idleTimes s => exact s.segmented_nameParts

theorem slash_notMem_name (r : Result) : '/' ∉ r.name.toList := by
  have hext : '/' ∉ extension.toList := by decide
  simp [name, slash_notMem_hyphenated r.segmented_nameParts, hext]

def AtInterval (interval : UInt32) : Result → Prop
  | distribution _ => True
  | serviceTimes c => c.intervalS = interval
  | clientErrors c => c.intervalS = interval
  | requestRates c => c.intervalS = interval
  | requestCounts _ => True
  | idleTimes s => s.intervalS = interval

theorem nameParts_inj {r r' : Result} {interval : UInt32} (hr : r.AtInterval interval)
    (hr' : r'.AtInterval interval) (hfolder : r.folder = r'.folder)
    (h : r.nameParts = r'.nameParts) : r = r' := by
  cases r with
  | distribution e =>
    cases r' with
    | distribution e' => rw [(Experiment.stemParts_inj (List.cons.inj h).2).2]
    | _ => simp [folder] at hfolder
  | serviceTimes c =>
    cases r' with
    | serviceTimes c' => rw [Configuration.nameParts_inj (Eq.trans hr (Eq.symm hr')) h]
    | _ => simp [folder] at hfolder
  | clientErrors c =>
    cases r' with
    | clientErrors c' => rw [Configuration.nameParts_inj (Eq.trans hr (Eq.symm hr')) h]
    | _ => simp [folder] at hfolder
  | requestRates c =>
    cases r' with
    | requestRates c' => rw [Configuration.nameParts_inj (Eq.trans hr (Eq.symm hr')) h]
    | _ => simp [folder] at hfolder
  | requestCounts e =>
    cases r' with
    | requestCounts e' =>
      simp only [nameParts, List.cons.injEq, true_and] at h
      rw [(Experiment.stemParts_inj h).2]
    | _ => simp [folder] at hfolder
  | idleTimes s =>
    cases r' with
    | idleTimes s' => rw [IdleSetting.nameParts_inj (Eq.trans hr (Eq.symm hr')) h]
    | _ => simp [folder] at hfolder

theorem path_inj {r r' : Result} {interval : UInt32} {output : String}
    (hr : r.AtInterval interval) (hr' : r'.AtInterval interval)
    (h : r.path output = r'.path output) : r = r' := by
  obtain ⟨hfolder, hname⟩ := Path.join_join_inj r.folder_ne_empty r'.folder_ne_empty
    r.slash_notMem_folder r'.slash_notMem_folder h
  have hparts := (String.append_left_inj extension).1 hname
  exact nameParts_inj hr hr' hfolder
    (hyphenated_inj r.segmented_nameParts r'.segmented_nameParts hparts)

theorem exists_head_nameParts (r : Result) : ∃ head rest, r.nameParts = head :: rest ∧ rest ≠ [] ∧
    LogKind.ofTag? head = none := by
  have hconfiguration (c : Configuration) : ∃ head rest, c.nameParts = head :: rest ∧ rest ≠ [] ∧
      LogKind.ofTag? head = none := by
    cases hg : c.grouping with
    | byAlgorithm =>
      refine ⟨"algs", c.nameParts.tail, ?_, ?_, by decide⟩ <;> simp [Configuration.nameParts, hg]
    | byFileSize =>
      refine ⟨"vary", c.nameParts.tail, ?_, ?_, by decide⟩ <;> simp [Configuration.nameParts, hg]
  cases r with
  | distribution e => exact ⟨"hist", _, rfl, List.cons_ne_nil _ _, by decide⟩
  | serviceTimes c => exact hconfiguration c
  | clientErrors c => exact hconfiguration c
  | requestRates c => exact hconfiguration c
  | requestCounts e => exact ⟨"node", _, rfl, List.cons_ne_nil _ _, by decide⟩
  | idleTimes s => exact ⟨"idle", _, rfl, List.cons_ne_nil _ _, by decide⟩

theorem readLogName_name (r : Result) (kind : LogKind) (e : Experiment) :
    readLogName r.name ≠ .ok (kind, e) := by
  obtain ⟨head, rest, hparts, hrest, htag⟩ := r.exists_head_nameParts
  have hplain : Plain head := by
    apply r.segmented_nameParts.plain
    rw [hparts]
    exact List.mem_cons_self
  have hheads : Heads (withoutExtension r.name) head (hyphenated rest) := by
    refine ⟨hplain.1, .inl ?_⟩
    rw [name, withoutExtension_append, hparts, hyphenated_cons hrest]
  rw [readLogName_of_heads hheads, htag]
  simp

end Result

namespace Grouping

variable {σ : Type} [Measured σ]

def tabulated (g : Grouping) (d : Design) (metric : Metric) (ss : List σ) : List Configuration :=
  (g.configurations d).filter fun c => (c.table? d metric ss).isSome

end Grouping

def IdleSetting.tabulated (d : Design) (ss : List ClusterSummary) : List IdleSetting :=
  (IdleSetting.all d).filter fun x => (x.table? d ss).isSome

/-- The texts that a result may have. A result about one experiment may have as many texts as there
are logs of the experiment. -/
def Result.Shows (s : Settings) (i : Intake) : Result → String → Prop
  | distribution e, text => ∃ c ∈ i.clients, c.experiment = e ∧
      ∃ h, Histogram.ofValues? c.serviceTimes s.histogramBins = some h ∧ h.csv = text
  | serviceTimes c, text =>
      ∃ t, c.table? s.design .meanServiceTime i.clients = some t ∧ t.csv = text
  | clientErrors c, text => ∃ t, c.table? s.design .errorFraction i.clients = some t ∧ t.csv = text
  | requestRates c, text =>
      ∃ t, c.table? s.design .requestsPerSecond i.balancers = some t ∧ t.csv = text
  | requestCounts e, text =>
      ∃ c ∈ i.clusters, c.experiment = e ∧ (RequestCounts.ofSummary c).csv = text
  | idleTimes x, text => ∃ t, x.table? s.design i.clusters = some t ∧ t.csv = text

def results (s : Settings) (i : Intake) : LogKind → List Result
  | .client =>
    ((i.clients.filter fun c => (Histogram.ofValues? c.serviceTimes s.histogramBins).isSome).map
        fun c => .distribution c.experiment) ++
      Grouping.all.flatMap fun g =>
        (g.tabulated s.design .meanServiceTime i.clients).map .serviceTimes ++
          (g.tabulated s.design .errorFraction i.clients).map .clientErrors
  | .balancer =>
    Grouping.all.flatMap fun g =>
      (g.tabulated s.design .requestsPerSecond i.balancers).map .requestRates
  | .cluster =>
    (i.clusters.map fun c => .requestCounts c.experiment) ++
      (IdleSetting.tabulated s.design i.clusters).map .idleTimes

structure Files (s : Settings) (i : Intake) (output : String) (r : Result) (o : Output) : Prop where
  directory : o.directory = Path.join output r.folder
  name : o.name = r.name
  text : r.Shows s i o.text

namespace Task

section Files

variable {s : Settings} {i : Intake} {output : String}

theorem forall₂_files_tables {σ : Type} [Measured σ] (g : Grouping) (metric : Metric) (ss : List σ)
    (r : Configuration → Result) {folder : String} (hfolder : ∀ c, (r c).folder = folder)
    (hparts : ∀ c, (r c).nameParts = c.nameParts)
    (hshows : ∀ c t, c.table? s.design metric ss = some t → (r c).Shows s i t.csv) :
    List.Forall₂ (Files s i output) ((g.tabulated s.design metric ss).map r)
      ((compare g s.design metric ss).tables.map (tableOutput (Path.join output folder))) := by
  rw [List.forall₂_map_left_iff, List.forall₂_map_right_iff, compare, Report.tables_ofResults_map]
  apply forall₂_filter_filterMap
  intro c _ t ht
  refine ⟨by rw [hfolder]; rfl, ?_, hshows c t ht⟩
  rw [Result.name, hparts, ← c.name_eq_hyphenated, ← Configuration.name_of_table? ht]
  rfl

theorem forall₂_files_distributions (clients : List ClientSummary) (h : ∀ c ∈ clients, c ∈ i.clients) :
    List.Forall₂ (Files s i output)
      ((clients.filter fun c => (Histogram.ofValues? c.serviceTimes s.histogramBins).isSome).map
        fun c => .distribution c.experiment)
      (clients.filterMap
        (distribution? s.histogramBins (Path.join output "client-distributions"))) := by
  rw [List.forall₂_map_left_iff]
  have hsome : (fun c : ClientSummary =>
      (Histogram.ofValues? c.serviceTimes s.histogramBins).isSome) = fun c =>
        (distribution? s.histogramBins (Path.join output "client-distributions") c).isSome := by
    funext c
    simp [distribution?]
  rw [hsome]
  apply forall₂_filter_filterMap
  intro c hc o ho
  obtain ⟨histogram, hhistogram, rfl⟩ := Option.map_eq_some_iff.1 ho
  refine ⟨rfl, ?_, c, h c hc, rfl, histogram, hhistogram, rfl⟩
  have hstem : c.experiment.stemParts .client ≠ [] := List.cons_ne_nil _ _
  rw [Result.name, Result.nameParts, hyphenated_cons hstem, ← Experiment.logStem_eq_hyphenated]
  rfl

theorem forall₂_files_counts (clusters : List ClusterSummary) (h : ∀ c ∈ clusters, c ∈ i.clusters) :
    List.Forall₂ (Files s i output) (clusters.map fun c => .requestCounts c.experiment)
      (clusters.map (countsOutput (Path.join output "node-request-counts"))) := by
  rw [List.forall₂_map_left_iff, List.forall₂_map_right_iff, List.forall₂_same]
  intro c hc
  refine ⟨rfl, ?_, c, h c hc, rfl, rfl⟩
  have hstem : c.experiment.stemParts .cluster ≠ [] := List.cons_ne_nil _ _
  have hname : (countsOutput (Path.join output "node-request-counts") c).name =
      "node-req-count-" ++ c.experiment.logStem .cluster ++ extension := rfl
  rw [hname, Result.name, Result.nameParts, hyphenated_cons (List.cons_ne_nil _ _),
    hyphenated_cons (List.cons_ne_nil _ _), hyphenated_cons hstem,
    ← Experiment.logStem_eq_hyphenated, ← String.toList_inj]
  simp

theorem forall₂_files_idle :
    List.Forall₂ (Files s i output) ((IdleSetting.tabulated s.design i.clusters).map .idleTimes)
      ((idleTables s.design i.clusters).tables.map
        (tableOutput (Path.join output "idle-times"))) := by
  rw [List.forall₂_map_left_iff, List.forall₂_map_right_iff, idleTables,
    Report.tables_ofResults_map]
  apply forall₂_filter_filterMap
  intro x _ t ht
  refine ⟨rfl, ?_, t, ht, rfl⟩
  rw [Result.name, Result.nameParts, ← x.name_eq_hyphenated, ← IdleSetting.name_of_table? ht]
  rfl

theorem forall₂_files (s : Settings) (output : String) (i : Intake) (kind : LogKind) :
    List.Forall₂ (Files s i output) (results s i kind) (planLogs s output i kind).outputs := by
  cases kind with
  | client =>
    refine List.rel_append (forall₂_files_distributions i.clients fun _ hc => hc) ?_
    have htables (g : Grouping) : List.Forall₂ (Files s i output)
        ((g.tabulated s.design .meanServiceTime i.clients).map .serviceTimes ++
          (g.tabulated s.design .errorFraction i.clients).map .clientErrors)
        (clientTables s.design output i.clients g).1 := by
      apply List.rel_append
      · exact forall₂_files_tables g _ _ _ (fun _ => rfl) (fun _ => rfl) fun _ t ht => ⟨t, ht, rfl⟩
      · exact forall₂_files_tables g _ _ _ (fun _ => rfl) (fun _ => rfl) fun _ t ht => ⟨t, ht, rfl⟩
    exact List.rel_append (htables .byAlgorithm) (List.rel_append (htables .byFileSize) .nil)
  | balancer =>
    have htables (g : Grouping) : List.Forall₂ (Files s i output)
        ((g.tabulated s.design .requestsPerSecond i.balancers).map .requestRates)
        ((compare g s.design .requestsPerSecond i.balancers).tables.map
          (tableOutput (Path.join output "lb-tables"))) :=
      forall₂_files_tables g _ _ _ (fun _ => rfl) (fun _ => rfl) fun _ t ht => ⟨t, ht, rfl⟩
    exact List.rel_append (htables .byAlgorithm) (List.rel_append (htables .byFileSize) .nil)
  | cluster => exact List.rel_append (forall₂_files_counts i.clusters fun _ hc => hc) forall₂_files_idle

end Files

theorem atInterval_of_mem_results {s : Settings} {i : Intake} {kind : LogKind} {r : Result}
    (h : r ∈ results s i kind) : r.AtInterval s.design.intervalS := by
  have htabulated {σ : Type} [Measured σ] {g : Grouping} {metric : Metric} {ss : List σ}
      {c : Configuration} (hc : c ∈ g.tabulated s.design metric ss) :
      c.intervalS = s.design.intervalS :=
    (Configuration.mem_configurations_iff.1 (List.mem_filter.1 hc).1).2.2.2.1
  cases kind with
  | client =>
    rcases List.mem_append.1 h with h | h
    · obtain ⟨c, -, rfl⟩ := List.mem_map.1 h
      trivial
    · obtain ⟨g, -, h⟩ := List.mem_flatMap.1 h
      rcases List.mem_append.1 h with h | h
      · obtain ⟨c, hc, rfl⟩ := List.mem_map.1 h
        exact htabulated hc
      · obtain ⟨c, hc, rfl⟩ := List.mem_map.1 h
        exact htabulated hc
  | balancer =>
    obtain ⟨g, -, h⟩ := List.mem_flatMap.1 h
    obtain ⟨c, hc, rfl⟩ := List.mem_map.1 h
    exact htabulated hc
  | cluster =>
    rcases List.mem_append.1 h with h | h
    · obtain ⟨c, -, rfl⟩ := List.mem_map.1 h
      trivial
    · obtain ⟨x, hx, rfl⟩ := List.mem_map.1 h
      exact (IdleSetting.mem_all_iff.1 (List.mem_filter.1 hx).1).2.2.2.1

end Task

end RateSweep
