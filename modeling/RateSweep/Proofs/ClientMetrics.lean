import RateSweep.Proofs.KeptResults

/-!
The two metrics of clients. Every summary of a client has both a mean service time and an error
fraction, so that a configuration has a table of the one exactly if it has a table of the other
(`compare_sameShape`). This is why a run counts the configurations it drops for one metric only,
and why the files it writes for the two have the same names (`Task.metrics_agree`).
-/

namespace RateSweep

section Related

variable {α β β' γ γ' : Type} {R : β → γ → Prop} {R' : β' → γ' → Prop} {x : Option β} {y : Option γ}

theorem rel_bind {f : β → Option β'} {g : γ → Option γ'} (h : Option.Rel R x y)
    (hfg : ∀ b c, R b c → Option.Rel R' (f b) (g c)) : Option.Rel R' (x >>= f) (y >>= g) := by
  cases h with
  | none => exact .none
  | some hbc => exact hfg _ _ hbc

theorem rel_option_map {f : β → β'} {g : γ → γ'} (h : Option.Rel R x y)
    (hfg : ∀ b c, R b c → R' (f b) (g c)) : Option.Rel R' (x.map f) (y.map g) := by
  cases h with
  | none => exact .none
  | some hbc => exact .some (hfg _ _ hbc)

theorem rel_mapM {f : α → Option β} {g : α → Option γ} (h : ∀ a, Option.Rel R (f a) (g a))
    (xs : List α) : Option.Rel (List.Forall₂ R) (xs.mapM f) (xs.mapM g) := by
  induction xs with
  | nil => exact .some .nil
  | cons a xs ih =>
    rw [List.mapM_cons, List.mapM_cons]
    refine rel_bind (h a) fun b c hbc => ?_
    refine rel_bind ih fun bs cs hbs => ?_
    exact .some (.cons hbc hbs)

theorem isSome_eq_of_rel (h : Option.Rel R x y) : x.isSome = y.isSome := by
  cases h <;> rfl

end Related

structure TableRow.SameShape (r r' : TableRow) : Prop where
  key : r.key = r'.key
  length : r.values.length = r'.values.length

structure RateTable.SameShape (t t' : RateTable) : Prop where
  name : t.name = t'.name
  keyLabel : t.keyLabel = t'.keyLabel
  rates : t.rates = t'.rates
  rows : List.Forall₂ TableRow.SameShape t.rows t'.rows

theorem RateTable.SameShape.fileName_eq {t t' : RateTable} (h : t.SameShape t') :
    t'.fileName = t.fileName := by
  rw [RateTable.fileName, RateTable.fileName, h.name]

structure Report.SameShape (r r' : Report) : Prop where
  tables : List.Forall₂ RateTable.SameShape r.tables r'.tables
  dropped : r.dropped = r'.dropped

section Metrics

variable {σ : Type} [Measured σ] {metric metric' : Metric}

def Metric.Together (σ : Type) [Measured σ] (metric metric' : Metric) : Prop :=
  ∀ s : σ, Option.Rel (fun _ _ => True) (Measured.measure s metric) (Measured.measure s metric')

theorem row?_sameShape (h : metric.Together σ metric') (key : BinKey) (bucket : List σ) :
    Option.Rel TableRow.SameShape (Configuration.row? metric key bucket)
      (Configuration.row? metric' key bucket) :=
  rel_option_map (rel_mapM h bucket) fun _ _ hvalues => ⟨rfl, hvalues.length_eq⟩

theorem table?_sameShape (h : metric.Together σ metric') (c : Configuration) (d : Design)
    (ss : List σ) :
    Option.Rel RateTable.SameShape (c.table? d metric ss) (c.table? d metric' ss) := by
  have hrows := rel_mapM (fun bin => row?_sameShape h bin.1 bin.2) (c.bins d ss).buckets
  unfold Configuration.table?
  simp only
  split
  · exact rel_option_map hrows fun _ _ h => ⟨rfl, rfl, rfl, h⟩
  · exact .none

theorem compare_sameShape (h : metric.Together σ metric') (g : Grouping) (d : Design)
    (ss : List σ) : (compare g d metric ss).SameShape (compare g d metric' ss) := by
  have htables (c : Configuration) := table?_sameShape h c d ss
  constructor
  · rw [compare, compare, Report.tables_ofResults_map, Report.tables_ofResults_map]
    refine List.rel_filterMap (R := Eq) ?_ (List.forall₂_refl _)
    rintro c _ rfl
    exact htables c
  · rw [compare, compare, Report.dropped_ofResults_map, Report.dropped_ofResults_map]
    apply List.countP_congr
    intro c _
    rw [isSome_eq_of_rel (htables c)]

end Metrics

theorem together_meanServiceTime_errorFraction :
    Metric.meanServiceTime.Together ClientSummary .errorFraction :=
  fun _ => .some trivial

namespace Output

def namesIn (directory : String) (os : List Output) : List String :=
  (os.filter fun o => o.directory = directory).map Output.name

variable {directory : String}

theorem namesIn_append (os os' : List Output) :
    namesIn directory (os ++ os') = namesIn directory os ++ namesIn directory os' := by
  simp [namesIn]

theorem namesIn_flatMap {α : Type} (f : α → List Output) (xs : List α) :
    namesIn directory (xs.flatMap f) = xs.flatMap fun x => namesIn directory (f x) := by
  simp [namesIn, List.filter_flatMap, List.map_flatMap]

theorem namesIn_eq_nil {os : List Output} (h : ∀ o ∈ os, o.directory ≠ directory) :
    namesIn directory os = [] := by
  simpa [namesIn] using h

theorem namesIn_tables (ts : List RateTable) :
    namesIn directory (ts.map (Task.tableOutput directory)) = ts.map RateTable.fileName := by
  simp [namesIn, List.filter_map, Function.comp_def, Task.tableOutput]

end Output

namespace Task

variable {s : Settings} {output : String} {i : Intake}

theorem directory_ne_of_mem_tables {folder folder' : String} (h : folder ≠ folder')
    {ts : List RateTable} {o : Output} (ho : o ∈ ts.map (tableOutput (Path.join output folder))) :
    o.directory ≠ Path.join output folder' := by
  obtain ⟨t, -, rfl⟩ := List.mem_map.1 ho
  rwa [tableOutput, ne_eq, Path.join_right_inj]

theorem namesIn_tables_of_ne {folder folder' : String} (h : folder ≠ folder')
    (ts : List RateTable) :
    Output.namesIn (Path.join output folder') (ts.map (tableOutput (Path.join output folder))) =
      [] :=
  Output.namesIn_eq_nil fun _ ho => directory_ne_of_mem_tables h ho

theorem directory_of_mem_distributions {bins : Nat} {directory : String}
    {clients : List ClientSummary} {o : Output}
    (ho : o ∈ clients.filterMap (distribution? bins directory)) : o.directory = directory := by
  obtain ⟨c, -, hc⟩ := List.mem_filterMap.1 ho
  obtain ⟨h, -, rfl⟩ := Option.map_eq_some_iff.1 hc
  rfl

theorem namesIn_distributions {folder : String} (h : "client-distributions" ≠ folder)
    (bins : Nat) (clients : List ClientSummary) :
    Output.namesIn (Path.join output folder)
      (clients.filterMap (distribution? bins (Path.join output "client-distributions"))) = [] := by
  apply Output.namesIn_eq_nil
  intro o ho
  rwa [directory_of_mem_distributions ho, ne_eq, Path.join_right_inj]

theorem outputs_planLogs_client (s : Settings) (output : String) (i : Intake) :
    (planLogs s output i .client).outputs =
      i.clients.filterMap
        (distribution? s.histogramBins (Path.join output "client-distributions")) ++
      Grouping.all.flatMap fun g => (clientTables s.design output i.clients g).1 := rfl

theorem namesIn_planLogs_client (s : Settings) (output : String) (i : Intake) :
    Output.namesIn (Path.join output "client-service-times") (planLogs s output i .client).outputs =
        (Grouping.all.flatMap fun g =>
          (compare g s.design .meanServiceTime i.clients).tables.map RateTable.fileName) ∧
      Output.namesIn (Path.join output "client-errors") (planLogs s output i .client).outputs =
        Grouping.all.flatMap fun g =>
          (compare g s.design .errorFraction i.clients).tables.map RateTable.fileName := by
  rw [outputs_planLogs_client]
  simp only [Output.namesIn_append, Output.namesIn_flatMap, clientTables]
  constructor
  · rw [namesIn_distributions (by decide), List.nil_append]
    congr 1
    funext g
    rw [Output.namesIn_tables, namesIn_tables_of_ne (by decide), List.append_nil]
  · rw [namesIn_distributions (by decide), List.nil_append]
    congr 1
    funext g
    rw [Output.namesIn_tables, namesIn_tables_of_ne (by decide), List.nil_append]

theorem dropped_planLogs_client (s : Settings) (output : String) (i : Intake) :
    (planLogs s output i .client).dropped +
        (Output.namesIn (Path.join output "client-service-times")
          (planLogs s output i .client).outputs).length =
      (Grouping.all.map fun g => (g.configurations s.design).length).sum := by
  have hcount (g : Grouping) :
      (compare g s.design .meanServiceTime i.clients).tables.length +
        (compare g s.design .meanServiceTime i.clients).dropped =
          (g.configurations s.design).length :=
    Report.length_tables_add_dropped _ _
  have hdropped : (planLogs s output i .client).dropped =
      (compare .byAlgorithm s.design .meanServiceTime i.clients).dropped +
        (compare .byFileSize s.design .meanServiceTime i.clients).dropped := rfl
  rw [(namesIn_planLogs_client s output i).1, hdropped]
  simp only [Grouping.all, List.flatMap_cons, List.flatMap_nil, List.map_cons, List.map_nil,
    List.length_append, List.length_map, List.length_nil, List.sum_cons, List.sum_nil, ← hcount]
  omega

theorem mem_written_iff {kind : LogKind} {folder name : String} (hne : folder ≠ "")
    (hfolder : '/' ∉ folder.toList) :
    Path.join (Path.join output folder) name ∈ (planLogs s output i kind).written ↔
      name ∈ Output.namesIn (Path.join output folder) (planLogs s output i kind).outputs := by
  unfold Output.namesIn
  simp only [Plan.written, List.mem_map, List.mem_filter, decide_eq_true_eq]
  constructor
  · rintro ⟨o, ho, hpath⟩
    obtain ⟨r, -, hr⟩ := exists_left_of_forall₂ (forall₂_files s output i kind) ho
    rw [hr.path_eq] at hpath
    obtain ⟨hfolders, hnames⟩ := Path.join_join_inj r.folder_ne_empty hne r.slash_notMem_folder
      hfolder hpath
    refine ⟨o, ⟨ho, ?_⟩, ?_⟩
    · rw [hr.directory, hfolders]
    · rw [hr.name, hnames]
  · rintro ⟨o, ⟨ho, hdirectory⟩, rfl⟩
    exact ⟨o, ho, by rw [Output.path, hdirectory]⟩

end Task

theorem Task.metrics_agree :
    (∀ (g : Grouping) (d : Design) (clients : List ClientSummary),
      (compare g d .meanServiceTime clients).SameShape (compare g d .errorFraction clients)) ∧
    ∀ (s : Settings) (output source : String) (t t' : FileTree) (p : Plan),
      Task.run s output t (.clients source) = (.ok p, t') →
        let times := Output.namesIn (Path.join output "client-service-times") p.outputs
        let errors := Output.namesIn (Path.join output "client-errors") p.outputs
        p.dropped + times.length =
            (Grouping.all.map fun g => (g.configurations s.design).length).sum ∧
          errors = times ∧
          ∀ name, Path.join (Path.join output "client-errors") name ∈ p.written ↔
            Path.join (Path.join output "client-service-times") name ∈ p.written := by
  have hshape (g : Grouping) (d : Design) (clients : List ClientSummary) :=
    compare_sameShape together_meanServiceTime_errorFraction g d clients
  refine ⟨hshape, ?_⟩
  intro s output source t t' p hrun
  have hsource : (clients source).logDirectory? = some (source, .client) := rfl
  obtain ⟨i, -, rfl⟩ := exists_intake_of_plan hsource (run_eq_ok_iff.1 hrun).1
  obtain ⟨htimes, herrors⟩ := namesIn_planLogs_client s output i
  have hfiles (g : Grouping) :
      (compare g s.design .errorFraction i.clients).tables.map RateTable.fileName =
        (compare g s.design .meanServiceTime i.clients).tables.map RateTable.fileName :=
    map_eq_map_of_forall₂ ((hshape g s.design i.clients).tables.imp fun _ _ h => h.fileName_eq)
  simp only [hfiles] at herrors
  have hsame := herrors.trans htimes.symm
  refine ⟨dropped_planLogs_client s output i, hsame, fun name => ?_⟩
  rw [mem_written_iff (by decide) (by decide), mem_written_iff (by decide) (by decide), hsame]

def twoSizes : Settings where
  design := ⟨[.roundRobin], [0], [true], [.small, .varied], [10], 20⟩

def clientTree : FileTree where
  workingDirectory := []
  entries := [(["logs"], .directory),
    (["logs", "client-exp-rr-lat-0-homog-true-int-20-fsz-s-rate-10.csv"],
      .file (Text.encode "duration,bytes\n250,10\n0,0\n"))]

theorem Task.metrics_agree_twoSizes : twoSizes.violation? = none ∧
    ∃ p t', Task.run twoSizes "out" clientTree (.clients "logs") = (.ok p, t') ∧ p.dropped = 1 ∧
      Output.namesIn "out/client-errors" p.outputs =
        ["algs-compare-homog-true-fsz-s-delay-0.csv", "vary-fsz-alg-rr-homog-true-delay-0.csv"] ∧
      "out/client-errors/algs-compare-homog-true-fsz-s-delay-0.csv" ∈ p.written := by
  let first := Task.run twoSizes "out" clientTree (.clients "logs")
  have hfirst : first.1.map
      (fun p => (p.dropped, Output.namesIn "out/client-service-times" p.outputs, p.written)) =
        .ok (1,
          ["algs-compare-homog-true-fsz-s-delay-0.csv", "vary-fsz-alg-rr-homog-true-delay-0.csv"],
          ["out/client-distributions/" ++
              "hist-client-exp-rr-lat-0-homog-true-int-20-fsz-s-rate-10.csv",
            "out/client-service-times/algs-compare-homog-true-fsz-s-delay-0.csv",
            "out/client-errors/algs-compare-homog-true-fsz-s-delay-0.csv",
            "out/client-service-times/vary-fsz-alg-rr-homog-true-delay-0.csv",
            "out/client-errors/vary-fsz-alg-rr-homog-true-delay-0.csv"]) := by
    decide +kernel
  obtain ⟨p, hp, hfigures⟩ := exists_of_map_eq_ok hfirst
  obtain ⟨hdropped, hrest⟩ := Prod.mk.inj hfigures
  obtain ⟨htimes, hwritten⟩ := Prod.mk.inj hrest
  have hrun : first = (.ok p, first.2) := Prod.ext hp rfl
  obtain ⟨-, hsame, hpaths⟩ := metrics_agree.2 twoSizes "out" "logs" clientTree first.2 p hrun
  refine ⟨by decide, p, first.2, hrun, hdropped, hsame.trans htimes, ?_⟩
  apply (hpaths "algs-compare-homog-true-fsz-s-delay-0.csv").2
  rw [hwritten]
  decide

end RateSweep
