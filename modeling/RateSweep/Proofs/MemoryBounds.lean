import RateSweep.CommandLine
import RateSweep.Proofs.Distributions
import RateSweep.Proofs.QueueTables
import RateSweep.Proofs.ReachedSnapshots
import RateSweep.Proofs.RefusedInput

namespace RateSweep

namespace Histogram

theorem fits_eq_of_ofValues? {values : List Float} {bins : Nat} {h : Histogram}
    (hh : ofValues? values bins = some h) : fits bins = fitsMemory h.buckets.length 24 := by
  rw [(total_of_ofValues? hh).1]
  rfl

end Histogram

namespace QueueSeries

theorem clusterSize_of_ofBody? {clusterSize : Nat} {body : List UInt8} {s : QueueSeries}
    (h : ofBody? clusterSize body = .ok s) : s.clusterSize = clusterSize := by
  obtain ⟨records, -, rfl⟩ := ofBody?_eq_ok_iff.1 h
  rfl

theorem fits_eq_header (s : QueueSeries) : fits s.clusterSize = fitsMemory s.header.length 24 := by
  rw [length_header]
  rfl

theorem fits_eq_csv (s : QueueSeries) : ∃ r rs, Csv.records (Text.encode s.csv) = r :: rs ∧
    fits s.clusterSize = fitsMemory r.fields.length 24 := by
  have hfields := fields_records_csv s
  obtain ⟨r, rs, hrecords⟩ := List.exists_cons_of_ne_nil (l := Csv.records (Text.encode s.csv))
    (by rintro hnil; simp [hnil] at hfields)
  rw [hrecords, List.map_cons, List.map_cons] at hfields
  refine ⟨r, rs, hrecords, ?_⟩
  rw [(List.cons.inj hfields).1, List.length_map, fits_eq_header]

end QueueSeries

theorem QueueSnapshot.fits_of_series {n : Nat} (h : QueueSeries.fits n = true) :
    QueueSnapshot.fits n = true := by
  unfold QueueSeries.fits QueueSnapshot.fits at *
  rw [fitsMemory_eq_true_iff] at *
  omega

theorem any_takeWhile_iff {α : Type} {p q : α → Bool} {l : List α} :
    (l.takeWhile p).any q = true ↔ ∃ before a after, l = before ++ a :: after ∧
      (∀ b ∈ before, p b = true) ∧ p a = true ∧ q a = true := by
  induction l with
  | nil => simp
  | cons b l ih =>
    by_cases hb : p b = true
    · rw [List.takeWhile_cons_of_pos hb, List.any_cons, Bool.or_eq_true, ih]
      constructor
      · rintro (hq | ⟨before, a, after, rfl, hbefore, ha, hq⟩)
        · exact ⟨[], b, l, rfl, by simp, hb, hq⟩
        · exact ⟨b :: before, a, after, rfl, List.forall_mem_cons.2 ⟨hb, hbefore⟩, ha, hq⟩
      · rintro ⟨before, a, after, hl, hbefore, ha, hq⟩
        cases before with
        | nil => exact .inl ((List.cons.inj hl).1 ▸ hq)
        | cons c before =>
          exact .inr ⟨before, a, after, (List.cons.inj hl).2,
            (List.forall_mem_cons.1 hbefore).2, ha, hq⟩
    · rw [List.takeWhile_cons_of_neg hb]
      simp only [List.any_nil, Bool.false_eq_true, false_iff]
      rintro ⟨before, a, after, hl, hbefore, ha, -⟩
      cases before with
      | nil => exact hb ((List.cons.inj hl).1 ▸ ha)
      | cons c before => exact hb ((List.cons.inj hl).1 ▸ hbefore c List.mem_cons_self)

/-- No file of the tree takes more than half of what a memory holds. -/
def FileTree.FitsMemory (t : FileTree) : Prop :=
  ∀ l body, (l, .file body) ∈ t.entries → 2 * body.length ≤ memoryLimit

namespace FileTree

variable {t : FileTree} {path : String} {entries : List (String × Entry)} {body : List UInt8}

theorem mem_of_lookupEntry {l : Location} {e : Entry} {es : List (Location × Entry)}
    (h : lookupEntry l es = some e) : (l, e) ∈ es := by
  induction es with
  | nil => cases h
  | cons p es ih =>
    rw [lookupEntry] at h
    split at h
    · next hl =>
      obtain rfl := Option.some.inj h
      exact hl ▸ List.mem_cons_self
    · exact List.mem_cons_of_mem p (ih h)

theorem FitsMemory.openAt (h : t.FitsMemory) (hopen : t.openAt path = .ok (.file body)) :
    2 * body.length ≤ memoryLimit := by
  obtain ⟨l, -, hat⟩ := openAt_eq_ok_file_iff.1 hopen
  unfold at? at hat
  split at hat
  · cases hat
  · exact h l body (mem_of_lookupEntry hat)

theorem FitsMemory.list (h : t.FitsMemory) (hlist : t.list path = .ok entries) {f : String × Entry}
    (hf : f ∈ entries) (hbody : f.2 = .file body) : 2 * body.length ≤ memoryLimit := by
  obtain ⟨l, -, -, rfl⟩ := list_eq_ok_iff.1 hlist
  rw [children_eq] at hf
  obtain ⟨p, hp, hchild⟩ := List.mem_filterMap.1 hf
  obtain rfl := child?_eq_some_iff.1 hchild
  exact h _ body (hbody ▸ hp)

end FileTree

namespace Task

variable {s : Settings} {output : String} {t : FileTree}

theorem balancerLog?_eq_some_iff {file name : String} {body : List UInt8} :
    balancerLog? t file = some (name, body) ↔
      classify file = .ok (.balancer, name) ∧ t.openAt file = .ok (.file body) := by
  unfold balancerLog?
  rw [← openLog_eq_ok_iff]
  constructor
  · intro h
    split at h
    · next hclassify hopen =>
      obtain ⟨rfl, rfl⟩ := Prod.mk.inj (Option.some.inj h)
      exact ⟨hclassify, hopen⟩
    · cases h
  · rintro ⟨hclassify, hopen⟩
    rw [hclassify, hopen]

/-- What a task makes in memory is more than fits: a distribution, the header of a series, or the
entries of a snapshot, for which room is made before they are read. -/
inductive Exceeds (s : Settings) (t : FileTree) : Task → Prop
  | distribution {source : String} {i : Intake} {c : ClientSummary} {h : Histogram}
      (hintake : intake s t source .client = .ok i) (hc : c ∈ i.clients)
      (hh : Histogram.ofValues? c.serviceTimes s.histogramBins = some h)
      (hlarge : fitsMemory h.buckets.length 24 = false) : Exceeds s t (.clients source)
  | series {file name : String} {body : List UInt8} {series : QueueSeries}
      (hlog : balancerLog? t file = some (name, body))
      (hseries : QueueSeries.ofBody? s.clusterSize body = .ok series)
      (hlarge : fitsMemory series.header.length 24 = false) : Exceeds s t (.queues file)
  | queues {file name : String} {body : List UInt8}
      (hlog : balancerLog? t file = some (name, body))
      (hrows : Log.ReachesSnapshot s.clusterSize (Log.rows .passedOver body))
      (hlarge : QueueSnapshot.fits s.clusterSize = false) : Exceeds s t (.queues file)
  | filter {file name : String} {body : List UInt8} {f : LogFilter}
      (hlog : balancerLog? t file = some (name, body))
      (hheader : ∃ header, Log.header body = .ok header)
      (hrows : Log.ReachesSnapshot s.clusterSize (Log.rows .kept body))
      (hlarge : QueueSnapshot.fits s.clusterSize = false) : Exceeds s t (.filter file f)
  | balancer {source : String} {entries before after : List (String × Entry)}
      {f : String × Entry} {body : List UInt8} (hlist : t.list source = .ok entries)
      (hlogs : (Intake.logFiles entries).filter (LogKind.balancer.admits ·.1) = before ++ f :: after)
      (hopen : ∀ g ∈ before, Openable source g) (hf : Openable source f) (hbody : f.2 = .file body)
      (hrows : Log.ReachesSnapshot s.clusterSize (Log.rows .passedOver body))
      (hlarge : QueueSnapshot.fits s.clusterSize = false) : Exceeds s t (.balancer source)

theorem exists_histogram {source : String} {i : Intake} {c : ClientSummary}
    (hintake : intake s t source .client = .ok i) (hc : c ∈ i.clients) {bins : Nat}
    (hbins : bins ≠ 0) : ∃ h, Histogram.ofValues? c.serviceTimes bins = some h := by
  obtain ⟨entries, -, hsummaries⟩ := forall₂_isSummaryOf hintake
  obtain ⟨f, -, hf⟩ := exists_left_of_forall₂ hsummaries hc
  obtain ⟨o, ho, -⟩ := exists_distribution hbins hf ""
  obtain ⟨h, hh, -⟩ := Option.map_eq_some_iff.1 ho
  exact ⟨h, hh⟩

theorem hasClients_iff {source : String} : hasClients s t source = true ↔
    ∃ i, intake s t source .client = .ok i ∧ i.clients ≠ [] := by
  unfold hasClients
  split
  · next i hintake => simp [hintake]
  · next hintake => simp [hintake]

theorem isSome_breakdown?_clients_iff (source : String) :
    ((clients source).breakdown? s output t).isSome = true ↔ (clients source).Exceeds s t := by
  have hparts : ((clients source).breakdown? s output t).isSome = true ↔
      Histogram.fits s.histogramBins = false ∧ hasClients s t source = true := by
    cases hfits : Histogram.fits s.histogramBins <;>
      cases hclients : hasClients s t source <;> simp [breakdown?, hfits, hclients]
  rw [hparts, hasClients_iff]
  constructor
  · rintro ⟨hfits, i, hintake, hclients⟩
    have hbins : s.histogramBins ≠ 0 := by
      intro hzero
      rw [hzero] at hfits
      cases hfits
    obtain ⟨c, hc⟩ := List.exists_mem_of_ne_nil i.clients hclients
    obtain ⟨h, hh⟩ := exists_histogram hintake hc hbins
    exact .distribution hintake hc hh (Histogram.fits_eq_of_ofValues? hh ▸ hfits)
  · intro h
    cases h with
    | distribution hintake hc hh hlarge =>
      exact ⟨Histogram.fits_eq_of_ofValues? hh ▸ hlarge, _, hintake, List.ne_nil_of_mem hc⟩

theorem canOpen_iff {source : String} {f : String × Entry} : canOpen source f = true ↔ Openable source f := by
  simp [canOpen, Openable]

theorem logsShowSnapshot_iff {clusterSize : Nat} {source : String}
    {logs : List (String × Entry)} : logsShowSnapshot clusterSize source logs = true ↔
      ∃ before f after, logs = before ++ f :: after ∧ (∀ g ∈ before, Openable source g) ∧
        Openable source f ∧ ∃ body, f.2 = .file body ∧ showsSnapshot clusterSize body = true := by
  have hshows (f : String × Entry) : fileShowsSnapshot clusterSize f = true ↔
      ∃ body, f.2 = .file body ∧ showsSnapshot clusterSize body = true := by
    unfold fileShowsSnapshot
    cases f.2 <;> simp
  simp only [logsShowSnapshot, any_takeWhile_iff, canOpen_iff, hshows]

theorem isSome_breakdown?_balancer_iff (hmemory : t.FitsMemory) (source : String) :
    ((balancer source).breakdown? s output t).isSome = true ↔ (balancer source).Exceeds s t := by
  have hparts : ((balancer source).breakdown? s output t).isSome = true ↔
      QueueSnapshot.fits s.clusterSize = false ∧
        directoryShowsSnapshot s.clusterSize t source = true := by
    cases hfits : QueueSnapshot.fits s.clusterSize <;>
      cases hshow : directoryShowsSnapshot s.clusterSize t source <;>
        simp [breakdown?, hfits, hshow]
  have hshows {entries before after : List (String × Entry)} {f : String × Entry} {body : List UInt8}
      (hfits : QueueSnapshot.fits s.clusterSize = false) (hlist : t.list source = .ok entries)
      (hlogs : (Intake.logFiles entries).filter (LogKind.balancer.admits ·.1) = before ++ f :: after)
      (hbody : f.2 = .file body) : showsSnapshot s.clusterSize body = true ↔
        Log.ReachesSnapshot s.clusterSize (Log.rows .passedOver body) := by
    have hf : f ∈ (Intake.logFiles entries).filter (LogKind.balancer.admits ·.1) := by simp [hlogs]
    have hmem := ((mem_logFiles entries f).1 (List.mem_of_mem_filter hf)).1
    exact showsSnapshot_iff hfits (hmemory.list hlist hmem hbody)
  rw [hparts]
  constructor
  · rintro ⟨hfits, hdirectory⟩
    unfold directoryShowsSnapshot at hdirectory
    split at hdirectory
    · cases hdirectory
    · next entries hlist =>
      obtain ⟨before, f, after, hlogs, hopen, hf, body, hbody, hshow⟩ :=
        logsShowSnapshot_iff.1 hdirectory
      exact .balancer hlist hlogs hopen hf hbody ((hshows hfits hlist hlogs hbody).1 hshow) hfits
  · intro h
    cases h with
    | balancer hlist hlogs hopen hf hbody hrows hlarge =>
      refine ⟨hlarge, ?_⟩
      rw [directoryShowsSnapshot, hlist]
      exact logsShowSnapshot_iff.2
        ⟨_, _, _, hlogs, hopen, hf, _, hbody, (hshows hlarge hlist hlogs hbody).2 hrows⟩

theorem isSome_breakdown?_queues_iff (hmemory : t.FitsMemory) (file : String) :
    ((queues file).breakdown? s output t).isSome = true ↔ (queues file).Exceeds s t := by
  constructor
  · intro h
    unfold breakdown? at h
    dsimp only at h
    split at h
    · cases h
    · next hfits =>
      cases hlog : balancerLog? t file with
      | none => simp [hlog] at h
      | some log =>
        obtain ⟨name, body⟩ := log
        simp only [hlog, Option.bind_some] at h
        split at h
        · next series hseries =>
          refine .series hlog hseries ?_
          rwa [← QueueSeries.fits_eq_header, QueueSeries.clusterSize_of_ofBody? hseries,
            ← Bool.not_eq_true]
        · next e he =>
          split at h
          · next hof =>
            rw [Bool.and_eq_true, Bool.not_eq_true'] at hof
            have hbody := hmemory.openAt (balancerLog?_eq_some_iff.1 hlog).2
            refine .queues hlog ((seriesStops_iff hof.2 hbody).1 ?_) hof.2
            rw [he]
            exact hof.1
          · cases h
  · intro h
    cases h with
    | series hlog hseries hlarge =>
      rw [← QueueSeries.fits_eq_header, QueueSeries.clusterSize_of_ofBody? hseries] at hlarge
      simp [breakdown?, hlarge, hlog, hseries]
    | @queues _ name body hlog hrows hlarge =>
      have hfits : QueueSeries.fits s.clusterSize = false := by
        by_contra hfits
        rw [Bool.not_eq_false] at hfits
        rw [QueueSnapshot.fits_of_series hfits] at hlarge
        cases hlarge
      have hstops := (seriesStops_iff hlarge
        (hmemory.openAt (balancerLog?_eq_some_iff.1 hlog).2)).2 hrows
      cases he : QueueSeries.ofBody? s.clusterSize body with
      | ok series =>
        rw [he] at hstops
        cases hstops
      | error e =>
        rw [he] at hstops
        have hof : e.isOfSnapshot = true := hstops
        simp [breakdown?, hfits, hlog, he, hof, hlarge]

theorem isSome_breakdown?_filter_iff (hmemory : t.FitsMemory) (file : String) (f : LogFilter) :
    ((filter file f).breakdown? s output t).isSome = true ↔ (filter file f).Exceeds s t := by
  have hstops {name : String} {body : List UInt8} (hfits : QueueSnapshot.fits s.clusterSize = false)
      (hlog : balancerLog? t file = some (name, body)) :=
    filterStops_iff hfits (hmemory.openAt (balancerLog?_eq_some_iff.1 hlog).2) f
  constructor
  · intro h
    unfold breakdown? at h
    dsimp only at h
    split at h
    · cases h
    · next hfits =>
      rw [Bool.not_eq_true] at hfits
      cases hlog : balancerLog? t file with
      | none => simp [hlog] at h
      | some log =>
        obtain ⟨name, body⟩ := log
        simp only [hlog, Option.bind_some] at h
        split at h
        · next hstop =>
          obtain ⟨hheader, hrows⟩ := (hstops hfits hlog).1 hstop
          exact .filter hlog hheader hrows hfits
        · cases h
  · intro h
    cases h with
    | filter hlog hheader hrows hlarge =>
      have hstop := (hstops hlarge hlog).2 ⟨hheader, hrows⟩
      simp [breakdown?, hlarge, hlog, hstop]

theorem isSome_breakdown?_iff (hmemory : t.FitsMemory) (output : String) (task : Task) :
    (task.breakdown? s output t).isSome = true ↔ task.Exceeds s t := by
  cases task with
  | clients source => exact isSome_breakdown?_clients_iff source
  | balancer source => exact isSome_breakdown?_balancer_iff hmemory source
  | cluster source => exact ⟨nofun, nofun⟩
  | queues file => exact isSome_breakdown?_queues_iff hmemory file
  | filter file f => exact isSome_breakdown?_filter_iff hmemory file f

theorem breakdown?_eq_none_of_fits (hbins : Histogram.fits s.histogramBins = true)
    (hsize : QueueSeries.fits s.clusterSize = true) (output : String) (t : FileTree) (task : Task) :
    task.breakdown? s output t = none := by
  have hsnapshot := QueueSnapshot.fits_of_series hsize
  cases task <;> simp [breakdown?, hbins, hsize, hsnapshot]

def emptied (o : Output) : Output := { o with text := "" }

theorem eq_nil_of_ite {p : Prop} [Decidable p] {os : List Output}
    (h : (if p then some [] else none) = some os) : os = [] := by
  split at h
  · exact (Option.some.inj h).symm
  · cases h

theorem breakdown?_left {os : List Output} {task : Task} (h : task.breakdown? s output t = some os) :
    os = [] ∨ ∃ p, task.plan s output t = .ok p ∧ os = p.outputs.map emptied := by
  cases task with
  | clients source =>
    obtain ⟨-, h⟩ := Option.ite_none_left_eq_some.1 h
    exact .inl (eq_nil_of_ite h)
  | balancer source =>
    obtain ⟨-, h⟩ := Option.ite_none_left_eq_some.1 h
    exact .inl (eq_nil_of_ite h)
  | cluster source => cases h
  | filter file f =>
    obtain ⟨-, h⟩ := Option.ite_none_left_eq_some.1 h
    obtain ⟨⟨name, body⟩, -, h⟩ := Option.bind_eq_some_iff.1 h
    exact .inl (eq_nil_of_ite h)
  | queues file =>
    obtain ⟨-, h⟩ := Option.ite_none_left_eq_some.1 h
    obtain ⟨⟨name, body⟩, hlog, h⟩ := Option.bind_eq_some_iff.1 h
    obtain ⟨hclassify, hopen⟩ := balancerLog?_eq_some_iff.1 hlog
    dsimp only at h
    split at h
    · next series hseries =>
      obtain rfl := Option.some.inj h
      exact .inr ⟨_, planQueues_eq_ok_iff.2
        ⟨_, name, body, hclassify, hopen, .inl ⟨rfl, series, hseries, rfl⟩⟩, rfl⟩
    · exact .inl (eq_nil_of_ite h)

end Task

namespace CommandLine.Request

variable {s : Settings} {output : String} {t : FileTree} {task : Task}

theorem carryOut_of_breakdown?_eq_none (h : task.breakdown? s output t = none) :
    carryOut s output t task = (((task.run s output t).1.map fun _ => ()).mapError .task,
      (task.run s output t).2) := by
  rw [carryOut, h]

theorem carryOut_of_fits (hbins : Histogram.fits s.histogramBins = true)
    (hsize : QueueSeries.fits s.clusterSize = true) (output : String) (t : FileTree) (task : Task) :
    carryOut s output t task = (((task.run s output t).1.map fun _ => ()).mapError .task,
      (task.run s output t).2) :=
  carryOut_of_breakdown?_eq_none (Task.breakdown?_eq_none_of_fits hbins hsize output t task)

example : Histogram.fits ({} : Settings).histogramBins = true ∧
    QueueSeries.fits ({} : Settings).clusterSize = true := by decide

/-- A task is run unless it exceeds what fits, and then it breaks off. -/
theorem carryOut_breaks_off_iff (hmemory : t.FitsMemory) (output : String) (task : Task) :
    (¬ task.Exceeds s t → carryOut s output t task =
      (((task.run s output t).1.map fun _ => ()).mapError .task, (task.run s output t).2)) ∧
    (task.Exceeds s t → ∃ os,
      (os = [] ∨ ∃ p, task.plan s output t = .ok p ∧ os = p.outputs.map Task.emptied) ∧
      carryOut s output t task = match Output.writeAll t os with
        | (t, none) => (.error .outOfMemory, t)
        | (t, some e) => (.error (.task e), t)) := by
  rw [← Task.isSome_breakdown?_iff hmemory output, Option.isSome_iff_exists]
  constructor
  · intro hno
    exact carryOut_of_breakdown?_eq_none (by simpa [Option.eq_none_iff_forall_ne_some] using hno)
  · rintro ⟨os, hos⟩
    refine ⟨os, Task.breakdown?_left hos, ?_⟩
    rw [carryOut]
    split
    · next hno => exact absurd (hno.symm.trans hos) nofun
    · next os' hos' =>
      obtain rfl := Option.some.inj (hos'.symm.trans hos)
      rfl

end CommandLine.Request

end RateSweep
