import RateSweep.Proofs.YamlRecords
import RateSweep.SettingsFile

namespace RateSweep

namespace Yaml.Document

variable {d : Document} {names : List String} {name : String} {n v : Node}
  {entries : List (Node × Node)} {fs : List (String × Node)}

/-- What a record says of a name: an entry under it is read, and without one the default stands. -/
inductive Says {α : Type} (d : Document) (entries : List (Node × Node)) (name : String)
    (default : α) (read : Node → Option α) : α → Prop
  | given {v : Node} {a : α} (h : d.HasEntry entries name v) (hread : read v = some a) :
      Says d entries name default read a
  | left (h : ∀ v, ¬ d.HasEntry entries name v) : Says d entries name default read default

theorem Lists.givenOr_eq_some_iff {α : Type} {default a : α} {read : Node → Option α}
    (h : d.Lists names entries fs) (hname : name ∈ names) :
    givenOr fs name default read = some a ↔ d.Says entries name default read a := by
  unfold givenOr
  cases hlookup : fs.lookup name with
  | none =>
    have hno := (h.lookup_eq_none_iff hname).1 hlookup
    constructor
    · intro ha
      exact Option.some.inj ha ▸ .left hno
    · rintro (⟨hentry, -⟩ | _)
      · exact absurd hentry (hno _)
      · rfl
  | some v =>
    have hentry := (h.lookup_eq_some_iff hname).1 hlookup
    constructor
    · exact .given hentry
    · rintro (⟨hentry', hread⟩ | hno)
      · rw [(h.lookup_eq_some_iff hname).2 hentry'] at hlookup
        exact Option.some.inj hlookup ▸ hread
      · exact absurd hentry (hno v)

theorem Lists.givenOr_bind_eq_some_iff {α β : Type} {default : α} {read : Node → Option α}
    {f : α → Option β} {b : β} (h : d.Lists names entries fs) (hname : name ∈ names) :
    (givenOr fs name default read).bind f = some b ↔
      ∃ a, d.Says entries name default read a ∧ f a = some b := by
  simp only [Option.bind_eq_some_iff, h.givenOr_eq_some_iff hname]

theorem Says.induct {α : Type} {entries : List (Node × Node)} {name : String} {default a : α}
    {read : Node → Option α} {p : α → Prop} (h : d.Says entries name default read a)
    (hread : ∀ v a, read v = some a → p a) (hdefault : p default) : p a := by
  cases h with
  | given _ h => exact hread _ _ h
  | left _ => exact hdefault

theorem Says.of_mem {α : Type} {entries : List (String × Node)} {name : String} {v : Node}
    {default a : α} {read : Node → Option α} (h : (name, v) ∈ entries) (hread : read v = some a) :
    d.Says (entries.map fun e => (.plain e.1, e.2)) name default read a :=
  .given (hasEntry_record_iff.2 h) hread

end Yaml.Document

open Yaml (Document Node)

variable {d : Document} {n : Node}

theorem Directories.ofNode?_eq_some_iff {x : Directories} : ofNode? d n = some x ↔
    ∃ entries, d.entries? n = some entries ∧ d.IsRecord ["user", "lb", "cluster", "output"] entries ∧
      d.Says entries "user" ({} : Directories).client d.text? x.client ∧
      d.Says entries "lb" ({} : Directories).balancer d.text? x.balancer ∧
      d.Says entries "cluster" ({} : Directories).cluster d.text? x.cluster ∧
      d.Says entries "output" ({} : Directories).output d.text? x.output := by
  refine Document.fields?_bind_eq_some_iff fun entries fs hlists => ?_
  dsimp only
  simp (disch := decide) only [Option.bind_eq_bind, hlists.givenOr_bind_eq_some_iff,
    Option.pure_def, Option.some.injEq]
  constructor
  · rintro ⟨_, hclient, _, hbalancer, _, hcluster, _, houtput, rfl⟩
    exact ⟨hclient, hbalancer, hcluster, houtput⟩
  · rintro ⟨hclient, hbalancer, hcluster, houtput⟩
    exact ⟨_, hclient, _, hbalancer, _, hcluster, _, houtput, rfl⟩

theorem Design.ofNode?_eq_some_iff {x : Design} : ofNode? d n = some x ↔
    ∃ entries, d.entries? n = some entries ∧ d.IsRecord
      ["algorithms", "latencies_ms", "homogeneity", "file_sizes", "rates", "interval_s"] entries ∧
      d.Says entries "algorithms" ({} : Design).algorithms (d.list? (Algorithm.ofNode? d))
        x.algorithms ∧
      d.Says entries "latencies_ms" ({} : Design).latenciesMs (d.list? d.word?) x.latenciesMs ∧
      d.Says entries "homogeneity" ({} : Design).homogeneity (d.list? d.bool?) x.homogeneity ∧
      d.Says entries "file_sizes" ({} : Design).fileSizes (d.list? (FileSize.ofNode? d)) x.fileSizes ∧
      d.Says entries "rates" ({} : Design).rates (d.list? d.word?) x.rates ∧
      d.Says entries "interval_s" ({} : Design).intervalS d.word? x.intervalS := by
  refine Document.fields?_bind_eq_some_iff fun entries fs hlists => ?_
  dsimp only
  simp (disch := decide) only [Option.bind_eq_bind, hlists.givenOr_bind_eq_some_iff,
    Option.pure_def, Option.some.injEq]
  constructor
  · rintro ⟨_, ha, _, hl, _, hh, _, hf, _, hr, _, hi, rfl⟩
    exact ⟨ha, hl, hh, hf, hr, hi⟩
  · rintro ⟨ha, hl, hh, hf, hr, hi⟩
    exact ⟨_, ha, _, hl, _, hh, _, hf, _, hr, _, hi, rfl⟩

theorem Settings.ofDocument?_eq_some_iff {s : Settings} : ofDocument? d = some s ↔
    ∃ entries, d.entries? (d.root.getD .empty) = some entries ∧ d.IsRecord
      ["log_level", "directories", "design", "cluster_size", "histogram_bins"] entries ∧
      d.Says entries "log_level" ({} : Settings).logLevel d.text? s.logLevel ∧
      d.Says entries "directories" ({} : Settings).directories (Directories.ofNode? d) s.directories ∧
      d.Says entries "design" ({} : Settings).design (Design.ofNode? d) s.design ∧
      d.Says entries "cluster_size" ({} : Settings).clusterSize d.number? s.clusterSize ∧
      d.Says entries "histogram_bins" ({} : Settings).histogramBins d.number? s.histogramBins := by
  refine Document.fields?_bind_eq_some_iff fun entries fs hlists => ?_
  dsimp only
  simp (disch := decide) only [Option.bind_eq_bind, hlists.givenOr_bind_eq_some_iff,
    Option.pure_def, Option.some.injEq]
  constructor
  · rintro ⟨_, hl, _, hd, _, hg, _, hc, _, hb, rfl⟩
    exact ⟨hl, hd, hg, hc, hb⟩
  · rintro ⟨hl, hd, hg, hc, hb⟩
    exact ⟨_, hl, _, hd, _, hg, _, hc, _, hb, rfl⟩

def Directories.toNode (x : Directories) : Node :=
  .record [("user", .plain x.client), ("lb", .plain x.balancer), ("cluster", .plain x.cluster),
    ("output", .plain x.output)]

def Design.toNode (x : Design) : Node :=
  .record [("algorithms", .list (.plain ·.code) x.algorithms),
    ("latencies_ms", .list (.number ·.toNat) x.latenciesMs),
    ("homogeneity", .list (.plain <| toString ·) x.homogeneity),
    ("file_sizes", .list (.plain ·.code) x.fileSizes), ("rates", .list (.number ·.toNat) x.rates),
    ("interval_s", .number x.intervalS.toNat)]

def Settings.toNode (s : Settings) : Node :=
  .record [("log_level", .plain s.logLevel), ("directories", s.directories.toNode),
    ("design", s.design.toNode), ("cluster_size", .number s.clusterSize),
    ("histogram_bins", .number s.histogramBins)]

theorem Directories.ofNode?_toNode (x : Directories) : ofNode? d x.toNode = some x := by
  refine ofNode?_eq_some_iff.2 ⟨_, rfl, Document.isRecord_record (by simp), ?_, ?_, ?_, ?_⟩
  all_goals exact .of_mem (by simp) (Document.text?_plain _)

theorem Algorithm.ofNode?_code (a : Algorithm) : ofNode? d (.plain a.code) = some a := by
  rw [ofNode?, Document.name?_plain, Option.bind_some, ofCode?_code]

theorem FileSize.ofNode?_code (f : FileSize) : ofNode? d (.plain f.code) = some f := by
  rw [ofNode?, Document.name?_plain, Option.bind_some, ofCode?_code]

theorem Design.ofNode?_toNode (x : Design) : ofNode? d x.toNode = some x := by
  refine ofNode?_eq_some_iff.2
    ⟨_, rfl, Document.isRecord_record (by simp), ?_, ?_, ?_, ?_, ?_, ?_⟩
  · exact .of_mem (by simp) (Document.list?_list Algorithm.ofNode?_code _)
  · exact .of_mem (by simp) (Document.list?_list Document.word?_number _)
  · exact .of_mem (by simp) (Document.list?_list Document.bool?_plain _)
  · exact .of_mem (by simp) (Document.list?_list FileSize.ofNode?_code _)
  · exact .of_mem (by simp) (Document.list?_list Document.word?_number _)
  · exact .of_mem (by simp) (Document.word?_number _)

namespace Settings

theorem ofDocument?_toNode {s : Settings} (hsize : s.clusterSize < UInt64.size)
    (hbins : s.histogramBins < UInt64.size) : ofDocument? ⟨some s.toNode⟩ = some s := by
  refine ofDocument?_eq_some_iff.2 ⟨_, rfl, Document.isRecord_record (by simp), ?_, ?_, ?_, ?_, ?_⟩
  · exact .of_mem (by simp) (Document.text?_plain _)
  · exact .of_mem (by simp) s.directories.ofNode?_toNode
  · exact .of_mem (by simp) s.design.ofNode?_toNode
  · exact .of_mem (by simp) (Document.number?_number hsize)
  · exact .of_mem (by simp) (Document.number?_number hbins)

theorem exists_ofDocument?_iff {s : Settings} : (∃ d, ofDocument? d = some s) ↔
    s.clusterSize < UInt64.size ∧ s.histogramBins < UInt64.size := by
  constructor
  · rintro ⟨d, h⟩
    obtain ⟨_, -, -, -, -, -, hsize, hbins⟩ := ofDocument?_eq_some_iff.1 h
    exact ⟨hsize.induct (fun _ _ => Document.lt_of_number?) (by decide),
      hbins.induct (fun _ _ => Document.lt_of_number?) (by decide)⟩
  · rintro ⟨hsize, hbins⟩
    exact ⟨_, ofDocument?_toNode hsize hbins⟩

example : ofText? "" = some {} := by decide +kernel

end Settings

end RateSweep
