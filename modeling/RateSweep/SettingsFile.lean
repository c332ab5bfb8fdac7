import RateSweep.Design
import RateSweep.Disk.FileTree
import RateSweep.Yaml.Value
/-!
Settings as a YAML file holds them. A field that the file does not give keeps its default, and a
field that the settings do not have is passed over.
-/

namespace RateSweep

open Yaml (Document Node)

def givenOr {α : Type} (fields : List (String × Node)) (name : String) (default : α)
    (read : Node → Option α) : Option α :=
  match fields.lookup name with
  | some node => read node
  | none => some default

def Directories.ofNode? (d : Document) (n : Node) : Option Directories := do
  let fs ← d.fields? ["user", "lb", "cluster", "output"] n
  let usual : Directories := {}
  pure {
    client := ← givenOr fs "user" usual.client d.text?
    balancer := ← givenOr fs "lb" usual.balancer d.text?
    cluster := ← givenOr fs "cluster" usual.cluster d.text?
    output := ← givenOr fs "output" usual.output d.text? }

def Algorithm.ofNode? (d : Document) (n : Node) : Option Algorithm :=
  (d.name? n).bind Algorithm.ofCode?

def FileSize.ofNode? (d : Document) (n : Node) : Option FileSize :=
  (d.name? n).bind FileSize.ofCode?

def Design.ofNode? (d : Document) (n : Node) : Option Design := do
  let fs ← d.fields?
    ["algorithms", "latencies_ms", "homogeneity", "file_sizes", "rates", "interval_s"] n
  let usual : Design := {}
  pure {
    algorithms := ← givenOr fs "algorithms" usual.algorithms (d.list? (Algorithm.ofNode? d))
    latenciesMs := ← givenOr fs "latencies_ms" usual.latenciesMs (d.list? d.word?)
    homogeneity := ← givenOr fs "homogeneity" usual.homogeneity (d.list? d.bool?)
    fileSizes := ← givenOr fs "file_sizes" usual.fileSizes (d.list? (FileSize.ofNode? d))
    rates := ← givenOr fs "rates" usual.rates (d.list? d.word?)
    intervalS := ← givenOr fs "interval_s" usual.intervalS d.word? }

namespace Settings

def ofDocument? (d : Document) : Option Settings := do
  let fs ← d.fields? ["log_level", "directories", "design", "cluster_size", "histogram_bins"]
    (d.root.getD .empty)
  let usual : Settings := {}
  pure {
    logLevel := ← givenOr fs "log_level" usual.logLevel d.text?
    directories := ← givenOr fs "directories" usual.directories (Directories.ofNode? d)
    design := ← givenOr fs "design" usual.design (Design.ofNode? d)
    clusterSize := ← givenOr fs "cluster_size" usual.clusterSize d.number?
    histogramBins := ← givenOr fs "histogram_bins" usual.histogramBins d.number? }

def ofText? (text : String) : Option Settings := (Document.ofText? text).bind ofDocument?

inductive FileError where
  | unreadable (path : String)
  | malformed (path : String)
  | violated (v : Violation)
deriving DecidableEq, Repr

def FileError.message : FileError → String
  | unreadable path => s!"reading config file {path}"
  | malformed path => s!"parsing config file {path}"
  | violated v => v.message

def load (t : FileTree) (path : String) : Except FileError Settings := do
  let entry ← (t.openAt path).mapError fun _ => .unreadable path
  let bytes ← (FileTree.contents entry).mapError fun _ => .unreadable path
  let text ← (Text.decode bytes).mapError fun _ => .unreadable path
  let settings ← match ofText? text with
    | some settings => pure settings
    | none => throw (.malformed path)
  settings.validate.mapError .violated
  pure settings

end Settings

end RateSweep
