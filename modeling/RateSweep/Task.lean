import RateSweep.Comparison.IdleTime
import RateSweep.Histogram
import RateSweep.Inspection.Connections
import RateSweep.Inspection.Focus
import RateSweep.Inspection.QueueSeries
import RateSweep.Intake
import RateSweep.Steps
import RateSweep.Table.RequestCounts

namespace RateSweep

inductive TaskError where
  | intake (e : IntakeError)
  | noFileName (path : String)
  | unknownKind (name : String)
  | unopenable (path : String) (cause : DiskError)
  | noQueues (path : String)
  | undecodable (path : String) (cause : RecordError)
  | unfilterable (path : String) (cause : RecordError)
  | directory (path : String) (cause : DiskError)
  | table (path : String) (cause : DiskError)
  | copy (path : String) (cause : DiskError)
deriving DecidableEq, Repr

namespace TaskError

def message : TaskError → String
  | intake e => e.message
  | noFileName path => s!"{path} has no file name"
  | unknownKind name =>
    s!"cannot tell the log kind of {name}: expected a client-, lb- or cluster- prefix"
  | unopenable path _ => s!"unable to open file {path}"
  | noQueues path => s!"{path} is a client log and has no queue data"
  | undecodable path _ => s!"decoding {path}"
  | unfilterable path _ => s!"filtering {path}"
  | directory path _ => s!"creating directory {path}"
  | table path _ => s!"creating {path}"
  | copy path _ => s!"writing {path}"

def cause : TaskError → Option String
  | intake e => some e.cause.message
  | unopenable _ cause => some cause.message
  | undecodable _ cause => some cause.message
  | unfilterable _ cause => some cause.message
  | directory _ cause => some cause.message
  | table _ cause => some cause.message
  | copy _ cause => some cause.message
  | _ => none

end TaskError

inductive OutputKind where
  | table
  | copy
deriving DecidableEq, Repr

structure Output where
  kind : OutputKind
  directory : String
  name : String
  text : String
deriving DecidableEq, Repr

namespace Output

def path (o : Output) : String := Path.join o.directory o.name

def fault (o : Output) (cause : DiskError) : TaskError :=
  match o.kind with
  | .table => .table o.path cause
  | .copy => .copy o.path cause

def write (o : Output) (t : FileTree) : FileTree × Option TaskError :=
  match t.createDirectories o.directory with
  | (t, some cause) => (t, some (.directory o.directory cause))
  | (t, none) =>
    match t.write o.path (Text.encode o.text) with
    | .error cause => (t, some (o.fault cause))
    | .ok t => (t, none)

def writeAll (t : FileTree) : List Output → FileTree × Option TaskError
  | [] => (t, none)
  | o :: os =>
    match o.write t with
    | (t, none) => writeAll t os
    | (t, some e) => (t, some e)

end Output

structure Plan where
  outputs : List Output
  dropped : Nat
  diagnostics : Nat
deriving DecidableEq, Repr

namespace Plan

def start (diagnostics : Nat) : Plan := ⟨[], 0, diagnostics⟩

def add (p : Plan) (o : Output) : Plan := { p with outputs := p.outputs ++ [o] }

def drop (p : Plan) (n : Nat) : Plan := { p with dropped := p.dropped + n }

def written (p : Plan) : List String := p.outputs.map Output.path

end Plan

namespace Histogram

def rowText (b : Bucket) : List String :=
  [Number.writeFloat b.start, Number.writeFloat b.finish, toString b.count]

def csv (h : Histogram) : String :=
  Csv.write (["bucket_start_s", "bucket_end_s", "count"] :: h.buckets.map rowText)

end Histogram

inductive Task where
  | clients (source : String)
  | balancer (source : String)
  | cluster (source : String)
  | queues (file : String)
  | filter (file : String) (f : LogFilter)
deriving DecidableEq, Repr

namespace Task

def tableOutput (directory : String) (t : RateTable) : Output :=
  ⟨.table, directory, t.fileName, t.csv⟩

def distribution? (bins : Nat) (directory : String) (s : ClientSummary) : Option Output :=
  (Histogram.ofValues? s.serviceTimes bins).map fun h =>
    ⟨.table, directory, s!"hist-{s.experiment.logStem .client}{extension}", h.csv⟩

def clientTables (d : Design) (output : String) (clients : List ClientSummary) (g : Grouping) :
    List Output × Nat :=
  let times := compare g d .meanServiceTime clients
  let errors := compare g d .errorFraction clients
  (times.tables.map (tableOutput (Path.join output "client-service-times")) ++
      errors.tables.map (tableOutput (Path.join output "client-errors")),
    times.dropped)

def planClients (s : Settings) (output : String) (i : Intake) : Plan :=
  let distributions := i.clients.filterMap
    (distribution? s.histogramBins (Path.join output "client-distributions"))
  let tables := Grouping.all.map (clientTables s.design output i.clients)
  ⟨distributions ++ tables.flatMap Prod.fst, (tables.map Prod.snd).foldr (· + ·) 0,
    i.diagnostics.length⟩

def planBalancer (s : Settings) (output : String) (i : Intake) : Plan :=
  let reports := Grouping.all.map fun g =>
    compare g s.design .requestsPerSecond i.balancers
  ⟨reports.flatMap fun r => r.tables.map (tableOutput (Path.join output "lb-tables")),
    (reports.map Report.dropped).foldr (· + ·) 0, i.diagnostics.length⟩

def countsOutput (directory : String) (s : ClusterSummary) : Output :=
  let counts := RequestCounts.ofSummary s
  ⟨.table, directory, counts.fileName, counts.csv⟩

def planCluster (s : Settings) (output : String) (i : Intake) : Plan :=
  let idle := idleTables s.design i.clusters
  ⟨i.clusters.map (countsOutput (Path.join output "node-request-counts")) ++
      idle.tables.map (tableOutput (Path.join output "idle-times")),
    idle.dropped, i.diagnostics.length⟩

def intake (s : Settings) (t : FileTree) (source : String) (kind : LogKind) :
    Except TaskError Intake :=
  match Intake.ofDirectory? t source kind (Session.start s.clusterSize s.histogramBins) with
  | .ok (i, _) => .ok i
  | .error e => .error (.intake e)

def classify (file : String) : Except TaskError (LogKind × String) :=
  match Path.fileName? file with
  | none => .error (.noFileName file)
  | some name =>
    match LogKind.ofFileName? name with
    | none => .error (.unknownKind name)
    | some kind => .ok (kind, name)

def openLog (t : FileTree) (file : String) : Except TaskError Entry :=
  (t.openAt file).mapError (.unopenable file)

def digest {α : Type} (entry : Entry) (compute : List UInt8 → Except RecordError α) :
    Except RecordError α :=
  match FileTree.contents entry with
  | .ok body => compute body
  | .error cause => .error (.unreadable cause)

def inspection (output : String) : String := Path.join output "investigation"

def single (kind : OutputKind) (output name text : String) : Plan :=
  ⟨[⟨kind, inspection output, name, text⟩], 0, 0⟩

def planQueues (s : Settings) (output : String) (t : FileTree) (file : String) :
    Except TaskError Plan := do
  let (kind, name) ← classify file
  let entry ← openLog t file
  let stem := withoutExtension name
  match kind with
  | .balancer =>
    let series ← (digest entry (QueueSeries.ofBody? s.clusterSize)).mapError (.undecodable file)
    pure (single .table output s!"lb-queue-{stem}{extension}" series.csv)
  | .cluster =>
    let connections ← (digest entry Connections.ofBody?).mapError (.undecodable file)
    pure (single .table output s!"cl-queue-{stem}{extension}" connections.csv)
  | .client => throw (.noQueues file)

def planFilter (s : Settings) (output : String) (t : FileTree) (file : String) (f : LogFilter) :
    Except TaskError Plan := do
  let (kind, name) ← classify file
  let entry ← openLog t file
  let filtered ←
    (digest entry (FilteredLog.ofBody? s.clusterSize kind f)).mapError (.unfilterable file)
  pure (single .copy output s!"filtered-{name}" filtered.text)

def plan (s : Settings) (output : String) (t : FileTree) : Task → Except TaskError Plan
  | clients source => (intake s t source .client).map (planClients s output)
  | balancer source => (intake s t source .balancer).map (planBalancer s output)
  | cluster source => (intake s t source .cluster).map (planCluster s output)
  | queues file => planQueues s output t file
  | filter file f => planFilter s output t file f

abbrev Action := Steps FileTree TaskError

def emit (p : Plan) (o : Output) : Action Plan := do
  let (t, fault) := o.write (← get)
  set t
  match fault with
  | none => pure (p.add o)
  | some e => throw e

def emitTables (directory : String) (ts : List RateTable) (p : Plan) : Action Plan :=
  ts.foldlM (fun p t => emit p (tableOutput directory t)) p

def emitDistribution (bins : Nat) (directory : String) (p : Plan) (c : ClientSummary) :
    Action Plan :=
  match distribution? bins directory c with
  | some o => emit p o
  | none => pure p

def clientMetrics : List (Metric × String) :=
  [(.meanServiceTime, "client-service-times"), (.errorFraction, "client-errors")]

def emitComparison (d : Design) (output : String) (clients : List ClientSummary) (g : Grouping)
    (p : Plan) (metric : Metric × String) : Action Plan :=
  let report := compare g d metric.1 clients
  emitTables (Path.join output metric.2) report.tables
    (if metric.1 = .meanServiceTime then p.drop report.dropped else p)

def emitClients (s : Settings) (output : String) (i : Intake) (p : Plan) : Action Plan := do
  let p ← i.clients.foldlM
    (emitDistribution s.histogramBins (Path.join output "client-distributions")) p
  Grouping.all.foldlM
    (fun p g => clientMetrics.foldlM (emitComparison s.design output i.clients g) p) p

def emitBalancer (s : Settings) (output : String) (i : Intake) (p : Plan) : Action Plan :=
  Grouping.all.foldlM
    (fun p g =>
      let report := compare g s.design .requestsPerSecond i.balancers
      emitTables (Path.join output "lb-tables") report.tables (p.drop report.dropped)) p

def emitCluster (s : Settings) (output : String) (i : Intake) (p : Plan) : Action Plan := do
  let p ← i.clusters.foldlM
    (fun p c => emit p (countsOutput (Path.join output "node-request-counts") c)) p
  let idle := idleTables s.design i.clusters
  emitTables (Path.join output "idle-times") idle.tables (p.drop idle.dropped)

def sourceSteps (s : Settings) (source : String) (kind : LogKind)
    (emitAll : Intake → Plan → Action Plan) : Action Plan := do
  let i ← intake s (← get) source kind
  emitAll i (.start i.diagnostics.length)

def queueSteps (s : Settings) (output file : String) : Action Plan := do
  let (kind, name) ← classify file
  let entry ← openLog (← get) file
  let stem := withoutExtension name
  match kind with
  | .balancer =>
    let series ← (digest entry (QueueSeries.ofBody? s.clusterSize)).mapError
      (TaskError.undecodable file)
    emit (.start 0) ⟨.table, inspection output, s!"lb-queue-{stem}{extension}", series.csv⟩
  | .cluster =>
    let connections ← (digest entry Connections.ofBody?).mapError (TaskError.undecodable file)
    emit (.start 0) ⟨.table, inspection output, s!"cl-queue-{stem}{extension}", connections.csv⟩
  | .client => throw (.noQueues file)

def filterSteps (s : Settings) (output file : String) (f : LogFilter) : Action Plan := do
  let (kind, name) ← classify file
  let entry ← openLog (← get) file
  let filtered ← (digest entry (FilteredLog.ofBody? s.clusterSize kind f)).mapError
    (TaskError.unfilterable file)
  emit (.start 0) ⟨.copy, inspection output, s!"filtered-{name}", filtered.text⟩

def steps (s : Settings) (output : String) : Task → Action Plan
  | clients source => sourceSteps s source .client (emitClients s output)
  | balancer source => sourceSteps s source .balancer (emitBalancer s output)
  | cluster source => sourceSteps s source .cluster (emitCluster s output)
  | queues file => queueSteps s output file
  | filter file f => filterSteps s output file f

def run (s : Settings) (output : String) (t : FileTree) (task : Task) :
    Except TaskError Plan × FileTree := (task.steps s output).runOn t

end Task

end RateSweep
