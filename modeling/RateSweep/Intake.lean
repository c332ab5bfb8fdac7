import RateSweep.Disk.FileTree
import RateSweep.Disk.Path
import RateSweep.Experiment.Name
import RateSweep.Session
/-!
The logs of one kind in a directory. Every file is summarised, found without figures, skipped for
its name or given up for its contents, each on its own; what is wrong with one is noted and keeps no
other from being read.
-/

namespace RateSweep

inductive IntakeError where
  | missingDirectory (path : String) (cause : DiskError)
  | unopenable (path : String) (cause : DiskError)
deriving DecidableEq, Repr

namespace IntakeError

def message : IntakeError → String
  | missingDirectory path _ => s!"log directory {path} not found"
  | unopenable path _ => s!"unable to open log file {path}"

def cause : IntakeError → DiskError
  | missingDirectory _ cause => cause
  | unopenable _ cause => cause

end IntakeError

structure BareFile where
  path : String
  experiment : Experiment
  verdict : NoValidRecords
deriving DecidableEq, Repr

structure Intake where
  kind : LogKind
  summaries : List Summary
  bareFiles : List BareFile
  diagnostics : List Diagnostic
  skipped : Nat
  failed : Nat

namespace Intake

def empty (kind : LogKind) : Intake := ⟨kind, [], [], [], 0, 0⟩

def clients (i : Intake) : List ClientSummary := i.summaries.filterMap Summary.client?

def balancers (i : Intake) : List BalancerSummary := i.summaries.filterMap Summary.balancer?

def clusters (i : Intake) : List ClusterSummary := i.summaries.filterMap Summary.cluster?

def admission (kind : LogKind) (name : String) : Except String Experiment :=
  match readLogName name with
  | .ok (found, e) =>
    if found = kind then .ok e
    else .error s!"skipping {found.label} log, expected {kind.label} logs"
  | .error e => .error s!"unable to match file name: {e.message}"

def addFile (path name : String) (entry : Entry) (state : Intake × Session) :
    Except IntakeError (Intake × Session) :=
  let (i, session) := state
  match admission i.kind name with
  | .error note => .ok ({ i with skipped := i.skipped + 1 }, session.note path note)
  | .ok e =>
    match FileTree.pathFault? path, entry with
    | some cause, _ => .error (.unopenable path cause)
    | none, .file body =>
      match session.fold path i.kind e body with
      | (.ok (.summary s), session) => .ok ({ i with summaries := i.summaries ++ [s] }, session)
      | (.ok (.noValidRecords v), session) =>
        .ok ({ i with bareFiles := i.bareFiles ++ [⟨path, e, v⟩] },
          session.note path s!"{v.message}, summary reported as ERROR")
      | (.error err, session) =>
        .ok ({ i with failed := i.failed + 1 },
          session.note path s!"discarding file: {err.message}")
    | none, .directory => .ok (i, session)
    | none, .locked => .error (.unopenable path .permissionDenied)

def logFiles (entries : List (String × Entry)) : List (String × Entry) :=
  (entries.filter fun e => e.2.isFile).mergeSort fun a b => decide (a.1 ≤ b.1)

def addFiles (directory : String) (state : Intake × Session) :
    List (String × Entry) → Except IntakeError (Intake × Session)
  | [] => .ok state
  | (name, entry) :: files => do
    addFiles directory (← addFile (Path.join directory name) name entry state) files

def ofDirectory? (t : FileTree) (directory : String) (kind : LogKind) (session : Session) :
    Except IntakeError (Intake × Session) :=
  match t.list directory with
  | .error cause => .error (.missingDirectory directory cause)
  | .ok entries => do
    let (i, session) ← addFiles directory (empty kind, session) (logFiles entries)
    let (diagnostics, session) := session.takeDiagnostics
    pure ({ i with diagnostics := diagnostics }, session)

end Intake

end RateSweep
