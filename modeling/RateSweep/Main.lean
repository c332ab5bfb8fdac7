import RateSweep.CommandLine

namespace RateSweep

namespace Shell

def usage : String :=
  "Derives comparison tables from load-balancer experiment logs.\n\n" ++
  "Usage: lbsweep [OPTIONS] <COMMAND>\n\n" ++
  "Commands:\n" ++
  "  user            Client service time, error and distribution tables\n" ++
  "  lb              Load-balancer requests per second tables\n" ++
  "  cluster         Per-node request counts and idle times\n" ++
  "  queue <FILE>    Connection queue depth over time for one log file\n" ++
  "  filter <FILE>   Copy the focus-event records of one log file\n" ++
  "  version         Print version information and exit\n" ++
  "  help            Print this message\n\n" ++
  "Options:\n" ++
  "  -c, --config <CONFIG>        Path to the YAML configuration file\n" ++
  "      --log-level <LOG_LEVEL>  Logging verbosity level\n" ++
  "      --source <SOURCE>        Log directory to read\n" ++
  "      --output <OUTPUT>        Root directory for generated tables\n" ++
  "  -h, --help                   Print help\n\n" ++
  "Options of filter:\n" ++
  "      --node <NODE>            Keep only records of this node\n" ++
  "      --since <SINCE>          Keep only records at or after this timestamp (ns)"

def absolute (l : Location) : String := "/" ++ "/".intercalate l

def entryAt (l : Location) : IO (Option Entry) := do
  let place := (← IO.currentDir) / absolute l
  if ← place.isDir then return some .directory
  if !(← place.pathExists) then return none
  try return some (.file (← IO.FS.readBinFile place).toList)
  catch _ => return some .locked

def look (t : FileTree) (l : Location) : IO FileTree := do
  match ← entryAt l with
  | some e => return t.put l e
  | none => return t

def follow (t : FileTree) (path : String) : IO FileTree := do
  let mut t := t
  let mut l := t.origin path
  for name in FileTree.segments path do
    match t.step l name with
    | .error _ => return t
    | .ok next =>
      t ← look t next
      l := next
  if t.at? l = some .directory then
    for child in ← ((← IO.currentDir) / absolute l).readDir do
      t ← look t (l ++ [child.fileName])
  return t

def here : IO FileTree := do
  let cwd := FileTree.segments (← IO.currentDir).toString |>.filter (· ≠ "")
  let above := (List.range (cwd.length + 1)).map fun n => (cwd.take n, Entry.directory)
  return ⟨cwd, above⟩

def store (before after : FileTree) : IO Unit := do
  for (l, e) in after.entries do
    if before.at? l != some e then
      match e with
      | .directory => IO.FS.createDirAll (absolute l)
      | .file contents => IO.FS.writeBinFile (absolute l) ⟨contents.toArray⟩
      | .locked => pure ()

def inputs : Task → List String
  | .clients source => [source]
  | .balancer source => [source]
  | .cluster source => [source]
  | .queues file => [file]
  | .filter file _ => [file]

def report (e : CommandLine.Failure) : IO UInt32 := do
  IO.eprintln s!"Error: {e.message}"
  if let some cause := e.cause then IO.eprintln s!"\nCaused by:\n    {cause}"
  return e.code.toUInt32

def deliver (t : FileTree) (outputs : List Output) : IO (Option TaskError) := do
  let before ← (outputs.map Output.path).foldlM follow t
  let (after, fault) := Output.writeAll before outputs
  store before after
  return fault

def perform (s : Settings) (output : String) (task : Task) : IO UInt32 := do
  let t ← (inputs task).foldlM follow (← here)
  if let some outputs := task.breakdown? s output t then
    if let some e ← deliver t outputs then return ← report (.task e)
    return ← report .outOfMemory
  match task.plan s output t with
  | .error e => report (.task e)
  | .ok plan =>
    if let some e ← deliver t plan.outputs then return ← report (.task e)
    return 0

def carryOut (r : CommandLine.Request) : IO UInt32 := do
  let t ← r.settingsFile.toList.foldlM follow (← here)
  match r.settings t with
  | .error e => report e
  | .ok s =>
    match r.checkVerbosity s, r.task? s with
    | .error e, _ => report e
    | .ok _, none => return 0
    | .ok _, some task => perform s (r.output.getD s.directories.output) task

end Shell

end RateSweep

open RateSweep in
def main (words : List String) : IO UInt32 := do
  match CommandLine.parse words with
  | .error .help =>
    IO.println Shell.usage
    return 0
  | .error .misuse =>
    IO.eprintln Shell.usage
    return 2
  | .ok r =>
    if r.command = .version then
      IO.println "lbsweep 0.1.0"
      return 0
    Shell.carryOut r
