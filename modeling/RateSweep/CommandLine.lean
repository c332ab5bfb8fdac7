import RateSweep.Breakdown
import RateSweep.Disk.FileTree
import RateSweep.Number.Integer
import RateSweep.SettingsFile
import RateSweep.Verbosity
/-!
The command line: what its words ask for, and what comes of it. Options stand on the level of the
program or of a command. A value is looked at when the next option or operand of its level is
reached, or at the end of the level.
-/

namespace RateSweep.CommandLine

inductive Halt where
  | misuse
  | help
deriving DecidableEq, Repr

structure Level where
  options : List String
  short : Option String := none
  takesFile : Bool := false
  commands : List String := []

def fileOperand : String := "FILE"

def sharedOptions : List String := ["source", "output"]

def programLevel : Level where
  options := ["config", "log-level"] ++ sharedOptions
  short := some "config"
  commands := ["user", "lb", "cluster", "queue", "filter", "version", "help"]

def commandLevel : String → Level
  | "queue" => { options := sharedOptions, takesFile := true }
  | "filter" => { options := sharedOptions ++ ["node", "since"], takesFile := true }
  | _ => { options := sharedOptions }

structure Given where
  values : List (String × String) := []
  pending : Option (String × Option String) := none

def readNode (s : String) : Option UInt32 :=
  (Number.readI64 s).bind fun n =>
    if 0 ≤ n.toInt && n.toInt.toNat < UInt32.size then some (UInt32.ofNat n.toInt.toNat) else none

def isValue (option value : String) : Bool :=
  match option with
  | "log-level" => true
  | "node" => (readNode value).isSome
  | "since" => (Number.readI64 value).isSome
  | _ => value != ""

namespace Given

def value? (g : Given) (option : String) : Option String := g.values.lookup option

def add (g : Given) (option value : String) : Except Halt Given :=
  if (g.value? option).isSome || !isValue option value then .error .misuse
  else .ok { g with values := (option, value) :: g.values }

def settle (g : Given) : Except Halt Given :=
  match g.pending with
  | none => .ok g
  | some (option, some value) => ({ g with pending := none } : Given).add option value
  | some (_, none) => .error .misuse

def waiting? (g : Given) : Option String :=
  match g.pending with
  | some (option, none) => some option
  | _ => none

def await (g : Given) (option : String) (value : Option String) : Except Halt Given := do
  pure { (← g.settle) with pending := some (option, value) }

def hasFile (g : Given) : Bool :=
  (g.value? fileOperand).isSome || g.pending.any (·.1 = fileOperand)

def addFile (l : Level) (g : Given) (file : String) : Except Halt Given :=
  if l.takesFile && !g.hasFile then g.await fileOperand (some file) else .error .misuse

def addOption (g : Given) (option : String) : Option String → Except Halt Given
  | some value => do (← g.settle).add option value
  | none => g.await option none

end Given

def splitLong (cs : List Char) : String × Option String :=
  let name := cs.takeWhile (· != '=')
  (String.ofList name, ((cs.drop name.length).head?).map fun _ =>
    String.ofList (cs.drop (name.length + 1)))

def readLong (l : Level) (g : Given) (cs : List Char) : Except Halt Given :=
  let (name, value) := splitLong cs
  if l.options.contains name then g.addOption name value
  else if name = "help" && value.isNone then do
    let _ ← g.settle
    throw .help
  else .error .misuse

def readShort (l : Level) (g : Given) : List Char → Except Halt Given
  | 'h' :: _ => do
    let _ ← g.settle
    throw .help
  | 'c' :: cs =>
    match l.short with
    | some option =>
      g.addOption option (match cs with
        | [] => none
        | '=' :: value => some (String.ofList value)
        | value => some (String.ofList value))
    | none => .error .misuse
  | _ => .error .misuse

def readLevel (l : Level) (g : Given) (operandsOnly : Bool) :
    List String → Except Halt (Given × List String)
  | [] => .ok (g, [])
  | word :: words =>
    if operandsOnly then do readLevel l (← g.addFile l word) true words
    else if g.waiting?.isNone && l.commands.contains word then .ok (g, word :: words)
    else match word.toList, g.waiting? with
      | ['-', '-'], _ => readLevel l g true words
      | '-' :: '-' :: cs, _ => do readLevel l (← readLong l g cs) false words
      | '-' :: c :: cs, _ => do readLevel l (← readShort l g (c :: cs)) false words
      | _, some option => readLevel l { g with pending := some (option, some word) } false words
      | _, none => do readLevel l (← g.addFile l word) false words

inductive Command where
  | version
  | report (kind : LogKind)
  | queues (file : String)
  | filter (file : String) (f : LogFilter)
deriving DecidableEq, Repr

structure Request where
  command : Command
  settingsFile : Option String := none
  verbosity : Option String := none
  source : Option String := none
  output : Option String := none
deriving DecidableEq, Repr

def readCommand (name : String) (g : Given) : Except Halt Command := do
  let file := match g.value? fileOperand with
    | some file => Except.ok file
    | none => Except.error Halt.misuse
  match name with
  | "version" => pure .version
  | "user" => pure (.report .client)
  | "lb" => pure (.report .balancer)
  | "cluster" => pure (.report .cluster)
  | "queue" => pure (.queues (← file))
  | "filter" =>
    pure (.filter (← file)
      ⟨(g.value? "node").bind readNode, (g.value? "since").bind Number.readI64⟩)
  | _ => throw .misuse

def helpOn : List String → Halt
  | [] => .help
  | [name] => if programLevel.commands.contains name then .help else .misuse
  | _ => .misuse

def parse (words : List String) : Except Halt Request := do
  let (outer, rest) ← readLevel programLevel {} false words
  match rest with
  | [] => throw .misuse
  | "help" :: names => throw (helpOn names)
  | name :: rest =>
    let (inner, _) ← readLevel (commandLevel name) {} false rest
    let inner ← inner.settle
    let command ← readCommand name inner
    let outer ← outer.settle
    pure {
      command
      settingsFile := outer.value? "config"
      verbosity := outer.value? "log-level"
      source := inner.value? "source" <|> outer.value? "source"
      output := inner.value? "output" <|> outer.value? "output" }

inductive Failure where
  | settings (path : String) (cause : Settings.FileError)
  | verbosity (text : String)
  | tornVerbosity (text : String)
  | outOfMemory
  | task (e : TaskError)
deriving DecidableEq, Repr

def Failure.message : Failure → String
  | settings path _ => s!"loading config from {path}"
  | verbosity text => s!"invalid log level: {text}"
  | tornVerbosity text => s!"log level cut inside a character: {text}"
  | outOfMemory => "settings ask for more than memory holds"
  | task e => e.message

def Failure.code : Failure → Nat
  | tornVerbosity _ => 101
  | outOfMemory => 101
  | _ => 1

def Failure.cause : Failure → Option String
  | settings _ cause => some cause.message
  | verbosity _ => none
  | tornVerbosity _ => none
  | outOfMemory => none
  | task e => e.cause

namespace Request

def settings (r : Request) (t : FileTree) : Except Failure Settings :=
  match r.settingsFile with
  | some path => (Settings.load t path).mapError (.settings path)
  | none => pure {}

def checkVerbosity (r : Request) (s : Settings) : Except Failure Unit :=
  let text := r.verbosity.getD s.logLevel
  (Verbosity.check text).mapError fun
    | .malformed => .verbosity text
    | .torn => .tornVerbosity text

def task? (r : Request) (s : Settings) : Option Task :=
  let source (kind : LogKind) := r.source.getD (s.directories.ofKind kind)
  match r.command with
  | .version => none
  | .report .client => some (.clients (source .client))
  | .report .balancer => some (.balancer (source .balancer))
  | .report .cluster => some (.cluster (source .cluster))
  | .queues file => some (.queues file)
  | .filter file f => some (.filter file f)

def carryOut (s : Settings) (output : String) (t : FileTree) (task : Task) :
    Except Failure Unit × FileTree :=
  match task.breakdown? s output t with
  | none =>
    let (result, t) := task.run s output t
    ((result.map fun _ => ()).mapError .task, t)
  | some outputs =>
    match Output.writeAll t outputs with
    | (t, none) => (.error .outOfMemory, t)
    | (t, some e) => (.error (.task e), t)

def perform (r : Request) (s : Settings) (t : FileTree) : Except Failure Unit × FileTree :=
  match r.checkVerbosity s, r.task? s with
  | .error e, _ => (.error e, t)
  | .ok _, none => (.ok (), t)
  | .ok _, some task => carryOut s (r.output.getD s.directories.output) t task

def run (r : Request) (t : FileTree) : Except Failure Unit × FileTree :=
  if r.command = .version then (.ok (), t)
  else match r.settings t with
    | .error e => (.error e, t)
    | .ok s => r.perform s t

end Request

inductive Exit where
  | done
  | helped
  | misused
  | failed (e : Failure)
deriving DecidableEq, Repr

def Exit.code : Exit → Nat
  | done => 0
  | helped => 0
  | misused => 2
  | failed e => e.code

def execute (words : List String) (t : FileTree) : Exit × FileTree :=
  match parse words with
  | .error .help => (.helped, t)
  | .error .misuse => (.misused, t)
  | .ok r =>
    match r.run t with
    | (.ok _, t) => (.done, t)
    | (.error e, t) => (.failed e, t)

end RateSweep.CommandLine
