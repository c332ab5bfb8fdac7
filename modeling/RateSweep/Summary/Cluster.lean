import RateSweep.Experiment
import RateSweep.Log.Cluster
/-!
What one cluster log shows of each node. A node is active from the first record that names a peer
until the end of its last record that is no lifecycle event; it idles for whatever part of that time
its durations do not cover.
-/

namespace RateSweep

inductive ActivityError where
  | outOfOrder (node : UInt32) (previous timestamp : Nanos)
  | negativeIdleTime (node : UInt32) (idle : Nanos)
  | overflow (node : UInt32)
deriving DecidableEq, Repr

def ActivityError.message : ActivityError → String
  | outOfOrder node previous timestamp =>
    s!"node {node.toNat}: timestamp {timestamp.toInt} precedes previous timestamp {previous.toInt}"
  | negativeIdleTime node idle => s!"node {node.toNat}: negative idle time {idle.toInt}ns"
  | overflow node => s!"node {node.toNat}: durations overflow the nanosecond range"

structure NodeActivity where
  contact : Option (String × Nanos)
  /-- Of the last record that is no lifecycle event. -/
  lastStart : Nanos
  lastDuration : Nanos
  busy : Nanos
  transfers : Nat
  overhead : Option Nanos
  latest : Option Nanos
deriving DecidableEq, Repr

namespace NodeActivity

def blank : NodeActivity := ⟨none, 0, 0, 0, 0, none, none⟩

def precedes (a : NodeActivity) (r : ClusterRecord) : Option Nanos :=
  a.latest.filter (r.timestamp < ·)

def mark (a : NodeActivity) (r : ClusterRecord) : NodeActivity :=
  if r.event.isLifecycle then { a with latest := some r.timestamp }
  else { a with latest := some r.timestamp, lastStart := r.timestamp, lastDuration := r.duration }

def busyAfter? (a : NodeActivity) (r : ClusterRecord) : Option Nanos :=
  if r.event.isLifecycle then some a.busy else a.busy.add? r.duration

def countTransfer (a : NodeActivity) (r : ClusterRecord) : NodeActivity :=
  if r.event = .fileTransfer then
    { a with transfers := a.transfers + 1, overhead := some r.overhead }
  else a

def noteContact (a : NodeActivity) (r : ClusterRecord) : NodeActivity :=
  { a with contact := a.contact <|> r.peer.map fun p => (p, r.timestamp) }

/-- The activity after a record, and what is wrong with the record, if anything. A record out of
order changes nothing; one whose duration overflows moves the markers only. -/
def apply (a : NodeActivity) (r : ClusterRecord) : NodeActivity × Option ActivityError :=
  match a.precedes r with
  | some previous => (a, some (.outOfOrder r.node previous r.timestamp))
  | none =>
    let marked := a.mark r
    match a.busyAfter? r with
    | none => (marked, some (.overflow r.node))
    | some busy => ((({ marked with busy := busy }).countTransfer r).noteContact r, none)

def idleTime? (a : NodeActivity) (node : UInt32) : Except ActivityError (Option Nanos) :=
  match a.contact with
  | none => .ok none
  | some (_, start) =>
    let idle := do
      let finish ← a.lastStart.add? a.lastDuration
      let window ← finish.sub? start
      window.sub? a.busy
    match idle with
    | some t => .ok (some t)
    | none => .error (.overflow node)

end NodeActivity

structure NodeFigures where
  node : UInt32
  idleTime : Option Nanos
  transfers : Nat
  overhead : Option Nanos
deriving DecidableEq, Repr

structure ClusterSummary where
  experiment : Experiment
  nodes : List NodeFigures
deriving DecidableEq, Repr

namespace ClusterSummary

def node? (s : ClusterSummary) (id : UInt32) : Option NodeFigures :=
  s.nodes.find? (·.node == id)

def idleTime? (s : ClusterSummary) (id : UInt32) : Option Nanos :=
  (s.node? id).bind NodeFigures.idleTime

def silentNodes (s : ClusterSummary) : List UInt32 :=
  (s.nodes.filter (·.idleTime.isNone)).map NodeFigures.node

end ClusterSummary

abbrev Activities := List (UInt32 × NodeActivity)

namespace Activities

def ofNode (as : Activities) (node : UInt32) : NodeActivity :=
  ((as.find? (·.1 == node)).map Prod.snd).getD .blank

def put (node : UInt32) (a : NodeActivity) : Activities → Activities
  | [] => [(node, a)]
  | (id, b) :: as =>
    if node < id then (node, a) :: (id, b) :: as
    else if node = id then (node, a) :: as
    else (id, b) :: put node a as

def applyAll (as : Activities) (applied : Nat) :
    List ClusterRecord → Activities × Nat × Option ActivityError
  | [] => (as, applied, none)
  | r :: rs =>
    match (as.ofNode r.node).apply r with
    | (a, none) => applyAll (put r.node a as) (applied + 1) rs
    | (a, some e) => (put r.node a as, applied, some e)

def figures? (node : UInt32) (a : NodeActivity) : Except ActivityError NodeFigures :=
  match a.idleTime? node with
  | .error e => .error e
  | .ok idle =>
    match idle.filter (· < 0) with
    | some t => .error (.negativeIdleTime node t)
    | none => .ok ⟨node, idle, a.transfers, a.overhead⟩

def allFigures? : Activities → Except ActivityError (List NodeFigures)
  | [] => .ok []
  | (node, a) :: as => do
    let f ← figures? node a
    let fs ← allFigures? as
    pure (f :: fs)

end Activities

end RateSweep
