import RateSweep.Task
/-!
Settings that ask for more than any memory holds. A task breaks off where it would need that much,
and leaves what it wrote before.
-/

namespace RateSweep

def memoryLimit : Nat := 9223372036854775807

def fitsMemory (count bytes : Nat) : Bool := count * bytes ≤ memoryLimit

def Histogram.fits (bins : Nat) : Bool := fitsMemory bins 24

def QueueSnapshot.fits (clusterSize : Nat) : Bool := fitsMemory clusterSize 8

def QueueSeries.fits (clusterSize : Nat) : Bool := fitsMemory (clusterSize + 1) 24

def RecordError.isOfSnapshot : RecordError → Bool
  | malformedQueue .. => true
  | queueLength .. => true
  | _ => false

namespace Task

/-- Whether reading failed at a snapshot. None has more entries than fit, so that with such a
cluster size it fails at the first. -/
def stopsAtSnapshot {α : Type} : Except RecordError α → Bool
  | .ok _ => false
  | .error e => e.isOfSnapshot

def showsSnapshot (clusterSize : Nat) (body : List UInt8) : Bool :=
  stopsAtSnapshot (Log.decode (BalancerRecord.ofRow? clusterSize) body).all?

def canOpen (directory : String) (f : String × Entry) : Bool :=
  (FileTree.pathFault? (Path.join directory f.1)).isNone && f.2 != .locked

def fileShowsSnapshot (clusterSize : Nat) (f : String × Entry) : Bool :=
  match f.2 with
  | .file body => showsSnapshot clusterSize body
  | _ => false

/-- An intake stops at the first log that cannot be opened. -/
def logsShowSnapshot (clusterSize : Nat) (directory : String) (logs : List (String × Entry)) :
    Bool := (logs.takeWhile (canOpen directory)).any (fileShowsSnapshot clusterSize)

def directoryShowsSnapshot (clusterSize : Nat) (t : FileTree) (source : String) : Bool :=
  match t.list source with
  | .error _ => false
  | .ok entries => logsShowSnapshot clusterSize source
    ((Intake.logFiles entries).filter fun f => (Intake.admission .balancer f.1).toOption.isSome)

def hasClients (s : Settings) (t : FileTree) (source : String) : Bool :=
  match intake s t source .client with
  | .ok i => !i.clients.isEmpty
  | .error _ => false

def balancerLog? (t : FileTree) (file : String) : Option (String × List UInt8) :=
  match classify file, openLog t file with
  | .ok (.balancer, name), .ok (.file body) => some (name, body)
  | _, _ => none

def unwrittenSeries (output name : String) : Output :=
  ⟨.table, inspection output, s!"lb-queue-{withoutExtension name}{extension}", ""⟩

def breakdown? (s : Settings) (output : String) (t : FileTree) : Task → Option (List Output)
  | clients source =>
    if Histogram.fits s.histogramBins then none
    else if hasClients s t source then some [] else none
  | balancer source =>
    if QueueSnapshot.fits s.clusterSize then none
    else if directoryShowsSnapshot s.clusterSize t source then some [] else none
  | cluster _ => none
  | queues file =>
    if QueueSeries.fits s.clusterSize then none
    else (balancerLog? t file).bind fun (name, body) =>
      match QueueSeries.ofBody? s.clusterSize body with
      | .ok _ => some [unwrittenSeries output name]
      | .error e => if e.isOfSnapshot && !QueueSnapshot.fits s.clusterSize then some [] else none
  | filter file f =>
    if QueueSnapshot.fits s.clusterSize then none
    else (balancerLog? t file).bind fun (_, body) =>
      if stopsAtSnapshot (FilteredLog.ofBody? s.clusterSize .balancer f body) then some [] else none

end Task

end RateSweep
