import RateSweep.Log.Body
import RateSweep.Summary.Balancer
import RateSweep.Summary.Client
import RateSweep.Summary.Cluster

namespace RateSweep

inductive Summary where
  | client (s : ClientSummary)
  | balancer (s : BalancerSummary)
  | cluster (s : ClusterSummary)

namespace Summary

def experiment : Summary → Experiment
  | client s => s.experiment
  | balancer s => s.experiment
  | cluster s => s.experiment

def client? : Summary → Option ClientSummary
  | client s => some s
  | _ => none

def balancer? : Summary → Option BalancerSummary
  | balancer s => some s
  | _ => none

def cluster? : Summary → Option ClusterSummary
  | cluster s => some s
  | _ => none

end Summary

inductive Outcome where
  | summary (s : Summary)
  | noValidRecords (v : NoValidRecords)

inductive FoldError where
  | record (e : RecordError)
  | activity (e : ActivityError)
deriving DecidableEq, Repr

def FoldError.message : FoldError → String
  | record e => e.message
  | activity e => e.message

structure FileFold where
  result : Except FoldError Outcome
  applied : Nat
  notes : List String

namespace FileFold

def failed (e : FoldError) (applied : Nat) : FileFold := ⟨.error e, applied, []⟩

def ofClient (e : Experiment) (d : Decoded ClientRecord) : FileFold :=
  match d.failure with
  | some err => failed (.record err) d.rows.length
  | none =>
    match (ClientTally.ofRecords d.records).summary e with
    | .ok s => ⟨.ok (.summary (.client s)), d.rows.length, []⟩
    | .error v => ⟨.ok (.noValidRecords v), d.rows.length, []⟩

def ofBalancer (e : Experiment) (d : Decoded BalancerRecord) : FileFold :=
  match d.failure with
  | some err => failed (.record err) d.rows.length
  | none =>
    let s := (BalancerTally.ofRecords d.records).summary e
    ⟨.ok (.summary (.balancer s)), d.rows.length, (s.condition.map Idleness.message).toList⟩

def silenceNote (node : UInt32) : String :=
  s!"node {node.toNat} never communicated with the load balancer, no idle time"

/-- A record that cannot be applied is reported before a later row that is no record. -/
def ofCluster (e : Experiment) (d : Decoded ClusterRecord) : FileFold :=
  match Activities.applyAll [] 0 d.records with
  | (_, applied, some err) => failed (.activity err) applied
  | (activities, applied, none) =>
    match d.failure with
    | some err => failed (.record err) applied
    | none =>
      match activities.allFigures? with
      | .error err => failed (.activity err) applied
      | .ok nodes =>
        let s : ClusterSummary := ⟨e, nodes⟩
        ⟨.ok (.summary (.cluster s)), applied, s.silentNodes.map silenceNote⟩

def ofBody (clusterSize : Nat) (kind : LogKind) (e : Experiment) (body : List UInt8) : FileFold :=
  match kind with
  | .client => ofClient e (Log.decode ClientRecord.ofRow? body)
  | .balancer => ofBalancer e (Log.decode (BalancerRecord.ofRow? clusterSize) body)
  | .cluster => ofCluster e (Log.decode ClusterRecord.ofRow? body)

end FileFold

end RateSweep
