import RateSweep.Proofs.FileFate
import RateSweep.Proofs.FoldedRows
import RateSweep.Proofs.ReaderAgreement

namespace RateSweep

def SilentNode (node : UInt32) (rs : List ClusterRecord) : Prop :=
  node ∈ rs.map ClusterRecord.node ∧ ∀ r ∈ recordsOf node rs, r.peer = none

namespace NodeActivity

theorem idleTime_eq_none_iff {a : NodeActivity} {node : UInt32} {idle : Option Nanos}
    (h : a.idleTime? node = .ok idle) : idle = none ↔ a.contact = none := by
  unfold idleTime? at h
  split at h
  · next hc => simp_all
  · next hc =>
    dsimp only at h
    split at h
    · simp_all
      rintro rfl
      simp_all
    · cases h

end NodeActivity

theorem silentNodes_of_showsNodes {e : Experiment} {nodes : List NodeFigures}
    {rs : List ClusterRecord} (h : ShowsNodes rs nodes) :
    (ClusterSummary.mk e nodes).silentNodes.Pairwise (· < ·) ∧
      ∀ node, node ∈ (ClusterSummary.mk e nodes).silentNodes ↔ SilentNode node rs := by
  obtain ⟨hascending, hids, hfigures⟩ := h
  have hsilent : ∀ f ∈ nodes, f.idleTime = none ↔ ∀ r ∈ recordsOf f.node rs, r.peer = none := by
    intro f hf
    obtain ⟨a, hrun, hidle, -, -⟩ := hfigures f hf
    rw [NodeActivity.idleTime_eq_none_iff hidle, NodeActivity.contact_of_run? hrun]
    simp [NodeActivity.blank, firstContact]
  constructor
  · exact List.pairwise_map.2 (hascending.filter _)
  · intro node
    rw [SilentNode, ← hids]
    simp only [ClusterSummary.silentNodes, List.mem_map, List.mem_filter, Option.isNone_iff_eq_none]
    constructor
    · rintro ⟨f, ⟨hf, hnone⟩, rfl⟩
      exact ⟨⟨f, hf, rfl⟩, (hsilent f hf).1 hnone⟩
    · rintro ⟨⟨f, hf, rfl⟩, hnone⟩
      exact ⟨f, ⟨hf, (hsilent f hf).2 hnone⟩, rfl⟩

theorem showsNodes_of_ofCluster (e : Experiment) {d : Decoded ClusterRecord} {o : Outcome}
    (h : (FileFold.ofCluster e d).result = .ok o) :
    ∃ nodes, o = .summary (.cluster ⟨e, nodes⟩) ∧ ShowsNodes d.records nodes := by
  obtain ⟨rows, failure⟩ := d
  obtain rfl : failure = none := FileFold.failure_of_ofCluster e h
  rcases result_ofCluster_cases e rows with ⟨nodes, hr, hshows, -⟩ | ⟨err, hr, -⟩
  · rw [hr] at h
    exact ⟨nodes, (Except.ok.inj h).symm, hshows⟩
  · rw [hr] at h
    cases h

inductive LogKind.Says (body : List UInt8) :
    LogKind → Except FoldError Outcome → List String → Prop
  | failed (kind : LogKind) (e : FoldError) : Says body kind (.error e) []
  | bare (v : NoValidRecords) : Says body .client (.ok (.noValidRecords v)) []
  | client (s : ClientSummary) : Says body .client (.ok (.summary (.client s))) []
  | balancer (s : BalancerSummary) :
    Says body .balancer (.ok (.summary (.balancer s))) (s.condition.map Idleness.message).toList
  | cluster (s : ClusterSummary) (hascending : s.silentNodes.Pairwise (· < ·))
    (hsilent : ∀ node, node ∈ s.silentNodes ↔
      SilentNode node (Log.decode ClusterRecord.ofRow? body).records) :
    Says body .cluster (.ok (.summary (.cluster s))) (s.silentNodes.map FileFold.silenceNote)

theorem says_ofBody (clusterSize : Nat) (kind : LogKind) (e : Experiment) (body : List UInt8) :
    kind.Says body (FileFold.ofBody clusterSize kind e body).result
      (FileFold.remarksOn (FileFold.ofBody clusterSize kind e body).result) := by
  cases kind with
  | client =>
    simp only [FileFold.ofBody, FileFold.ofClient]
    split
    · exact .failed _ _
    · split
      · exact .client _
      · exact .bare _
  | balancer =>
    simp only [FileFold.ofBody, FileFold.ofBalancer]
    split
    · exact .failed _ _
    · exact .balancer _
  | cluster =>
    cases hresult : (FileFold.ofBody clusterSize .cluster e body).result with
    | error err => exact .failed _ _
    | ok o =>
      obtain ⟨nodes, rfl, hshows⟩ := showsNodes_of_ofCluster e hresult
      obtain ⟨hascending, hsilent⟩ := silentNodes_of_showsNodes (e := e) hshows
      exact .cluster _ hascending hsilent

namespace Session

inductive Step where
  | fold (file : String) (kind : LogKind) (e : Experiment) (body : List UInt8)
  | note (file message : String)
  | take

inductive Answer where
  | folded (result : Except FoldError Outcome)
  | noted
  | taken (diagnostics : List Diagnostic)

namespace Answer

def isSuccess : Answer → Bool
  | folded result => result.toOption.isSome
  | _ => false

end Answer

def perform (s : Session) : Step → Answer × Session
  | .fold file kind e body => ((s.fold file kind e body).map .folded id)
  | .note file message => (.noted, s.note file message)
  | .take => (s.takeDiagnostics.map .taken id)

def run (s : Session) : List Step → List Answer × Session
  | [] => ([], s)
  | x :: xs =>
    let (answer, t) := s.perform x
    let (answers, u) := t.run xs
    (answer :: answers, u)

namespace Step

variable (clusterSize : Nat)

def remarks : Step → List Diagnostic
  | fold file kind e body =>
    (FileFold.remarksOn (FileFold.ofBody clusterSize kind e body).result).map (Diagnostic.mk file)
  | note file message => [⟨file, message⟩]
  | take => []

def Folds : Step → Nat → Prop
  | fold _ kind _ body, n => kind.AbsorbsRows clusterSize (Log.rows .passedOver body) n
  | _, n => n = 0

end Step

structure Performs (s : Session) (x : Step) (answer : Answer) (t : Session) : Prop where
  clusterSize : t.clusterSize = s.clusterSize
  histogramBins : t.histogramBins = s.histogramBins
  filesFolded : t.filesFolded = s.filesFolded + if answer.isSuccess then 1 else 0
  recordsFolded : ∃ n, x.Folds s.clusterSize n ∧ t.recordsFolded = s.recordsFolded + n
  fold : ∀ file kind e body, x = .fold file kind e body → ∃ result messages,
    answer = .folded result ∧ kind.Says body result messages ∧
      (∀ (other : Session) (name : String), other.clusterSize = s.clusterSize →
        (other.fold name kind e body).1 = result) ∧
      t.diagnostics = s.diagnostics ++ messages.map (Diagnostic.mk file)
  note : ∀ file message, x = .note file message → t.diagnostics = s.diagnostics ++ [⟨file, message⟩]
  take : x = .take → answer = .taken s.diagnostics ∧ t.diagnostics = []

structure Accounts (s : Session) (xs : List Step) (answers : List Answer) (t : Session) : Prop where
  clusterSize : t.clusterSize = s.clusterSize
  histogramBins : t.histogramBins = s.histogramBins
  filesFolded : t.filesFolded = s.filesFolded + answers.countP Answer.isSuccess
  recordsFolded : ∃ ns, List.Forall₂ (Step.Folds s.clusterSize) xs ns ∧
    t.recordsFolded = s.recordsFolded + ns.sum
  untaken : .take ∉ xs → t.diagnostics = s.diagnostics ++ xs.flatMap (Step.remarks s.clusterSize)
  sinceTaken : ∀ front back, xs = front ++ .take :: back → .take ∉ back →
    t.diagnostics = back.flatMap (Step.remarks s.clusterSize)

theorem diagnostics_fold (s : Session) (file : String) (kind : LogKind) (e : Experiment)
    (body : List UInt8) : (s.fold file kind e body).2.diagnostics =
      s.diagnostics ++ (Step.fold file kind e body).remarks s.clusterSize := by
  rw [Step.remarks, ← FileFold.notes_eq_remarksOn, fold_eq_absorb]
  rfl

theorem performs (s : Session) (x : Step) : s.Performs x (s.perform x).1 (s.perform x).2 := by
  cases x with
  | fold file kind e body =>
    have hfold : s.perform (.fold file kind e body) =
        (.folded (FileFold.ofBody s.clusterSize kind e body).result,
          s.absorb file (FileFold.ofBody s.clusterSize kind e body)) := by
      rw [perform, fold_eq_absorb]
      rfl
    rw [hfold]
    refine ⟨rfl, rfl, rfl, ⟨_, absorbsRows_applied _ _ e _, rfl⟩, ?_, by simp, by simp⟩
    rintro _ _ _ _ ⟨⟩
    refine ⟨_, _, rfl, says_ofBody _ _ _ _, fun other name hsize => ?_, ?_⟩
    · rw [fold_fst, hsize]
    · rw [absorb, FileFold.notes_eq_remarksOn]
  | note file message =>
    exact ⟨rfl, rfl, rfl, ⟨0, rfl, rfl⟩, by simp, by rintro _ _ ⟨⟩; rfl, by simp⟩
  | take => exact ⟨rfl, rfl, rfl, ⟨0, rfl, rfl⟩, by simp, by simp, fun _ => ⟨rfl, rfl⟩⟩

theorem diagnostics_perform (s : Session) {x : Step} (hx : x ≠ .take) :
    (s.perform x).2.diagnostics = s.diagnostics ++ x.remarks s.clusterSize := by
  cases x with
  | fold file kind e body => exact diagnostics_fold s file kind e body
  | note file message => rfl
  | take => exact absurd rfl hx

theorem Accounts.cons {s t u : Session} {x : Step} {xs : List Step} {answer : Answer}
    {answers : List Answer} (hx : s.Performs x answer t) (hxs : t.Accounts xs answers u)
    (hremarks : x ≠ .take → t.diagnostics = s.diagnostics ++ x.remarks s.clusterSize) :
    s.Accounts (x :: xs) (answer :: answers) u where
  clusterSize := hxs.clusterSize.trans hx.clusterSize
  histogramBins := hxs.histogramBins.trans hx.histogramBins
  filesFolded := by
    rw [hxs.filesFolded, hx.filesFolded, List.countP_cons]
    omega
  recordsFolded := by
    obtain ⟨n, hn, hcount⟩ := hx.recordsFolded
    obtain ⟨ns, hns, hsum⟩ := hxs.recordsFolded
    rw [hx.clusterSize] at hns
    refine ⟨n :: ns, .cons hn hns, ?_⟩
    rw [hsum, hcount, List.sum_cons, Nat.add_assoc]
  untaken hno := by
    rw [List.mem_cons, not_or] at hno
    rw [hxs.untaken hno.2, hremarks (Ne.symm hno.1), hx.clusterSize, List.flatMap_cons,
      List.append_assoc]
  sinceTaken front back hsplit hno := by
    rw [← hx.clusterSize]
    cases front with
    | nil =>
      obtain ⟨rfl, rfl⟩ := List.cons.inj hsplit
      rw [hxs.untaken hno, (hx.take rfl).2, List.nil_append]
    | cons y front =>
      obtain ⟨-, hrest⟩ := List.cons.inj hsplit
      exact hxs.sinceTaken front back hrest hno

theorem accounts_run (s : Session) (xs : List Step) :
    s.Accounts xs (s.run xs).1 (s.run xs).2 := by
  induction xs generalizing s with
  | nil =>
    exact ⟨rfl, rfl, rfl, ⟨[], .nil, rfl⟩, fun _ => by simp [run],
      fun front back h => by simp at h⟩
  | cons x xs ih => exact Accounts.cons (s.performs x) (ih _) fun hx => diagnostics_perform s hx

theorem run_concat (s : Session) (xs : List Step) (x : Step) :
    s.run (xs ++ [x]) = ((s.run xs).1 ++ [((s.run xs).2.perform x).1], ((s.run xs).2.perform x).2) := by
  induction xs generalizing s with
  | nil => rfl
  | cons y xs ih => simp [run, ih]

theorem session_accounts (s : Session) (xs : List Step) (x : Step) :
    ∃ answers t, s.run xs = (answers, t) ∧ s.Accounts xs answers t ∧
      ∃ answer u, t.perform x = (answer, u) ∧ t.Performs x answer u ∧
        s.run (xs ++ [x]) = (answers ++ [answer], u) :=
  ⟨_, _, rfl, accounts_run s xs, _, _, rfl, performs _ x, run_concat s xs x⟩

end Session

end RateSweep
