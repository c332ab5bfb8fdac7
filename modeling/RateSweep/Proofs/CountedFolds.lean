import Mathlib
import RateSweep.Session

namespace RateSweep.Session

def absorb (s : Session) (file : String) (f : FileFold) : Session :=
  { s with
    filesFolded := s.filesFolded + if f.result.toOption.isSome then 1 else 0
    recordsFolded := s.recordsFolded + f.applied
    diagnostics := s.diagnostics ++ f.notes.map (Diagnostic.mk file) }

def countRecords (s : Session) (n : Nat) : Session := { s with recordsFolded := s.recordsFolded + n }

theorem countRecords_countRecord (s : Session) (n : Nat) :
    s.countRecord.countRecords n = s.countRecords (n + 1) := by
  simp only [countRecords, countRecord, Nat.add_right_comm, Nat.add_assoc]

section Rows

variable {α τ : Type}

def addAll (add : τ → α → Except FoldError τ) (tally : τ) : List α → Except FoldError τ × Nat
  | [] => (.ok tally, 0)
  | r :: rs =>
    match add tally r with
    | .error err => (.error err, 0)
    | .ok tally => ((addAll add tally rs).1, (addAll add tally rs).2 + 1)

def unlessFailed (failure : Option RecordError) (tally : τ) : Except FoldError τ :=
  match failure with
  | some err => .error (.record err)
  | none => .ok tally

theorem runOn_foldlM_addRow (add : τ → α → Except FoldError τ) (read : Row → Except RecordError α)
    (rows : List (Except RecordError Row)) (tally : τ) (s : Session) :
    ((rows.map (· >>= read)).foldlM (addRow add) tally).runOn s =
      ((addAll add tally (Log.decodeRows read rows).records).1 >>=
          unlessFailed (Log.decodeRows read rows).failure,
        s.countRecords (addAll add tally (Log.decodeRows read rows).records).2) := by
  induction rows generalizing tally s with
  | nil => rfl
  | cons row rows ih =>
    rw [List.map_cons, List.foldlM_cons]
    cases row with
    | error err => rfl
    | ok row =>
      cases hread : read row with
      | error err =>
        have hdecode : Log.decodeRows read (.ok row :: rows) = ⟨[], some err⟩ := by
          rw [Log.decodeRows, hread]
        have hrow : (addRow add tally ((.ok row : Except RecordError Row) >>= read)).runOn s =
            (.error (.record err), s) := by
          change (addRow add tally (read row)).runOn s = _
          rw [hread]
          rfl
        rw [Steps.runOn_bind_of_error hrow, hdecode]
        rfl
      | ok r =>
        have hdecode : Log.decodeRows read (.ok row :: rows) =
            (Log.decodeRows read rows).cons (row, r) := by rw [Log.decodeRows, hread]
        have hrow : addRow add tally ((.ok row : Except RecordError Row) >>= read) =
            addRow add tally (.ok r) := congrArg (addRow add tally) hread
        have hrecords : (Log.decodeRows read (.ok row :: rows)).records =
            r :: (Log.decodeRows read rows).records := by rw [hdecode]; rfl
        have hfailure : (Log.decodeRows read (.ok row :: rows)).failure =
            (Log.decodeRows read rows).failure := by rw [hdecode]; rfl
        rw [hrow, hrecords, hfailure]
        cases hadd : add tally r with
        | error err =>
          have hstep : (addRow add tally (.ok r)).runOn s = (.error err, s) := by
            change Steps.runOn (liftM (add tally r) >>= _) s = _
            rw [hadd]
            rfl
          rw [Steps.runOn_bind_of_error hstep, addAll, hadd]
          rfl
        | ok tally' =>
          have hstep : (addRow add tally (.ok r)).runOn s = (.ok tally', s.countRecord) := by
            change Steps.runOn (liftM (add tally r) >>= _) s = _
            rw [hadd]
            rfl
          rw [Steps.runOn_bind_of_ok hstep, ih, addAll, hadd, countRecords_countRecord]

theorem addAll_total (add : τ → α → τ) (tally : τ) (rs : List α) :
    addAll (fun t r => .ok (add t r)) tally rs = (.ok (rs.foldl add tally), rs.length) := by
  induction rs generalizing tally with
  | nil => rfl
  | cons r rs ih => simp only [addAll, ih, List.foldl_cons, List.length_cons]

theorem runOn_foldlM_total (add : τ → α → τ) (read : Row → Except RecordError α)
    (rows : List (Except RecordError Row)) (tally : τ) (s : Session) :
    ((rows.map (· >>= read)).foldlM (addRow fun t r => .ok (add t r)) tally).runOn s =
      (unlessFailed (Log.decodeRows read rows).failure
          ((Log.decodeRows read rows).records.foldl add tally),
        s.countRecords (Log.decodeRows read rows).rows.length) := by
  rw [runOn_foldlM_addRow, addAll_total, Decoded.records, List.length_map]
  rfl

end Rows

theorem applyAll_eq_addAll (as : Activities) (applied : Nat) (rs : List ClusterRecord) :
    (as.applyAll applied rs).2.1 = applied + (addAll addActivity as rs).2 ∧
      (addAll addActivity as rs).1 =
        match as.applyAll applied rs with
        | (as, _, none) => .ok as
        | (_, _, some err) => .error (.activity err) := by
  induction rs generalizing as applied with
  | nil => exact ⟨rfl, rfl⟩
  | cons r rs ih =>
    rw [Activities.applyAll]
    rcases happly : (as.ofNode r.node).apply r with ⟨a, _ | err⟩
    · have hadd : addActivity as r = .ok (as.put r.node a) := by rw [addActivity, happly]
      obtain ⟨hcount, hresult⟩ := ih (as.put r.node a) (applied + 1)
      simp only [addAll, hadd]
      constructor
      · rw [hcount]
        omega
      · exact hresult
    · have hadd : addActivity as r = .error (.activity err) := by rw [addActivity, happly]
      rw [addAll, hadd]
      exact ⟨rfl, rfl⟩

def noteAll (s : Session) (file : String) (messages : List String) : Session :=
  { s with diagnostics := s.diagnostics ++ messages.map (Diagnostic.mk file) }

theorem noteAll_note (s : Session) (file message : String) (messages : List String) :
    (s.note file message).noteAll file messages = s.noteAll file (message :: messages) := by
  simp only [noteAll, note, List.map_cons, List.append_assoc, List.singleton_append]

theorem noteAll_nil (s : Session) (file : String) : s.noteAll file [] = s := by
  simp only [noteAll, List.map_nil, List.append_nil]

theorem runOn_forM_note {α : Type} (file : String) (message : α → String) (xs : List α) (s : Session) :
    Steps.runOn (forM xs fun x => (modify (·.note file (message x)) : Fold PUnit)) s =
      (.ok ⟨⟩, s.noteAll file (xs.map message)) := by
  induction xs generalizing s with
  | nil => rw [List.map_nil, noteAll_nil]; rfl
  | cons x xs ih =>
    rw [List.forM_cons, Steps.runOn_bind, Steps.runOn_modify, List.map_cons, ← noteAll_note]
    exact ih _

theorem absorb_failed (s : Session) (file : String) (err : FoldError) (n : Nat) :
    s.absorb file (.failed err n) = s.countRecords n := by
  simp [absorb, FileFold.failed, countRecords, Except.toOption]

theorem absorb_folded (s : Session) (file : String) (o : Outcome) (n : Nat) (notes : List String) :
    s.absorb file ⟨.ok o, n, notes⟩ = (s.countRecords n).countFile.noteAll file notes := by
  simp [absorb, countFile, noteAll, countRecords, Except.toOption]

section Folds

variable (e : Experiment) (rows : List (Except RecordError Row)) (s : Session)

theorem runOn_foldClient : (foldClient e (rows.map (· >>= ClientRecord.ofRow?))).runOn s =
    let d := Log.decodeRows ClientRecord.ofRow? rows
    match d.failure with
    | some err => (.error (.record err), s.countRecords d.rows.length)
    | none => (.ok (match (ClientTally.ofRecords d.records).summary e with
      | .ok summary => .summary (.client summary)
      | .error verdict => .noValidRecords verdict), (s.countRecords d.rows.length).countFile) := by
  have hrows := runOn_foldlM_total ClientTally.add ClientRecord.ofRow? rows .empty s
  unfold foldClient
  generalize Log.decodeRows ClientRecord.ofRow? rows = d at hrows ⊢
  dsimp only
  cases hfail : d.failure with
  | some err =>
    rw [hfail] at hrows
    exact Steps.runOn_bind_of_error hrows
  | none =>
    rw [hfail] at hrows
    rw [Steps.runOn_bind_of_ok hrows, Steps.runOn_bind, Steps.runOn_modify]
    dsimp only [ClientTally.ofRecords]
    cases (d.records.foldl ClientTally.add .empty).summary e <;> rfl

theorem runOn_foldBalancer (clusterSize : Nat) :
    (foldBalancer e (rows.map (· >>= BalancerRecord.ofRow? clusterSize))).runOn s =
    let d := Log.decodeRows (BalancerRecord.ofRow? clusterSize) rows
    match d.failure with
    | some err => (.error (.record err), s.countRecords d.rows.length)
    | none => (.ok ((BalancerTally.ofRecords d.records).summary e),
        (s.countRecords d.rows.length).countFile) := by
  have hrows := runOn_foldlM_total BalancerTally.add (BalancerRecord.ofRow? clusterSize) rows .empty s
  unfold foldBalancer
  generalize Log.decodeRows (BalancerRecord.ofRow? clusterSize) rows = d at hrows ⊢
  dsimp only
  cases hfail : d.failure with
  | some err =>
    rw [hfail] at hrows
    exact Steps.runOn_bind_of_error hrows
  | none =>
    rw [hfail] at hrows
    rw [Steps.runOn_bind_of_ok hrows, Steps.runOn_bind, Steps.runOn_modify]
    rfl

theorem runOn_foldCluster : (foldCluster e (rows.map (· >>= ClusterRecord.ofRow?))).runOn s =
    let d := Log.decodeRows ClusterRecord.ofRow? rows
    match Activities.applyAll [] 0 d.records with
    | (_, applied, some err) => (.error (.activity err), s.countRecords applied)
    | (activities, applied, none) =>
      match d.failure, activities.allFigures? with
      | some err, _ => (.error (.record err), s.countRecords applied)
      | none, .error err => (.error (.activity err), s.countRecords applied)
      | none, .ok nodes => (.ok ⟨e, nodes⟩, (s.countRecords applied).countFile) := by
  have hrows := runOn_foldlM_addRow addActivity ClusterRecord.ofRow? rows [] s
  unfold foldCluster
  generalize Log.decodeRows ClusterRecord.ofRow? rows = d at hrows ⊢
  obtain ⟨hcount, hresult⟩ := applyAll_eq_addAll [] 0 d.records
  rw [hresult, ← Nat.zero_add (addAll addActivity [] d.records).2, ← hcount] at hrows
  dsimp only
  rcases happly : Activities.applyAll [] 0 d.records with ⟨activities, applied, _ | err⟩
  all_goals
    rw [happly] at hrows
    dsimp only
  · cases hfail : d.failure with
    | some err =>
      rw [hfail] at hrows
      exact Steps.runOn_bind_of_error hrows
    | none =>
      rw [hfail] at hrows
      rw [Steps.runOn_bind_of_ok hrows]
      cases activities.allFigures? <;> rfl
  · exact Steps.runOn_bind_of_error hrows

end Folds

section Files

variable (s : Session) (file : String) (e : Experiment) (body : List UInt8)

theorem fold_client : s.fold file .client e body =
    let f := FileFold.ofBody s.clusterSize .client e body
    (f.result, s.absorb file f) := by
  dsimp only [fold, foldFile, FileFold.ofBody, Log.records, Log.decode]
  rw [runOn_foldClient, FileFold.ofClient]
  generalize Log.decodeRows ClientRecord.ofRow? (Log.rows .passedOver body) = d
  dsimp only
  cases d.failure with
  | some err => rw [absorb_failed]; rfl
  | none =>
    dsimp only
    cases (ClientTally.ofRecords d.records).summary e with
    | ok summary => rw [absorb_folded, noteAll_nil]
    | error verdict => rw [absorb_folded, noteAll_nil]

theorem fold_balancer : s.fold file .balancer e body =
    let f := FileFold.ofBody s.clusterSize .balancer e body
    (f.result, s.absorb file f) := by
  dsimp only [fold, foldFile, FileFold.ofBody, Log.records, Log.decode]
  rw [Steps.runOn_bind, Steps.runOn_get, FileFold.ofBalancer]
  dsimp only
  have hfold := runOn_foldBalancer e (Log.rows .passedOver body) s s.clusterSize
  generalize Log.decodeRows (BalancerRecord.ofRow? s.clusterSize) (Log.rows .passedOver body) = d
    at hfold ⊢
  cases hfail : d.failure with
  | some err =>
    simp only [hfail] at hfold
    rw [Steps.runOn_bind_of_error hfold, absorb_failed]
    rfl
  | none =>
    simp only [hfail] at hfold
    rw [Steps.runOn_bind_of_ok hfold, Steps.runOn_bind, runOn_forM_note, absorb_folded,
      Option.toList_map]
    rfl

theorem fold_cluster : s.fold file .cluster e body =
    let f := FileFold.ofBody s.clusterSize .cluster e body
    (f.result, s.absorb file f) := by
  dsimp only [fold, foldFile, FileFold.ofBody, Log.records, Log.decode]
  rw [FileFold.ofCluster]
  have hfold := runOn_foldCluster e (Log.rows .passedOver body) s
  generalize Log.decodeRows ClusterRecord.ofRow? (Log.rows .passedOver body) = d at hfold ⊢
  rcases happly : Activities.applyAll [] 0 d.records with ⟨activities, applied, _ | err⟩
  all_goals simp only [happly] at hfold ⊢
  · cases hfail : d.failure with
    | some err =>
      simp only [hfail] at hfold
      rw [Steps.runOn_bind_of_error hfold, absorb_failed]
      rfl
    | none =>
      simp only [hfail] at hfold
      cases hfigures : activities.allFigures? with
      | error err =>
        simp only [hfigures] at hfold
        rw [Steps.runOn_bind_of_error hfold]
        dsimp only
        rw [absorb_failed]
        rfl
      | ok nodes =>
        simp only [hfigures] at hfold
        rw [Steps.runOn_bind_of_ok hfold, Steps.runOn_bind, runOn_forM_note]
        dsimp only
        rw [absorb_folded]
        rfl
  · rw [Steps.runOn_bind_of_error hfold, absorb_failed]
    rfl

theorem fold_eq_absorb (kind : LogKind) : s.fold file kind e body =
    let f := FileFold.ofBody s.clusterSize kind e body
    (f.result, s.absorb file f) := by
  cases kind with
  | client => exact s.fold_client file e body
  | balancer => exact s.fold_balancer file e body
  | cluster => exact s.fold_cluster file e body

theorem fold_fst (kind : LogKind) :
    (s.fold file kind e body).1 = (FileFold.ofBody s.clusterSize kind e body).result := by
  rw [fold_eq_absorb]

end Files

end RateSweep.Session
