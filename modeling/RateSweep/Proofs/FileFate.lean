import RateSweep.Intake
import RateSweep.Proofs.CountedFolds

namespace RateSweep

structure RegularFile where
  name : String
  body : List UInt8

inductive Fate where
  | skipped (why : String)
  | failed (e : FoldError)
  | bare (f : BareFile)
  | summarised (s : Summary) (notes : List Diagnostic)

namespace Fate

def isSkipped : Fate → Bool
  | skipped _ => true
  | _ => false

def isFailed : Fate → Bool
  | failed _ => true
  | _ => false

def bare? : Fate → Option BareFile
  | bare f => some f
  | _ => none

def summary? : Fate → Option Summary
  | summarised s _ => some s
  | _ => none

def remarks (path : String) : Fate → List Diagnostic
  | skipped why => [⟨path, why⟩]
  | failed e => [⟨path, s!"discarding file: {e.message}"⟩]
  | bare f => [⟨path, s!"{f.verdict.message}, summary reported as ERROR"⟩]
  | summarised _ notes => notes

end Fate

namespace RegularFile

def entry (f : RegularFile) : String × Entry := (f.name, .file f.body)

def path (directory : String) (f : RegularFile) : String := Path.join directory f.name

def fate (directory : String) (kind : LogKind) (fresh : Session) (f : RegularFile) : Fate :=
  match Intake.admission kind f.name with
  | .error why => .skipped why
  | .ok e =>
    match fresh.fold (f.path directory) kind e f.body with
    | (.ok (.summary s), session) => .summarised s session.diagnostics
    | (.ok (.noValidRecords v), _) => .bare ⟨f.path directory, e, v⟩
    | (.error err, _) => .failed err

def remarks (directory : String) (kind : LogKind) (fresh : Session) (f : RegularFile) :
    List Diagnostic :=
  (f.fate directory kind fresh).remarks (f.path directory)

end RegularFile

theorem admission_eq_ok_iff (kind : LogKind) (name : String) (e : Experiment) :
    Intake.admission kind name = .ok e ↔ readLogName name = .ok (kind, e) := by
  unfold Intake.admission
  split
  · next found e' h =>
    rw [h]
    split
    · next hk => simp [hk]
    · next hk => simp [hk]
  · next err h => simp [h]

theorem isSkipped_fate_iff (directory : String) (kind : LogKind) (fresh : Session)
    (f : RegularFile) :
    (f.fate directory kind fresh).isSkipped ↔ ∀ e, readLogName f.name ≠ .ok (kind, e) := by
  have hno : (∀ e, readLogName f.name ≠ .ok (kind, e)) ↔
      ∀ e, Intake.admission kind f.name ≠ .ok e :=
    forall_congr' fun e => not_congr (admission_eq_ok_iff kind f.name e).symm
  rw [hno]
  unfold RegularFile.fate
  split
  · next why ha => simp [ha, Fate.isSkipped]
  · next e ha =>
    have hskip : ¬ ∀ e, Intake.admission kind f.name ≠ .ok e := fun h => h e ha
    simp only [hskip, iff_false]
    split <;> simp [Fate.isSkipped]

namespace FileFold

def remarksOn : Except FoldError Outcome → List String
  | .ok (.summary (.balancer s)) => (s.condition.map Idleness.message).toList
  | .ok (.summary (.cluster s)) => s.silentNodes.map silenceNote
  | _ => []

theorem notes_eq_remarksOn (clusterSize : Nat) (kind : LogKind) (e : Experiment)
    (body : List UInt8) : (ofBody clusterSize kind e body).notes =
      remarksOn (ofBody clusterSize kind e body).result := by
  cases kind with
  | client =>
    simp only [ofBody, ofClient]
    split
    · rfl
    · split <;> rfl
  | balancer =>
    simp only [ofBody, ofBalancer]
    split <;> rfl
  | cluster =>
    simp only [ofBody, ofCluster]
    split
    · rfl
    · split
      · rfl
      · split <;> rfl

theorem notes_eq_nil (clusterSize : Nat) (kind : LogKind) (e : Experiment) (body : List UInt8)
    (h : ∀ s, (ofBody clusterSize kind e body).result ≠ .ok (.summary s)) :
    (ofBody clusterSize kind e body).notes = [] := by
  rw [notes_eq_remarksOn]
  unfold remarksOn
  split
  · next s hs => exact absurd hs (h _)
  · next s hs => exact absurd hs (h _)
  · rfl

end FileFold

namespace Intake

def record (i : Intake) : Fate → Intake
  | .skipped _ => { i with skipped := i.skipped + 1 }
  | .failed _ => { i with failed := i.failed + 1 }
  | .bare f => { i with bareFiles := i.bareFiles ++ [f] }
  | .summarised s _ => { i with summaries := i.summaries ++ [s] }

theorem summaries_record (i : Intake) (x : Fate) :
    (i.record x).summaries = i.summaries ++ x.summary?.toList := by
  cases x <;> simp [record, Fate.summary?]

theorem bareFiles_record (i : Intake) (x : Fate) :
    (i.record x).bareFiles = i.bareFiles ++ x.bare?.toList := by
  cases x <;> simp [record, Fate.bare?]

theorem skipped_record (i : Intake) (x : Fate) :
    (i.record x).skipped = i.skipped + if x.isSkipped then 1 else 0 := by
  cases x <;> simp [record, Fate.isSkipped]

theorem failed_record (i : Intake) (x : Fate) :
    (i.record x).failed = i.failed + if x.isFailed then 1 else 0 := by
  cases x <;> simp [record, Fate.isFailed]

theorem kind_record (i : Intake) (x : Fate) : (i.record x).kind = i.kind := by
  cases x <;> rfl

end Intake

section RegularFile

variable {directory : String} {kind : LogKind} {fresh : Session} {f : RegularFile}

theorem remarks_eq_singleton (h : (f.fate directory kind fresh).summary? = none) :
    ∃ message, f.remarks directory kind fresh = [⟨f.path directory, message⟩] := by
  unfold RegularFile.remarks
  cases hf : f.fate directory kind fresh with
  | skipped why => exact ⟨_, rfl⟩
  | failed e => exact ⟨_, rfl⟩
  | bare b => exact ⟨_, rfl⟩
  | summarised s notes =>
    rw [hf] at h
    cases h

theorem fate_of_admission_error {why : String} (ha : Intake.admission kind f.name = .error why) :
    f.fate directory kind fresh = .skipped why := by
  unfold RegularFile.fate
  simp only [ha]

theorem fate_of_admission {e : Experiment} (ha : Intake.admission kind f.name = .ok e) :
    f.fate directory kind fresh =
      match fresh.fold (f.path directory) kind e f.body with
      | (.ok (.summary s), session) => .summarised s session.diagnostics
      | (.ok (.noValidRecords v), _) => .bare ⟨f.path directory, e, v⟩
      | (.error err, _) => .failed err := by
  unfold RegularFile.fate
  simp only [ha]

end RegularFile

theorem addFile_eq_record (directory : String) {kind : LogKind} {fresh s : Session} {i : Intake}
    (f : RegularFile) (hkind : i.kind = kind) (hfresh : fresh.diagnostics = [])
    (hsize : s.clusterSize = fresh.clusterSize)
    (hopen : FileTree.pathFault? (f.path directory) = none) :
    ∃ s', Intake.addFile (f.path directory) f.name (.file f.body) (i, s) =
        .ok (i.record (f.fate directory kind fresh), s') ∧
      s'.clusterSize = s.clusterSize ∧
      s'.filesFolded = s.filesFolded + (f.fate directory kind fresh).summary?.toList.length +
        (f.fate directory kind fresh).bare?.toList.length ∧
      s'.diagnostics = s.diagnostics ++ f.remarks directory kind fresh := by
  subst hkind
  unfold Intake.addFile RegularFile.remarks
  simp only [hopen]
  cases ha : Intake.admission i.kind f.name with
  | error why =>
    rw [fate_of_admission_error ha]
    exact ⟨s.note (f.path directory) why, rfl, rfl, rfl, rfl⟩
  | ok e =>
    rw [fate_of_admission ha]
    simp only [Session.fold_eq_absorb, hsize]
    -- of the session a fold reads the cluster size and nothing else
    have hnotes := FileFold.notes_eq_nil fresh.clusterSize i.kind e f.body
    generalize FileFold.ofBody fresh.clusterSize i.kind e f.body = fold at hnotes ⊢
    obtain ⟨result, applied, notes⟩ := fold
    cases result with
    | error err =>
      obtain rfl : notes = [] := hnotes (by simp)
      dsimp only
      refine ⟨_, rfl, ?_, ?_, ?_⟩
      · exact hsize
      · rfl
      · simp [Session.note, Session.absorb, Fate.remarks]
    | ok outcome =>
      cases outcome with
      | noValidRecords v =>
        obtain rfl : notes = [] := hnotes (by simp)
        dsimp only
        refine ⟨_, rfl, ?_, ?_, ?_⟩
        · exact hsize
        · rfl
        · simp [Session.note, Session.absorb, Fate.remarks]
      | summary x =>
        dsimp only
        refine ⟨_, rfl, ?_, ?_, ?_⟩
        · exact hsize
        · rfl
        · simp [Session.absorb, Fate.remarks, hfresh]

end RateSweep
