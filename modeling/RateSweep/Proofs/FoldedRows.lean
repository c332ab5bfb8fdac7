import RateSweep.Proofs.NodeIndependence

namespace RateSweep

namespace Log

variable {α : Type} (read : Row → Except RecordError α)

def Reads (rows : List (Except RecordError Row)) (records : List α) : Prop :=
  List.Forall₂ (fun x a => (x >>= read) = .ok a) rows records

variable {read}

theorem Reads.unique {rows : List (Except RecordError Row)} {as bs : List α}
    (ha : Reads read rows as) (hb : Reads read rows bs) : as = bs :=
  List.right_unique_forall₂' (fun _ _ _ hx hy => Except.ok.inj (hx.symm.trans hy)) ha hb

theorem Reads.concat {rows : List (Except RecordError Row)} {as : List α}
    {x : Except RecordError Row} {a : α} (h : Reads read rows as) (hx : (x >>= read) = .ok a) :
    Reads read (rows ++ [x]) (as ++ [a]) :=
  List.rel_append h (.cons hx .nil)

theorem Reads.split {rows : List (Except RecordError Row)} {as bs : List α} {a : α}
    (h : Reads read rows (as ++ a :: bs)) :
    ∃ front x back, rows = front ++ x :: back ∧ Reads read front as ∧ (x >>= read) = .ok a := by
  induction as generalizing rows with
  | nil =>
    cases h with
    | cons hx _ => exact ⟨[], _, _, rfl, .nil, hx⟩
  | cons b as ih =>
    cases h with
    | cons hy hrest =>
      obtain ⟨front, x, back, rfl, hfront, hx⟩ := ih hrest
      exact ⟨_ :: front, x, back, rfl, .cons hy hfront, hx⟩

variable (read) in
theorem exists_reads_decodeRows (rows : List (Except RecordError Row)) :
    ∃ front back, rows = front ++ back ∧ Reads read front (decodeRows read rows).records ∧
      ∀ x ∈ back.head?, ∀ a, (x >>= read) ≠ .ok a := by
  induction rows with
  | nil => exact ⟨[], [], rfl, .nil, by simp⟩
  | cons x rows ih =>
    cases hx : x >>= read with
    | error e =>
      refine ⟨[], x :: rows, rfl, ?_, by simp [hx]⟩
      cases x with
      | error e' => exact .nil
      | ok row =>
        rw [decodeRows, show read row = .error e from hx]
        exact .nil
    | ok a =>
      obtain ⟨front, back, rfl, hreads, hback⟩ := ih
      refine ⟨x :: front, back, rfl, ?_, hback⟩
      cases x with
      | error e' => cases hx
      | ok row =>
        rw [decodeRows, show read row = .ok a from hx]
        exact .cons hx hreads

theorem reads_of_failure {rows : List (Except RecordError Row)}
    (h : (decodeRows read rows).failure = none) :
    Reads read rows (decodeRows read rows).records := by
  induction rows with
  | nil => exact .nil
  | cons x rows ih =>
    cases x with
    | error e => cases h
    | ok row =>
      rw [decodeRows] at h ⊢
      cases hr : read row with
      | error e =>
        rw [hr] at h
        cases h
      | ok a =>
        rw [hr] at h
        exact .cons hr (ih h)

theorem Reads.decodeRows {rows : List (Except RecordError Row)} {as : List α}
    (h : Reads read rows as) : (decodeRows read rows).failure = none ∧
      (decodeRows read rows).records = as := by
  induction h with
  | nil => exact ⟨rfl, rfl⟩
  | @cons x a rows as hx _ ih =>
    cases x with
    | error e => cases hx
    | ok row =>
      rw [Log.decodeRows, show read row = .ok a from hx]
      exact ⟨ih.1, congrArg (a :: ·) ih.2⟩

theorem reads_iff {rows : List (Except RecordError Row)} {as : List α} :
    Reads read rows as ↔ (Log.decodeRows read rows).failure = none ∧
      (Log.decodeRows read rows).records = as := by
  refine ⟨Reads.decodeRows, ?_⟩
  rintro ⟨hfailure, rfl⟩
  exact reads_of_failure hfailure

variable (read) in
theorem ok_iff_reads {β : Type} {rows : List (Except RecordError Row)} (f : List α → β) {b : β} :
    (match (Log.decodeRows read rows).failure with
      | some e => Except.error e
      | none => Except.ok (f (Log.decodeRows read rows).records)) = Except.ok b ↔
      ∃ as, Reads read rows as ∧ b = f as := by
  simp only [reads_iff]
  cases hfailure : (Log.decodeRows read rows).failure <;> simp [eq_comm]

theorem reads_map_ok_iff {rows : List Row} {as : List α} :
    Reads read (rows.map .ok) as ↔ List.Forall₂ (fun row a => read row = .ok a) rows as :=
  List.forall₂_map_left_iff

theorem exists_reads {rows : List Row} (h : ∀ row ∈ rows, ∃ a, read row = .ok a) :
    ∃ as, Reads read (rows.map .ok) as := by
  induction rows with
  | nil => exact ⟨[], .nil⟩
  | cons row rows ih =>
    obtain ⟨⟨a, ha⟩, hrows⟩ := List.forall_mem_cons.1 h
    obtain ⟨as, has⟩ := ih hrows
    exact ⟨a :: as, .cons ha has⟩

theorem Reads.exists_row {rows : List (Except RecordError Row)} {as : List α}
    (h : Reads read rows as) {a : α} (ha : a ∈ as) : ∃ row, .ok row ∈ rows ∧ read row = .ok a := by
  obtain ⟨x, hmem, hx⟩ := exists_left_of_forall₂ h ha
  cases x with
  | error e => cases hx
  | ok row => exact ⟨row, hmem, hx⟩

end Log

def LogKind.Absorbs (clusterSize : Nat) (rows : List (Except RecordError Row)) : LogKind → Prop
  | .client => ∃ records, Log.Reads ClientRecord.ofRow? rows records
  | .balancer => ∃ records, Log.Reads (BalancerRecord.ofRow? clusterSize) rows records
  | .cluster => ∃ records, Log.Reads ClusterRecord.ofRow? rows records ∧ AllApply records

def LogKind.AbsorbsRows (clusterSize : Nat) (rows : List (Except RecordError Row)) (n : Nat)
    (kind : LogKind) : Prop :=
  ∃ front back, rows = front ++ back ∧ front.length = n ∧ kind.Absorbs clusterSize front ∧
    ∀ x ∈ back.head?, ¬ kind.Absorbs clusterSize (front ++ [x])

section Absorbs

variable {α : Type} {read : Row → Except RecordError α}

theorem not_reads_concat {front : List (Except RecordError Row)} {x : Except RecordError Row}
    (hx : ∀ a, (x >>= read) ≠ .ok a) (records : List α) :
    ¬ Log.Reads read (front ++ [x]) records := by
  intro h
  obtain ⟨a, -, ha⟩ := exists_right_of_forall₂ h (x := x) (by simp)
  exact hx a ha

theorem exists_front_decodeRows (rows : List (Except RecordError Row)) :
    ∃ front back, rows = front ++ back ∧ front.length = (Log.decodeRows read rows).rows.length ∧
      (∃ records, Log.Reads read front records) ∧
      ∀ x ∈ back.head?, ¬ ∃ records, Log.Reads read (front ++ [x]) records := by
  obtain ⟨front, back, hrows, hreads, hback⟩ := Log.exists_reads_decodeRows read rows
  refine ⟨front, back, hrows, ?_, ⟨_, hreads⟩, fun x hx => ?_⟩
  · rw [hreads.length_eq, Decoded.records, List.length_map]
  · rintro ⟨records, hmore⟩
    exact not_reads_concat (hback x hx) records hmore

end Absorbs

variable {clusterSize : Nat} {rows : List (Except RecordError Row)}

theorem absorbsRows_of_applyAll {as : Activities} {n : Nat} {fault : Option ActivityError}
    (h : Activities.applyAll [] 0 (Log.decodeRows ClusterRecord.ofRow? rows).records =
      (as, n, fault)) : LogKind.cluster.AbsorbsRows clusterSize rows n := by
  obtain ⟨front, back, hrows, hreads, hback⟩ :=
    Log.exists_reads_decodeRows ClusterRecord.ofRow? rows
  cases fault with
  | none =>
    have hn := Activities.applied_of_applyAll h
    rw [Nat.zero_add] at hn
    refine ⟨front, back, hrows, hreads.length_eq.trans hn.symm,
      ⟨_, hreads, fun node => ⟨_, run?_blank_of_applyAll h node⟩⟩, fun x hx => ?_⟩
    rintro ⟨records, hmore, -⟩
    exact not_reads_concat (hback x hx) records hmore
  | some err =>
    obtain ⟨applied, r, later, hsplit, hn, happly, hrefused⟩ := Activities.refused_of_applyAll h
    rw [hsplit] at hreads
    obtain ⟨front', x, back', rfl, hfront, hx⟩ := hreads.split
    refine ⟨front', x :: back' ++ back, by rw [hrows, List.append_assoc], ?_,
      ⟨applied, hfront, happly⟩, ?_⟩
    · rw [hfront.length_eq, hn, Nat.zero_add]
    · rintro y hy ⟨records, hmore, hall⟩
      obtain rfl : x = y := by simpa using hy
      obtain rfl := hmore.unique (hfront.concat hx)
      obtain ⟨a, ha⟩ := hall r.node
      exact absurd (ha.symm.trans hrefused) (by simp)

theorem absorbsRows_applied (clusterSize : Nat) (kind : LogKind) (e : Experiment)
    (body : List UInt8) :
    kind.AbsorbsRows clusterSize (Log.rows .passedOver body)
      (FileFold.ofBody clusterSize kind e body).applied := by
  cases kind with
  | client =>
    have happlied : (FileFold.ofBody clusterSize .client e body).applied =
        (Log.decode ClientRecord.ofRow? body).rows.length := by
      simp only [FileFold.ofBody, FileFold.ofClient, FileFold.failed]
      split
      · rfl
      · split <;> rfl
    rw [happlied]
    exact exists_front_decodeRows _
  | balancer =>
    have happlied : (FileFold.ofBody clusterSize .balancer e body).applied =
        (Log.decode (BalancerRecord.ofRow? clusterSize) body).rows.length := by
      simp only [FileFold.ofBody, FileFold.ofBalancer, FileFold.failed]
      split <;> rfl
    rw [happlied]
    exact exists_front_decodeRows _
  | cluster =>
    rcases happly : Activities.applyAll [] 0 (Log.decode ClusterRecord.ofRow? body).records with
      ⟨as, n, fault⟩
    have happlied : (FileFold.ofBody clusterSize .cluster e body).applied = n := by
      simp only [FileFold.ofBody, FileFold.ofCluster, FileFold.failed, happly]
      cases fault with
      | some err => rfl
      | none =>
        dsimp only
        split
        · rfl
        · split <;> rfl
    rw [happlied]
    exact absorbsRows_of_applyAll happly

end RateSweep
