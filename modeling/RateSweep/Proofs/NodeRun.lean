import Mathlib
import RateSweep.Summary.Cluster

namespace RateSweep

theorem Nanos.exists_ofInt? {n : Int} (h : InRange n) : ∃ a, ofInt? n = some a ∧ a.toInt = n := by
  cases ho : ofInt? n with
  | none => exact absurd h (ofInt?_eq_none_iff.1 ho)
  | some a => exact ⟨a, rfl, ofInt?_eq_some_iff.1 ho⟩

def recordsOf (node : UInt32) (rs : List ClusterRecord) : List ClusterRecord :=
  rs.filter (·.node = node)

theorem recordsOf_append (node : UInt32) (rs ts : List ClusterRecord) :
    recordsOf node (rs ++ ts) = recordsOf node rs ++ recordsOf node ts :=
  List.filter_append rs ts

theorem recordsOf_ne_nil_iff (node : UInt32) (rs : List ClusterRecord) :
    recordsOf node rs ≠ [] ↔ node ∈ rs.map ClusterRecord.node := by
  simp [recordsOf, List.filter_eq_nil_iff]

def workOf (rs : List ClusterRecord) : List ClusterRecord := rs.filter fun r => !r.event.isLifecycle

def busyTime (rs : List ClusterRecord) : Int := ((workOf rs).map (·.duration.toInt)).sum

def firstContact (rs : List ClusterRecord) : Option (String × Nanos) :=
  rs.findSome? fun r => r.peer.map fun peer => (peer, r.timestamp)

theorem workOf_append (rs ts : List ClusterRecord) : workOf (rs ++ ts) = workOf rs ++ workOf ts :=
  List.filter_append rs ts

theorem busyTime_cons (r : ClusterRecord) (rs : List ClusterRecord) :
    busyTime (r :: rs) = (if r.event.isLifecycle then 0 else r.duration.toInt) + busyTime rs := by
  by_cases hl : r.event.isLifecycle <;> simp [busyTime, workOf, hl]

theorem busyTime_append (rs ts : List ClusterRecord) :
    busyTime (rs ++ ts) = busyTime rs + busyTime ts := by
  simp [busyTime, workOf_append]

namespace NodeActivity

def run? (a : NodeActivity) : List ClusterRecord → Except ActivityError NodeActivity
  | [] => .ok a
  | r :: rs =>
    match a.apply r with
    | (b, none) => run? b rs
    | (_, some e) => .error e

theorem run?_append (a : NodeActivity) (rs ts : List ClusterRecord) :
    a.run? (rs ++ ts) = (a.run? rs).bind fun b => b.run? ts := by
  induction rs generalizing a with
  | nil => rfl
  | cons r rs ih =>
    rw [List.cons_append, run?, run?]
    split
    · exact ih _
    · rfl

structure Applied (a : NodeActivity) (r : ClusterRecord) (b : NodeActivity) : Prop where
  inOrder : ∀ t ∈ a.latest, t ≤ r.timestamp
  contact : b.contact = (a.contact <|> r.peer.map fun peer => (peer, r.timestamp))
  lastStart : b.lastStart = if r.event.isLifecycle then a.lastStart else r.timestamp
  lastDuration : b.lastDuration = if r.event.isLifecycle then a.lastDuration else r.duration
  busy : b.busy.toInt = a.busy.toInt + if r.event.isLifecycle then 0 else r.duration.toInt
  transfers : b.transfers = a.transfers + if r.event = .fileTransfer then 1 else 0
  overhead : b.overhead = if r.event = .fileTransfer then some r.overhead else a.overhead
  latest : b.latest = some r.timestamp

theorem precedes_eq_none_iff (a : NodeActivity) (r : ClusterRecord) :
    a.precedes r = none ↔ ∀ t ∈ a.latest, t ≤ r.timestamp := by
  cases h : a.latest with
  | none => simp [precedes, h]
  | some t => simp [precedes, h, Option.filter_eq_none_iff]

theorem busyAfter?_eq_some_iff (a : NodeActivity) (r : ClusterRecord) (busy : Nanos) :
    a.busyAfter? r = some busy ↔
      busy.toInt = a.busy.toInt + if r.event.isLifecycle then 0 else r.duration.toInt := by
  unfold busyAfter?
  split
  · rw [Option.some_inj, Int.add_zero, ← Int64.toInt_inj]
    exact eq_comm
  · exact Nanos.ofInt?_eq_some_iff

theorem apply_eq_of_busyAfter? {a : NodeActivity} {r : ClusterRecord} {busy : Nanos}
    (ho : ∀ t ∈ a.latest, t ≤ r.timestamp) (hb : a.busyAfter? r = some busy) :
    a.apply r = ((({ a.mark r with busy := busy } : NodeActivity).countTransfer r).noteContact r,
      none) := by
  rw [apply, (precedes_eq_none_iff a r).2 ho, hb]

theorem applied_of_apply {a b : NodeActivity} {r : ClusterRecord} (h : a.apply r = (b, none)) :
    Applied a r b := by
  cases ho : a.precedes r with
  | some previous => simp [apply, ho] at h
  | none =>
    cases hb : a.busyAfter? r with
    | none => simp [apply, ho, hb] at h
    | some busy =>
      have horder := (precedes_eq_none_iff a r).1 ho
      rw [apply_eq_of_busyAfter? horder hb] at h
      obtain rfl := (Prod.mk.inj h).1
      have hbusy := (busyAfter?_eq_some_iff a r busy).1 hb
      by_cases hl : r.event.isLifecycle <;> by_cases ht : r.event = .fileTransfer <;>
        constructor <;> simp_all [noteContact, countTransfer, mark]

theorem exists_apply {a : NodeActivity} {r : ClusterRecord} (ho : ∀ t ∈ a.latest, t ≤ r.timestamp)
    (hr : Nanos.InRange (a.busy.toInt + if r.event.isLifecycle then 0 else r.duration.toInt)) :
    ∃ b, a.apply r = (b, none) := by
  cases hb : a.busyAfter? r with
  | some busy => exact ⟨_, apply_eq_of_busyAfter? ho hb⟩
  | none =>
    unfold busyAfter? at hb
    split at hb
    · cases hb
    · next hl =>
      rw [if_neg hl] at hr
      exact absurd hr (Nanos.ofInt?_eq_none_iff.1 hb)

theorem run?_cons_eq_ok {a b : NodeActivity} {r : ClusterRecord} {rs : List ClusterRecord}
    (h : a.run? (r :: rs) = .ok b) : ∃ c, a.apply r = (c, none) ∧ c.run? rs = .ok b := by
  rw [run?] at h
  split at h
  · next c hc => exact ⟨c, hc, h⟩
  · cases h

theorem busy_of_run? {a b : NodeActivity} {rs : List ClusterRecord} (h : a.run? rs = .ok b) :
    b.busy.toInt = a.busy.toInt + busyTime rs := by
  induction rs generalizing a with
  | nil =>
    cases h
    simp [busyTime, workOf]
  | cons r rs ih =>
    obtain ⟨c, hc, hr⟩ := run?_cons_eq_ok h
    rw [ih hr, (applied_of_apply hc).busy, busyTime_cons, Int.add_assoc]

theorem contact_of_run? {a b : NodeActivity} {rs : List ClusterRecord} (h : a.run? rs = .ok b) :
    b.contact = (a.contact <|> firstContact rs) := by
  induction rs generalizing a with
  | nil =>
    cases h
    simp [firstContact]
  | cons r rs ih =>
    obtain ⟨c, hc, hr⟩ := run?_cons_eq_ok h
    rw [ih hr, (applied_of_apply hc).contact]
    cases a.contact <;> cases hp : r.peer <;> simp [firstContact, hp]

theorem last_of_run? {a b : NodeActivity} {rs : List ClusterRecord} (h : a.run? rs = .ok b) :
    (b.lastStart, b.lastDuration) =
      ((workOf rs).getLast?.map fun r => (r.timestamp, r.duration)).getD
        (a.lastStart, a.lastDuration) := by
  induction rs generalizing a with
  | nil =>
    cases h
    simp [workOf]
  | cons r rs ih =>
    obtain ⟨c, hc, hr⟩ := run?_cons_eq_ok h
    have hs := (applied_of_apply hc).lastStart
    have hd := (applied_of_apply hc).lastDuration
    rw [ih hr, hs, hd]
    by_cases hl : r.event.isLifecycle
    · simp [workOf, hl]
    · simp [workOf, hl, List.getLast?_cons]

theorem exists_idleTime? {a : NodeActivity} (node : UInt32) {peer : String} {start : Nanos}
    (hc : a.contact = some (peer, start))
    (hf : Nanos.InRange (a.lastStart.toInt + a.lastDuration.toInt))
    (hw : Nanos.InRange (a.lastStart.toInt + a.lastDuration.toInt - start.toInt))
    (hi : Nanos.InRange
      (a.lastStart.toInt + a.lastDuration.toInt - start.toInt - a.busy.toInt)) :
    ∃ t, a.idleTime? node = .ok (some t) ∧
      t.toInt = a.lastStart.toInt + a.lastDuration.toInt - start.toInt - a.busy.toInt := by
  obtain ⟨finish, hfinish, hfe⟩ := Nanos.exists_ofInt? hf
  rw [← hfe] at hw hi ⊢
  obtain ⟨window, hwindow, hwe⟩ := Nanos.exists_ofInt? hw
  rw [← hwe] at hi ⊢
  obtain ⟨t, ht, hte⟩ := Nanos.exists_ofInt? hi
  refine ⟨t, ?_, hte⟩
  simp [idleTime?, hc, Nanos.add?, Nanos.sub?, hfinish, hwindow, ht]

end NodeActivity

end RateSweep
