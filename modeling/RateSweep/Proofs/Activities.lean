import RateSweep.Proofs.NodeRun

namespace RateSweep

theorem exists_left_of_forall₂ {α β : Type} {R : α → β → Prop} {xs : List α} {ys : List β}
    (h : List.Forall₂ R xs ys) {y : β} (hy : y ∈ ys) : ∃ x ∈ xs, R x y := by
  induction h with
  | nil => cases hy
  | cons hr _ ih =>
    rcases List.mem_cons.1 hy with rfl | hy
    · exact ⟨_, List.mem_cons_self, hr⟩
    · obtain ⟨x, hx, hxy⟩ := ih hy
      exact ⟨x, List.mem_cons_of_mem _ hx, hxy⟩

theorem exists_right_of_forall₂ {α β : Type} {R : α → β → Prop} {xs : List α} {ys : List β}
    (h : List.Forall₂ R xs ys) {x : α} (hx : x ∈ xs) : ∃ y ∈ ys, R x y :=
  exists_left_of_forall₂ (R := flip R) h.flip hx

namespace Activities

def ids (as : Activities) : List UInt32 := as.map Prod.fst

def Ascending (as : Activities) : Prop := as.Pairwise fun p q => p.1 < q.1

theorem ofNode_put_self (as : Activities) (node : UInt32) (a : NodeActivity) :
    (put node a as).ofNode node = a := by
  induction as with
  | nil => simp [put, ofNode]
  | cons p as ih =>
    obtain ⟨id, b⟩ := p
    simp only [ofNode] at ih
    by_cases hlt : node < id
    · simp [put, hlt, ofNode]
    · by_cases hid : node = id
      · simp [put, hid, ofNode]
      · simp [put, hlt, hid, ofNode, Ne.symm hid, ih]

theorem ofNode_put_of_ne (as : Activities) {node n : UInt32} (a : NodeActivity) (hn : n ≠ node) :
    (put node a as).ofNode n = as.ofNode n := by
  induction as with
  | nil => simp [put, ofNode, hn.symm]
  | cons p as ih =>
    obtain ⟨id, b⟩ := p
    simp only [ofNode] at ih
    by_cases hlt : node < id
    · simp [put, hlt, ofNode, hn.symm]
    · by_cases hid : node = id
      · subst hid
        simp [put, ofNode, hn.symm]
      · by_cases he : id = n
        · subst he
          simp [put, hlt, hid, ofNode]
        · simp [put, hlt, hid, ofNode, he, ih]

theorem mem_ids_put (as : Activities) (node n : UInt32) (a : NodeActivity) :
    n ∈ (put node a as).ids ↔ n = node ∨ n ∈ as.ids := by
  induction as with
  | nil => simp [put, ids]
  | cons p as ih =>
    obtain ⟨id, b⟩ := p
    simp only [ids] at ih
    simp only [put, ids]
    split
    · simp
    · split
      · next h => simp [h]
      · simp [ih, or_left_comm]

theorem ascending_put {as : Activities} (node : UInt32) (a : NodeActivity) (h : as.Ascending) :
    (put node a as).Ascending := by
  induction as with
  | nil => exact List.pairwise_singleton _ _
  | cons p as ih =>
    obtain ⟨id, b⟩ := p
    obtain ⟨hid, has⟩ := List.pairwise_cons.1 h
    simp only [put]
    split
    · next hlt =>
      refine List.pairwise_cons.2 ⟨fun q hq => ?_, h⟩
      rcases List.mem_cons.1 hq with rfl | hq
      · exact hlt
      · exact UInt32.lt_trans hlt (hid q hq)
    · next hlt =>
      split
      · next heq => exact List.pairwise_cons.2 ⟨fun q hq => heq ▸ hid q hq, has⟩
      · next hne =>
        refine List.pairwise_cons.2 ⟨fun q hq => ?_, ih has⟩
        rcases (mem_ids_put as node q.1 a).1 (List.mem_map_of_mem hq) with hq | hq
        · have hgt : id < node := UInt32.lt_of_le_of_ne (UInt32.not_lt.1 hlt) (Ne.symm hne)
          rw [hq]
          exact hgt
        · obtain ⟨q', hq', he⟩ := List.mem_map.1 hq
          rw [← he]
          exact hid q' hq'

theorem ofNode_of_mem {as : Activities} (h : as.Ascending) {p : UInt32 × NodeActivity}
    (hp : p ∈ as) : as.ofNode p.1 = p.2 := by
  induction as with
  | nil => cases hp
  | cons q as ih =>
    obtain ⟨hq, has⟩ := List.pairwise_cons.1 h
    rcases List.mem_cons.1 hp with rfl | hp
    · simp [ofNode]
    · have hne : q.1 ≠ p.1 := UInt32.ne_of_lt (hq p hp)
      have hrest := ih has hp
      simp only [ofNode] at hrest
      simp [ofNode, hne, hrest]

theorem run?_recordsOf_cons {as : Activities} {r : ClusterRecord} {a : NodeActivity}
    (h : (as.ofNode r.node).apply r = (a, none)) (node : UInt32) (rs : List ClusterRecord) :
    (as.ofNode node).run? (recordsOf node (r :: rs)) =
      ((put r.node a as).ofNode node).run? (recordsOf node rs) := by
  by_cases hn : node = r.node
  · subst hn
    simp [recordsOf, NodeActivity.run?, h, ofNode_put_self]
  · simp [recordsOf, Ne.symm hn, ofNode_put_of_ne as a hn]

theorem run?_of_applyAll {as as' : Activities} {n m : Nat} {rs : List ClusterRecord}
    (h : as.applyAll n rs = (as', m, none)) (node : UInt32) :
    (as.ofNode node).run? (recordsOf node rs) = .ok (as'.ofNode node) := by
  induction rs generalizing as n with
  | nil =>
    obtain rfl : as = as' := (Prod.mk.inj h).1
    rfl
  | cons r rs ih =>
    rw [applyAll] at h
    split at h
    · next a ha => rw [run?_recordsOf_cons ha, ih h]
    · cases h

theorem mem_ids_of_applyAll {as as' : Activities} {n m : Nat} {rs : List ClusterRecord}
    (h : as.applyAll n rs = (as', m, none)) (node : UInt32) :
    node ∈ as'.ids ↔ node ∈ as.ids ∨ node ∈ rs.map ClusterRecord.node := by
  induction rs generalizing as n with
  | nil =>
    obtain rfl : as = as' := (Prod.mk.inj h).1
    simp
  | cons r rs ih =>
    rw [applyAll] at h
    split at h
    · rw [ih h, mem_ids_put, List.map_cons, List.mem_cons, or_assoc, or_left_comm]
    · cases h

theorem ascending_of_applyAll {as as' : Activities} {n m : Nat} {rs : List ClusterRecord}
    (h : as.applyAll n rs = (as', m, none)) (has : as.Ascending) : as'.Ascending := by
  induction rs generalizing as n with
  | nil =>
    obtain rfl : as = as' := (Prod.mk.inj h).1
    exact has
  | cons r rs ih =>
    rw [applyAll] at h
    split at h
    · exact ih h (ascending_put _ _ has)
    · cases h

theorem applied_of_applyAll {as as' : Activities} {n m : Nat} {rs : List ClusterRecord}
    (h : as.applyAll n rs = (as', m, none)) : m = n + rs.length := by
  induction rs generalizing as n with
  | nil =>
    cases h
    rfl
  | cons r rs ih =>
    rw [applyAll] at h
    split at h
    · rw [ih h, List.length_cons]
      omega
    · cases h

theorem split_of_applyAll {as as' : Activities} {n m : Nat} {rs : List ClusterRecord}
    {e : ActivityError} (h : as.applyAll n rs = (as', m, some e)) :
    ∃ front r back reached, rs = front ++ r :: back ∧ as.applyAll n front = (reached, m, none) ∧
      ((reached.ofNode r.node).apply r).2 = some e := by
  induction rs generalizing as n with
  | nil => cases h
  | cons r rs ih =>
    rw [applyAll] at h
    split at h
    · next a ha =>
      obtain ⟨front, r', back, reached, rfl, hfront, happly⟩ := ih h
      refine ⟨r :: front, r', back, reached, rfl, ?_, happly⟩
      rw [applyAll, ha]
      exact hfront
    · next a e' ha =>
      cases h
      exact ⟨[], r, rs, as, rfl, rfl, by rw [ha]⟩

theorem refused_of_applyAll {as as' : Activities} {n m : Nat} {rs : List ClusterRecord}
    {e : ActivityError} (h : as.applyAll n rs = (as', m, some e)) :
    ∃ front r back, rs = front ++ r :: back ∧ m = n + front.length ∧
      (∀ node, ∃ a, (as.ofNode node).run? (recordsOf node front) = .ok a) ∧
      (as.ofNode r.node).run? (recordsOf r.node (front ++ [r])) = .error e := by
  obtain ⟨front, r, back, reached, rfl, hfront, happly⟩ := split_of_applyAll h
  refine ⟨front, r, back, rfl, applied_of_applyAll hfront,
    fun node => ⟨_, run?_of_applyAll hfront node⟩, ?_⟩
  have hlast : recordsOf r.node [r] = [r] := by simp [recordsOf]
  rw [recordsOf_append, NodeActivity.run?_append, run?_of_applyAll hfront, hlast]
  generalize reached.ofNode r.node = a at happly
  rcases hr : a.apply r with ⟨b, fault⟩
  rw [hr] at happly
  simp only at happly
  subst happly
  simp [Except.bind, NodeActivity.run?, hr]

end Activities

namespace NodeActivity

def IdleFault (a : NodeActivity) (node : UInt32) (e : ActivityError) : Prop :=
  (a.idleTime? node = .error e ∧ e = .overflow node) ∨
    ∃ t, a.idleTime? node = .ok (some t) ∧ t < 0 ∧ e = .negativeIdleTime node t

theorem eq_overflow_of_idleTime? {a : NodeActivity} {node : UInt32} {e : ActivityError}
    (h : a.idleTime? node = .error e) : e = .overflow node := by
  unfold idleTime? at h
  split at h
  · cases h
  · dsimp only at h
    split at h
    · cases h
    · exact (Except.error.inj h).symm

end NodeActivity

namespace Activities

theorem figures?_of_idleTime? {node : UInt32} {a : NodeActivity} {t : Nanos}
    (h : a.idleTime? node = .ok (some t)) :
    figures? node a = if t < 0 then .error (.negativeIdleTime node t)
      else .ok ⟨node, some t, a.transfers, a.overhead⟩ := by
  by_cases ht : t < 0 <;> simp [figures?, h, ht, Option.filter]

theorem figures?_eq_ok_iff (node : UInt32) (a : NodeActivity) (f : NodeFigures) :
    figures? node a = .ok f ↔ ∃ idle, a.idleTime? node = .ok idle ∧ (∀ t ∈ idle, 0 ≤ t) ∧
      f = ⟨node, idle, a.transfers, a.overhead⟩ := by
  cases hi : a.idleTime? node with
  | error e => simp [figures?, hi]
  | ok idle =>
    cases idle with
    | none => simp [figures?, hi, eq_comm]
    | some t =>
      by_cases ht : t < 0
      · simp [figures?_of_idleTime? hi, ht]
      · simp [figures?_of_idleTime? hi, ht, Int64.not_lt.1 ht, eq_comm]

theorem figures?_eq_error_iff (node : UInt32) (a : NodeActivity) (e : ActivityError) :
    figures? node a = .error e ↔ a.IdleFault node e := by
  cases hi : a.idleTime? node with
  | error e' =>
    have he := NodeActivity.eq_overflow_of_idleTime? hi
    simp only [figures?, NodeActivity.IdleFault, hi]
    grind
  | ok idle =>
    cases idle with
    | none => simp [figures?, NodeActivity.IdleFault, hi]
    | some t =>
      rw [figures?_of_idleTime? hi]
      by_cases ht : t < 0 <;> simp [NodeActivity.IdleFault, hi, ht, eq_comm]

theorem forall₂_of_allFigures? {as : Activities} {fs : List NodeFigures}
    (h : as.allFigures? = .ok fs) : List.Forall₂ (fun p f => figures? p.1 p.2 = .ok f) as fs := by
  induction as generalizing fs with
  | nil =>
    cases h
    exact .nil
  | cons p as ih =>
    cases hp : figures? p.1 p.2 with
    | error e => simp [allFigures?, hp, bind, Except.bind] at h
    | ok f =>
      cases hs : allFigures? as with
      | error e => simp [allFigures?, hp, hs, bind, Except.bind] at h
      | ok gs =>
        obtain rfl : f :: gs = fs := by
          simpa [allFigures?, hp, hs, bind, Except.bind, pure, Except.pure] using h
        exact .cons hp (ih hs)

theorem least_of_allFigures? {as : Activities} {e : ActivityError} (h : as.allFigures? = .error e) :
    ∃ front p back, as = front ++ p :: back ∧ figures? p.1 p.2 = .error e ∧
      ∀ q ∈ front, ∃ f, figures? q.1 q.2 = .ok f := by
  induction as with
  | nil => cases h
  | cons p as ih =>
    cases hp : figures? p.1 p.2 with
    | error e' =>
      obtain rfl : e' = e := by simpa [allFigures?, hp, bind, Except.bind] using h
      exact ⟨[], p, as, rfl, hp, by simp⟩
    | ok f =>
      cases hs : allFigures? as with
      | error e' =>
        obtain rfl : e' = e := by simpa [allFigures?, hp, hs, bind, Except.bind] using h
        obtain ⟨front, q, back, rfl, hq, hfront⟩ := ih hs
        refine ⟨p :: front, q, back, rfl, hq, List.forall_mem_cons.2 ⟨⟨f, hp⟩, hfront⟩⟩
      | ok gs => simp [allFigures?, hp, hs, bind, Except.bind, pure, Except.pure] at h

end Activities

end RateSweep
