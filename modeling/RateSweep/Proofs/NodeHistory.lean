import RateSweep.Proofs.NodeRun

namespace RateSweep

def ActivityError.isOutOfOrder : ActivityError → Bool
  | outOfOrder _ _ _ => true
  | _ => false

def ActivityError.isOverflow : ActivityError → Bool
  | overflow _ => true
  | _ => false

def ClusterRecord.Precedes (r : ClusterRecord) (rs : List ClusterRecord) : Prop :=
  ∃ p ∈ rs.getLast?, r.timestamp < p.timestamp

def transfersOf (rs : List ClusterRecord) : List ClusterRecord := rs.filter (·.event = .fileTransfer)

namespace NodeActivity

theorem apply_cases (a : NodeActivity) (r : ClusterRecord) :
    (∃ previous, a.latest = some previous ∧ r.timestamp < previous ∧
      a.apply r = (a, some (.outOfOrder r.node previous r.timestamp))) ∨
    ((∀ t ∈ a.latest, t ≤ r.timestamp) ∧ r.event.isLifecycle = false ∧
      ¬ Nanos.InRange (a.busy.toInt + r.duration.toInt) ∧
      a.apply r = ({ a with
        latest := some r.timestamp, lastStart := r.timestamp, lastDuration := r.duration },
        some (.overflow r.node))) ∨
    ∃ b, a.apply r = (b, none) ∧ Applied a r b := by
  cases ho : a.precedes r with
  | some previous =>
    obtain ⟨hlatest, hlt⟩ := Option.filter_eq_some_iff.1 ho
    exact .inl ⟨previous, hlatest, of_decide_eq_true hlt, by simp [apply, ho]⟩
  | none =>
    have horder := (precedes_eq_none_iff a r).1 ho
    cases hb : a.busyAfter? r with
    | some busy =>
      have happly := apply_eq_of_busyAfter? horder hb
      exact .inr (.inr ⟨_, happly, applied_of_apply happly⟩)
    | none =>
      unfold busyAfter? at hb
      split at hb
      · cases hb
      · next hl =>
        have hl : r.event.isLifecycle = false := Bool.eq_false_iff.2 hl
        refine .inr (.inl ⟨horder, hl, Nanos.ofInt?_eq_none_iff.1 hb, ?_⟩)
        simp [apply, ho, busyAfter?, hl, hb, mark]

end NodeActivity

/-- Records in the order in which they were tried, with what was wrong with each, and the activity
behind them. -/
structure NodeHistory where
  activity : NodeActivity
  trials : List (ClusterRecord × Option ActivityError)

namespace NodeHistory

def empty : NodeHistory := ⟨.blank, []⟩

def add (h : NodeHistory) (r : ClusterRecord) : NodeHistory :=
  ⟨(h.activity.apply r).1, h.trials ++ [(r, (h.activity.apply r).2)]⟩

def ofRecords (rs : List ClusterRecord) : NodeHistory := rs.foldl add empty

def inOrder (h : NodeHistory) : List ClusterRecord :=
  (h.trials.filter fun t => t.2.all (!·.isOutOfOrder)).map Prod.fst

def counted (h : NodeHistory) : List ClusterRecord :=
  (h.trials.filter fun t => t.2.all fun e => !e.isOutOfOrder && !e.isOverflow).map Prod.fst

structure Marks (rs : List ClusterRecord) (a : NodeActivity) : Prop where
  ascending : (rs.map (·.timestamp)).Pairwise (· ≤ ·)
  latest : a.latest = rs.getLast?.map (·.timestamp)
  endMarkers : (a.lastStart, a.lastDuration) =
    ((workOf rs).getLast?.map fun r => (r.timestamp, r.duration)).getD (0, 0)

structure Sums (rs : List ClusterRecord) (a : NodeActivity) : Prop where
  contact : a.contact = firstContact rs
  busy : a.busy.toInt = busyTime rs
  transfers : a.transfers = (transfersOf rs).length
  overhead : a.overhead = (transfersOf rs).getLast?.map (·.overhead)

structure Tracked (h : NodeHistory) : Prop where
  marks : Marks h.inOrder h.activity
  sums : Sums h.counted h.activity

/-- All that one more record does. One out of order leaves the activity as it was, and one that
overflows moves the end markers and the latest time alone. -/
structure Takes (h : NodeHistory) (r : ClusterRecord) (fault : Option ActivityError)
    (h' : NodeHistory) : Prop where
  trials : h'.trials = h.trials ++ [(r, fault)]
  outOfOrder_iff : (∃ e ∈ fault, e.isOutOfOrder) ↔ r.Precedes h.inOrder
  overflow_iff : (∃ e ∈ fault, e.isOverflow) ↔ ¬ r.Precedes h.inOrder ∧
    r.event.isLifecycle = false ∧ ¬ Nanos.InRange (busyTime h.counted + r.duration.toInt)
  refused : ∀ e ∈ fault,
    (∃ p ∈ h.inOrder.getLast?, e = .outOfOrder r.node p.timestamp r.timestamp) ∧
        h'.activity = h.activity ∨
      e = .overflow r.node ∧ h'.activity = { h.activity with
        latest := some r.timestamp, lastStart := r.timestamp, lastDuration := r.duration }
  contact_kept : ∀ c ∈ h.activity.contact, h'.activity.contact = some c

section Records

variable {rs : List ClusterRecord} {a b : NodeActivity} {r : ClusterRecord}

theorem Marks.not_precedes_iff (hm : Marks rs a) :
    ¬ r.Precedes rs ↔ ∀ t ∈ a.latest, t ≤ r.timestamp := by
  rw [hm.latest]
  simp [ClusterRecord.Precedes]

theorem Marks.concat (hm : Marks rs a) (horder : ∀ t ∈ a.latest, t ≤ r.timestamp)
    (hlatest : b.latest = some r.timestamp)
    (hstart : b.lastStart = if r.event.isLifecycle then a.lastStart else r.timestamp)
    (hduration : b.lastDuration = if r.event.isLifecycle then a.lastDuration else r.duration) :
    Marks (rs ++ [r]) b where
  ascending := by
    have hrs := hm.ascending
    rw [← List.isChain_iff_pairwise] at hrs ⊢
    rw [List.map_append, List.isChain_append]
    refine ⟨hrs, List.isChain_singleton _, fun t ht s hs => ?_⟩
    obtain rfl : r.timestamp = s := by simpa using hs
    rw [List.getLast?_map, ← hm.latest] at ht
    exact horder t ht
  latest := by simp [hlatest]
  endMarkers := by
    have hbefore := hm.endMarkers
    rw [hstart, hduration, workOf_append]
    by_cases hl : r.event.isLifecycle
    · simpa [hl, workOf] using hbefore
    · simp [hl, workOf]

theorem Sums.concat (hs : Sums rs a) (happlied : NodeActivity.Applied a r b) :
    Sums (rs ++ [r]) b where
  contact := by
    rw [happlied.contact, hs.contact, firstContact, firstContact, List.findSome?_append]
    cases rs.findSome? _ <;> simp
  busy := by
    rw [happlied.busy, hs.busy, busyTime_append, busyTime_cons]
    simp [busyTime, workOf]
  transfers := by
    rw [happlied.transfers, hs.transfers, transfersOf, transfersOf, List.filter_append]
    by_cases ht : r.event = .fileTransfer <;> simp [ht]
  overhead := by
    rw [happlied.overhead, hs.overhead, transfersOf, transfersOf, List.filter_append]
    by_cases ht : r.event = .fileTransfer <;> simp [ht]

end Records

section Add

variable {h : NodeHistory}

theorem inOrder_add (h : NodeHistory) (r : ClusterRecord) :
    (h.add r).inOrder = h.inOrder ++
      if (h.activity.apply r).2.all (!·.isOutOfOrder) then [r] else [] := by
  rw [inOrder, add, List.filter_append, List.map_append, inOrder]
  split <;> simp_all

theorem counted_add (h : NodeHistory) (r : ClusterRecord) :
    (h.add r).counted = h.counted ++
      if (h.activity.apply r).2.all (fun e => !e.isOutOfOrder && !e.isOverflow) then [r] else [] := by
  rw [counted, add, List.filter_append, List.map_append, counted]
  split <;> simp_all

theorem Tracked.add (ht : h.Tracked) (r : ClusterRecord) : (h.add r).Tracked := by
  rcases h.activity.apply_cases r with
    ⟨previous, -, -, ha⟩ | ⟨horder, hwork, -, ha⟩ | ⟨b, ha, happlied⟩
  · have hin : (h.add r).inOrder = h.inOrder := by
      simp [inOrder_add, ha, ActivityError.isOutOfOrder]
    have hcounted : (h.add r).counted = h.counted := by
      simp [counted_add, ha, ActivityError.isOutOfOrder]
    have hactivity : (h.add r).activity = h.activity := congrArg Prod.fst ha
    exact ⟨by rw [hin, hactivity]; exact ht.marks, by rw [hcounted, hactivity]; exact ht.sums⟩
  · have hin : (h.add r).inOrder = h.inOrder ++ [r] := by
      simp [inOrder_add, ha, ActivityError.isOutOfOrder]
    have hcounted : (h.add r).counted = h.counted := by
      simp [counted_add, ha, ActivityError.isOutOfOrder, ActivityError.isOverflow]
    have hactivity := congrArg Prod.fst ha
    constructor
    · rw [hin, NodeHistory.add, hactivity]
      exact ht.marks.concat horder rfl (by simp [hwork]) (by simp [hwork])
    · rw [hcounted, NodeHistory.add, hactivity]
      exact ⟨ht.sums.contact, ht.sums.busy, ht.sums.transfers, ht.sums.overhead⟩
  · have hin : (h.add r).inOrder = h.inOrder ++ [r] := by simp [inOrder_add, ha]
    have hcounted : (h.add r).counted = h.counted ++ [r] := by simp [counted_add, ha]
    have hactivity : (h.add r).activity = b := congrArg Prod.fst ha
    constructor
    · rw [hin, hactivity]
      exact ht.marks.concat happlied.inOrder happlied.latest happlied.lastStart
        happlied.lastDuration
    · rw [hcounted, hactivity]
      exact ht.sums.concat happlied

theorem tracked_empty : empty.Tracked :=
  ⟨⟨List.Pairwise.nil, rfl, rfl⟩, ⟨rfl, rfl, rfl, rfl⟩⟩

theorem tracked_foldl (ht : h.Tracked) (rs : List ClusterRecord) : (rs.foldl add h).Tracked := by
  induction rs generalizing h with
  | nil => exact ht
  | cons r rs ih => exact ih (ht.add r)

theorem Tracked.takes (ht : h.Tracked) (r : ClusterRecord) :
    h.Takes r (h.activity.apply r).2 (h.add r) := by
  have hinOrder := ht.marks.not_precedes_iff (r := r)
  rcases h.activity.apply_cases r with
    ⟨previous, hprevious, hlt, ha⟩ | ⟨horder, hwork, hfull, ha⟩ | ⟨b, ha, happlied⟩
  · rw [ht.marks.latest] at hprevious
    obtain ⟨p, hp, rfl⟩ := Option.map_eq_some_iff.1 hprevious
    have hbefore : r.Precedes h.inOrder := ⟨p, hp, hlt⟩
    rw [NodeHistory.add, ha]
    constructor
    · rfl
    · simp [ActivityError.isOutOfOrder, hbefore]
    · simp [ActivityError.isOverflow, hbefore]
    · rintro e he
      obtain rfl := Option.some.inj he
      exact .inl ⟨⟨p, hp, rfl⟩, rfl⟩
    · exact fun c hc => hc
  · have hbefore := hinOrder.2 horder
    rw [ht.sums.busy] at hfull
    rw [NodeHistory.add, ha]
    constructor
    · rfl
    · simp [ActivityError.isOutOfOrder, hbefore]
    · simp [ActivityError.isOverflow, hbefore, hwork, hfull]
    · rintro e he
      obtain rfl := Option.some.inj he
      exact .inr ⟨rfl, rfl⟩
    · exact fun c hc => hc
  · have hbefore := hinOrder.2 happlied.inOrder
    -- the sum of a record that applies is in range, since it is held in the activity
    have hroom := Nanos.inRange_toInt b.busy
    rw [happlied.busy, ht.sums.busy] at hroom
    rw [NodeHistory.add, ha]
    constructor
    · rfl
    · simp [hbefore]
    · by_cases hwork : r.event.isLifecycle = false
      · simp_all
      · simp [hwork]
    · rintro e he
      cases he
    · intro c hc
      rw [happlied.contact, hc]
      rfl

theorem records_foldl (h : NodeHistory) (rs : List ClusterRecord) :
    (rs.foldl add h).trials.map Prod.fst = h.trials.map Prod.fst ++ rs := by
  induction rs generalizing h with
  | nil => simp
  | cons r rs ih => simp [ih, NodeHistory.add]

theorem history_tracked (rs : List ClusterRecord) (r : ClusterRecord) :
    (ofRecords rs).trials.map Prod.fst = rs ∧ (ofRecords rs).Tracked ∧
      (ofRecords rs).Takes r ((ofRecords rs).activity.apply r).2 (ofRecords (rs ++ [r])) := by
  have ht : (ofRecords rs).Tracked := tracked_foldl tracked_empty rs
  have hadd : ofRecords (rs ++ [r]) = (ofRecords rs).add r := by simp [ofRecords]
  rw [hadd]
  exact ⟨records_foldl empty rs, ht, ht.takes r⟩

end Add

end NodeHistory

end RateSweep
