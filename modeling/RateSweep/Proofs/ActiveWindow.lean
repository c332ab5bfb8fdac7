import RateSweep.Proofs.NodeRun

/-!
The active window of a node whose records do not overlap. It runs from the first contact to the end
of the last work. What is reported as idle is short of the part of the window that no work covers by
the work done before the contact and, where no work follows the contact, by the time from the end
marker to it.
-/

namespace RateSweep

namespace ClusterRecord

def finish (r : ClusterRecord) : Int := r.timestamp.toInt + r.duration.toInt

def within (r : ClusterRecord) (a b : Int) : Int :=
  max 0 (min r.finish b - max r.timestamp.toInt a)

end ClusterRecord

structure Sequential (node : UInt32) (rs : List ClusterRecord) : Prop where
  node : ∀ r ∈ rs, r.node = node
  nonneg : ∀ r ∈ rs, 0 ≤ r.duration.toInt
  chain : rs.IsChain fun r s => r.finish ≤ s.timestamp.toInt

def workEnd? (rs : List ClusterRecord) : Option Int := (workOf rs).getLast?.map ClusterRecord.finish

/-- Where the window closes in the sums that are made; without any work that is at zero. -/
def endMarker (rs : List ClusterRecord) : Int := (workEnd? rs).getD 0

def uncovered (start : Int) (rs : List ClusterRecord) : Int :=
  match workEnd? rs with
  | none => 0
  | some finish => max 0 (finish - start) - ((workOf rs).map (·.within start finish)).sum

def beforeContact (rs : List ClusterRecord) : List ClusterRecord := rs.takeWhile (·.peer.isNone)

def sinceContact (rs : List ClusterRecord) : List ClusterRecord := rs.dropWhile (·.peer.isNone)

/-- Work that is taken off a window it does not lie in. -/
def shortfall (start : Int) (rs : List ClusterRecord) : Int :=
  busyTime (beforeContact rs) +
    if (workOf (sinceContact rs)).isEmpty then start - endMarker rs else 0

theorem split_at_contact {rs : List ClusterRecord} {peer : String} {start : Nanos}
    (h : firstContact rs = some (peer, start)) :
    ∃ c back, sinceContact rs = c :: back ∧ c.timestamp = start := by
  obtain ⟨front, c, back, rfl, hc, hfront⟩ := List.findSome?_eq_some_iff.1 h
  obtain ⟨p, hp, he⟩ := Option.map_eq_some_iff.1 hc
  have hnone : ∀ r ∈ front, r.peer.isNone = true := fun r hr => by simpa using hfront r hr
  refine ⟨c, back, ?_, (Prod.mk.inj he).2⟩
  rw [sinceContact, List.dropWhile_append_of_pos hnone, List.dropWhile_cons_of_neg (by simp [hp])]

theorem mem_of_mem_workOf {rs : List ClusterRecord} {r : ClusterRecord} (h : r ∈ workOf rs) :
    r ∈ rs :=
  (List.mem_filter.1 h).1

theorem busyTime_nonneg {rs : List ClusterRecord} (h : ∀ r ∈ rs, 0 ≤ r.duration.toInt) :
    0 ≤ busyTime rs := by
  induction rs with
  | nil => simp [busyTime, workOf]
  | cons r rs ih =>
    obtain ⟨hr, hrs⟩ := List.forall_mem_cons.1 h
    have hrest := ih hrs
    rw [busyTime_cons]
    split <;> omega

theorem pairwise_of_isChain {rs : List ClusterRecord} (hd : ∀ r ∈ rs, 0 ≤ r.duration.toInt)
    (hc : rs.IsChain fun r s => r.finish ≤ s.timestamp.toInt) :
    rs.Pairwise fun r s => r.finish ≤ s.timestamp.toInt := by
  induction rs with
  | nil => exact .nil
  | cons r rs ih =>
    obtain ⟨_, hrs⟩ := List.forall_mem_cons.1 hd
    have hp := ih hrs hc.tail
    refine List.pairwise_cons.2 ⟨fun u hu => ?_, hp⟩
    cases rs with
    | nil => cases hu
    | cons s rs =>
      -- `r` ends before `s` starts, `s` does not end before it starts, and `u` starts after that
      have hrs' : r.finish ≤ s.timestamp.toInt := (List.isChain_cons_cons.1 hc).1
      rcases List.mem_cons.1 hu with rfl | hu
      · exact hrs'
      · have hsu := (List.pairwise_cons.1 hp).1 u hu
        have hs := hrs s (by simp)
        simp only [ClusterRecord.finish] at hrs' hsu ⊢
        omega

theorem busyTime_le_of_pairwise {start : Int} {ws : List ClusterRecord}
    (hs : ws.Pairwise fun r s => r.finish ≤ s.timestamp.toInt)
    (hstart : ∀ r ∈ ws, start ≤ r.timestamp.toInt) {last : ClusterRecord}
    (hl : ws.getLast? = some last) :
    (ws.map (·.duration.toInt)).sum ≤ last.finish - start := by
  induction ws generalizing start with
  | nil => cases hl
  | cons w ws ih =>
    obtain ⟨hw, hws⟩ := List.pairwise_cons.1 hs
    have hstartw := hstart w (by simp)
    rw [List.map_cons, List.sum_cons]
    cases ws with
    | nil =>
      obtain rfl : w = last := by simpa using hl
      simp only [List.map_nil, List.sum_nil, ClusterRecord.finish]
      omega
    | cons v ws =>
      have hrest : ((v :: ws).map (·.duration.toInt)).sum ≤ last.finish - w.finish :=
        ih hws hw (by simpa using hl)
      have hfin : w.finish = w.timestamp.toInt + w.duration.toInt := rfl
      omega

namespace Sequential

variable {node : UInt32} {rs : List ClusterRecord} (h : Sequential node rs)

include h

theorem pairwise : rs.Pairwise fun r s => r.finish ≤ s.timestamp.toInt :=
  pairwise_of_isChain h.nonneg h.chain

theorem finish_le_workEnd {finish : Int} (he : workEnd? rs = some finish) {r : ClusterRecord}
    (hr : r ∈ workOf rs) : r.finish ≤ finish := by
  obtain ⟨last, hlast, rfl⟩ := Option.map_eq_some_iff.1 he
  obtain ⟨init, hinit⟩ := List.getLast?_eq_some_iff.1 hlast
  have hws : (workOf rs).Pairwise fun r s => r.finish ≤ s.timestamp.toInt :=
    h.pairwise.sublist List.filter_sublist
  have hdl := h.nonneg last (mem_of_mem_workOf (List.mem_of_getLast? hlast))
  rw [hinit] at hr hws
  rcases List.mem_append.1 hr with hr | hr
  · have hrl := (List.pairwise_append.1 hws).2.2 r hr last (by simp)
    simp only [ClusterRecord.finish] at hrl ⊢
    omega
  · obtain rfl := List.mem_singleton.1 hr
    exact le_rfl

end Sequential

theorem append_at_contact (rs : List ClusterRecord) : beforeContact rs ++ sinceContact rs = rs :=
  List.takeWhile_append_dropWhile

theorem mem_of_mem_sinceContact {rs : List ClusterRecord} {r : ClusterRecord}
    (h : r ∈ sinceContact rs) : r ∈ rs := by
  rw [← append_at_contact rs]
  exact List.mem_append_right _ h

theorem workOf_at_contact (rs : List ClusterRecord) :
    workOf rs = workOf (beforeContact rs) ++ workOf (sinceContact rs) := by
  rw [← workOf_append, append_at_contact]

theorem busyTime_at_contact (rs : List ClusterRecord) :
    busyTime rs = busyTime (beforeContact rs) + busyTime (sinceContact rs) := by
  rw [← busyTime_append, append_at_contact]

section Window

variable {node : UInt32} {rs : List ClusterRecord} {peer : String} {start : Nanos}
  (h : Sequential node rs) (hc : firstContact rs = some (peer, start))

include h hc

theorem finish_le_contact {r : ClusterRecord} (hr : r ∈ beforeContact rs) :
    r.finish ≤ start.toInt := by
  obtain ⟨c, back, hback, hstart⟩ := split_at_contact hc
  have hs := h.pairwise
  rw [← append_at_contact rs, hback] at hs
  rw [← hstart]
  exact (List.pairwise_append.1 hs).2.2 r hr c (by simp)

theorem contact_le_timestamp {r : ClusterRecord} (hr : r ∈ sinceContact rs) :
    start.toInt ≤ r.timestamp.toInt := by
  obtain ⟨c, back, hback, hstart⟩ := split_at_contact hc
  have hs := h.pairwise
  have hdc := h.nonneg c (mem_of_mem_sinceContact (hback ▸ List.mem_cons_self))
  rw [← append_at_contact rs, hback] at hs
  rw [hback] at hr
  rcases List.mem_cons.1 hr with rfl | hr
  · rw [hstart]
  · have hcr := (List.pairwise_cons.1 (List.pairwise_append.1 hs).2.1).1 r hr
    simp only [ClusterRecord.finish, hstart] at hcr
    omega

theorem sum_within {finish : Int} (he : workEnd? rs = some finish) :
    ((workOf rs).map (·.within start.toInt finish)).sum = busyTime (sinceContact rs) := by
  have hout : ∀ r ∈ workOf (beforeContact rs), r.within start.toInt finish = 0 := by
    intro r hr
    have hle := finish_le_contact h hc (mem_of_mem_workOf hr)
    simp only [ClusterRecord.within]
    omega
  have hin : ∀ r ∈ workOf (sinceContact rs),
      r.within start.toInt finish = r.duration.toInt := by
    intro r hr
    have hle := contact_le_timestamp h hc (mem_of_mem_workOf hr)
    have hdur := h.nonneg r (mem_of_mem_sinceContact (mem_of_mem_workOf hr))
    have hend := h.finish_le_workEnd he (r := r)
      (by rw [workOf_at_contact]; exact List.mem_append_right _ hr)
    simp only [ClusterRecord.within, ClusterRecord.finish] at hend ⊢
    omega
  rw [workOf_at_contact, List.map_append, List.sum_append, List.map_congr_left hout,
    List.map_congr_left hin]
  simp [busyTime]

theorem uncovered_of_work (hw : workOf (sinceContact rs) ≠ []) :
    uncovered start.toInt rs = endMarker rs - start.toInt - busyTime (sinceContact rs) ∧
      0 ≤ uncovered start.toInt rs := by
  obtain ⟨last, hlast⟩ : ∃ last, (workOf (sinceContact rs)).getLast? = some last :=
    ⟨_, List.getLast?_eq_some_getLast hw⟩
  have he : workEnd? rs = some last.finish := by
    rw [workEnd?, workOf_at_contact, List.getLast?_append_of_ne_nil _ hw, hlast]
    rfl
  have hws : (workOf (sinceContact rs)).Pairwise fun r s => r.finish ≤ s.timestamp.toInt :=
    h.pairwise.sublist (List.filter_sublist.trans (List.dropWhile_sublist _))
  have hbusy : busyTime (sinceContact rs) ≤ last.finish - start.toInt :=
    busyTime_le_of_pairwise hws
      (fun r hr => contact_le_timestamp h hc (mem_of_mem_workOf hr)) hlast
  have hpos : 0 ≤ busyTime (sinceContact rs) :=
    busyTime_nonneg fun r hr => h.nonneg r (mem_of_mem_sinceContact hr)
  simp only [uncovered, endMarker, he, Option.getD_some, sum_within h hc he]
  omega

theorem uncovered_of_no_work (hw : workOf (sinceContact rs) = []) :
    uncovered start.toInt rs = 0 ∧
      (busyTime (beforeContact rs) = 0 ∨ endMarker rs ≤ start.toInt) := by
  have hrs : workOf rs = workOf (beforeContact rs) := by
    rw [workOf_at_contact, hw, List.append_nil]
  cases hlast : (workOf (beforeContact rs)).getLast? with
  | none =>
    have hnil := List.getLast?_eq_none_iff.1 hlast
    have he : workEnd? rs = none := by rw [workEnd?, hrs, hlast]; rfl
    simp [uncovered, he, busyTime, hnil]
  | some last =>
    -- the window closes before it opens, and no work lies in it
    have he : workEnd? rs = some last.finish := by rw [workEnd?, hrs, hlast]; rfl
    have hle := finish_le_contact h hc (mem_of_mem_workOf (List.mem_of_getLast? hlast))
    have hzero : busyTime (sinceContact rs) = 0 := by simp [busyTime, hw]
    simp only [uncovered, endMarker, he, Option.getD_some, sum_within h hc he, hzero]
    omega

theorem idle_eq_uncovered_sub_shortfall :
    endMarker rs - start.toInt - busyTime rs =
      uncovered start.toInt rs - shortfall start.toInt rs := by
  have hbusy := busyTime_at_contact rs
  by_cases hw : workOf (sinceContact rs) = []
  · have hzero : busyTime (sinceContact rs) = 0 := by simp [busyTime, hw]
    obtain ⟨hu, -⟩ := uncovered_of_no_work h hc hw
    simp only [shortfall, hw, List.isEmpty_nil, if_true]
    omega
  · obtain ⟨hu, -⟩ := uncovered_of_work h hc hw
    simp only [shortfall, List.isEmpty_iff, hw, if_false]
    omega

theorem uncovered_nonneg : 0 ≤ uncovered start.toInt rs := by
  by_cases hw : workOf (sinceContact rs) = []
  · exact (uncovered_of_no_work h hc hw).1.ge
  · exact (uncovered_of_work h hc hw).2

theorem shortfall_eq_zero_iff : shortfall start.toInt rs = 0 ↔
    busyTime (beforeContact rs) = 0 ∧
      (workOf (sinceContact rs) ≠ [] ∨ endMarker rs = start.toInt) := by
  by_cases hw : workOf (sinceContact rs) = []
  · have hpos : 0 ≤ busyTime (beforeContact rs) := busyTime_nonneg fun r hr => by
      apply h.nonneg r
      rw [← append_at_contact rs]
      exact List.mem_append_left _ hr
    obtain ⟨-, hor⟩ := uncovered_of_no_work h hc hw
    simp only [shortfall, hw, List.isEmpty_nil, if_true, ne_eq, not_true_eq_false, false_or]
    omega
  · simp [shortfall, hw]

end Window

end RateSweep
