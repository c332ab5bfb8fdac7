import RateSweep.Proofs.ActiveWindow
import RateSweep.Proofs.NodeIndependence

namespace RateSweep

structure SumsFit (start : Int) (rs : List ClusterRecord) : Prop where
  busy : Nanos.InRange (busyTime rs)
  finish : Nanos.InRange (endMarker rs)
  window : Nanos.InRange (endMarker rs - start)
  idle : Nanos.InRange (endMarker rs - start - busyTime rs)

def ShowsIdleTime (e : Experiment) (rows : List (Row × ClusterRecord)) (node : UInt32)
    (idle : Int) : Prop :=
  ∃ f t, (FileFold.ofCluster e ⟨rows, none⟩).result = .ok (.summary (.cluster ⟨e, [f]⟩)) ∧
    f.node = node ∧ f.idleTime = some t ∧ 0 ≤ t ∧ t.toInt = idle

theorem exists_run? {a : NodeActivity} {rs : List ClusterRecord}
    (hd : ∀ r ∈ rs, 0 ≤ r.duration.toInt)
    (hs : rs.Pairwise fun r s => r.finish ≤ s.timestamp.toInt)
    (hl : ∀ t ∈ a.latest, ∀ r ∈ rs, t ≤ r.timestamp) (hb : 0 ≤ a.busy.toInt)
    (hr : Nanos.InRange (a.busy.toInt + busyTime rs)) : ∃ b, a.run? rs = .ok b := by
  induction rs generalizing a with
  | nil => exact ⟨a, rfl⟩
  | cons r rs ih =>
    obtain ⟨hdr, hdrs⟩ := List.forall_mem_cons.1 hd
    obtain ⟨hsr, hsrs⟩ := List.pairwise_cons.1 hs
    have hrest := busyTime_nonneg hdrs
    rw [busyTime_cons] at hr
    have hrange := Nanos.inRange_iff.1 hr
    obtain ⟨c, hc⟩ : ∃ c, a.apply r = (c, none) := by
      apply NodeActivity.exists_apply (fun t ht => hl t ht r (by simp))
      apply Nanos.inRange_iff.2
      by_cases hl : r.event.isLifecycle
      · simp only [hl, if_true] at hrange ⊢
        omega
      · simp only [hl] at hrange ⊢
        omega
    have happ := NodeActivity.applied_of_apply hc
    have hbusy := happ.busy
    have hcb : 0 ≤ c.busy.toInt := by
      rw [hbusy]
      split <;> omega
    obtain ⟨b, hb⟩ := ih (a := c) hdrs hsrs (fun t ht s hs => by
      obtain rfl : r.timestamp = t := by simpa [happ.latest] using ht
      have hrs := hsr s hs
      simp only [ClusterRecord.finish] at hrs
      exact Int64.le_iff_toInt_le.2 (by omega)) hcb (by rwa [hbusy, Int.add_assoc])
    exact ⟨b, by rw [NodeActivity.run?, hc]; exact hb⟩

theorem endMarker_of_run? {a : NodeActivity} {rs : List ClusterRecord}
    (ha : NodeActivity.blank.run? rs = .ok a) :
    a.lastStart.toInt + a.lastDuration.toInt = endMarker rs := by
  have hlast := NodeActivity.last_of_run? ha
  rw [endMarker, workEnd?]
  cases hw : (workOf rs).getLast? with
  | none =>
    obtain ⟨h1, h2⟩ := Prod.mk.inj (by simpa [hw, NodeActivity.blank] using hlast :
      (a.lastStart, a.lastDuration) = (0, 0))
    simp [h1, h2]
  | some r =>
    obtain ⟨h1, h2⟩ := Prod.mk.inj (by simpa [hw] using hlast :
      (a.lastStart, a.lastDuration) = (r.timestamp, r.duration))
    simp [h1, h2, ClusterRecord.finish]

namespace Sequential

variable {node : UInt32} {rs : List ClusterRecord} (h : Sequential node rs)

include h

theorem exists_figure {peer : String} {start : Nanos} (hc : firstContact rs = some (peer, start))
    (hf : SumsFit start.toInt rs) :
    ∃ a t, NodeActivity.blank.run? rs = .ok a ∧ a.idleTime? node = .ok (some t) ∧
      t.toInt = endMarker rs - start.toInt - busyTime rs := by
  obtain ⟨a, ha⟩ := exists_run? (a := NodeActivity.blank) h.nonneg h.pairwise
    (by simp [NodeActivity.blank]) le_rfl (by simpa [NodeActivity.blank] using hf.busy)
  have hbusy : a.busy.toInt = busyTime rs := by
    simpa [NodeActivity.blank] using NodeActivity.busy_of_run? ha
  have hcontact : a.contact = some (peer, start) := by
    simpa [NodeActivity.blank, hc] using NodeActivity.contact_of_run? ha
  have hend := endMarker_of_run? ha
  obtain ⟨t, ht, hte⟩ := NodeActivity.exists_idleTime? node hcontact (hend ▸ hf.finish)
    (hend ▸ hf.window) (by rw [hend, hbusy]; exact hf.idle)
  exact ⟨a, t, ha, ht, by rw [hte, hend, hbusy]⟩

theorem recordsOf_eq : recordsOf node rs = rs :=
  List.filter_eq_self.2 fun r hr => by simpa using h.node r hr

theorem mem_ids_iff (hne : rs ≠ []) (n : UInt32) :
    n ∈ rs.map ClusterRecord.node ↔ n = node := by
  constructor
  · intro hn
    obtain ⟨r, hr, rfl⟩ := List.mem_map.1 hn
    exact h.node r hr
  · rintro rfl
    rw [← recordsOf_ne_nil_iff, h.recordsOf_eq]
    exact hne

theorem eq_singleton_of_showsNodes (hne : rs ≠ []) {nodes : List NodeFigures}
    (hshow : ShowsNodes rs nodes) : ∃ f, nodes = [f] ∧ f.node = node := by
  obtain ⟨hasc, hids, -⟩ := hshow
  have hnode : ∀ f ∈ nodes, f.node = node := fun f hf =>
    (h.mem_ids_iff hne f.node).1 ((hids f.node).1 (List.mem_map_of_mem hf))
  match nodes with
  | [] => exact absurd ((hids node).2 ((h.mem_ids_iff hne node).2 rfl)) (by simp)
  | [f] => exact ⟨f, rfl, hnode f (by simp)⟩
  | f :: g :: _ =>
    have hlt : f.node < g.node := (List.pairwise_cons.1 hasc).1 g (by simp)
    rw [hnode f (by simp), hnode g (by simp)] at hlt
    exact absurd hlt (UInt32.lt_irrefl node)

end Sequential

theorem result_of_run? (e : Experiment) {rows : List (Row × ClusterRecord)}
    {rs : List ClusterRecord} {node : UInt32} {a : NodeActivity} {t : Nanos}
    (hrows : rows.map Prod.snd = rs) (hs : Sequential node rs) (hne : rs ≠ [])
    (ha : NodeActivity.blank.run? rs = .ok a) (ht : a.idleTime? node = .ok (some t)) :
    (0 ≤ t ∧ ∃ f, (FileFold.ofCluster e ⟨rows, none⟩).result = .ok (.summary (.cluster ⟨e, [f]⟩)) ∧
        f.node = node ∧ f.idleTime = some t) ∨
      t < 0 ∧ (FileFold.ofCluster e ⟨rows, none⟩).result =
        .error (.activity (.negativeIdleTime node t)) := by
  have hown := hs.recordsOf_eq
  have hid := hs.mem_ids_iff hne
  have hcases := result_ofCluster_cases e rows
  rw [hrows] at hcases
  rcases hcases with ⟨nodes, hr, hshow, hsound⟩ | ⟨err, hr, hwhy, -⟩
  · left
    obtain ⟨b, idle, hb, hidle, hpos⟩ := hsound node ((hid node).2 rfl)
    rw [hown, ha] at hb
    obtain rfl : a = b := Except.ok.inj hb
    obtain rfl : some t = idle := Except.ok.inj (ht.symm.trans hidle)
    obtain ⟨f, rfl, hfn⟩ := hs.eq_singleton_of_showsNodes hne hshow
    obtain ⟨b, hb, hfi, -⟩ := hshow.2.2 f (by simp)
    rw [hfn, hown, ha] at hb
    obtain rfl : a = b := Except.ok.inj hb
    rw [hfn, ht] at hfi
    exact ⟨hpos t rfl, f, hr, hfn, (Except.ok.inj hfi).symm⟩
  · right
    rcases hwhy with hrefused | ⟨-, n, hn, ⟨b, hb, hfault⟩, -⟩
    · -- no record is refused, since all of them apply
      obtain ⟨n, hn, herr⟩ := run?_of_firstRefused hrefused
      rw [(hid n).1 hn, hown, ha] at herr
      cases herr
    · obtain rfl := (hid n).1 hn
      rw [hown, ha] at hb
      obtain rfl : a = b := Except.ok.inj hb
      rcases hfault with ⟨herr, -⟩ | ⟨t', ht', hneg, rfl⟩
      · rw [ht] at herr
        cases herr
      · obtain rfl : t = t' := Option.some.inj (Except.ok.inj (ht.symm.trans ht'))
        exact ⟨hneg, hr⟩

theorem showsIdleTime_uncovered_iff (e : Experiment) {rows : List (Row × ClusterRecord)}
    {rs : List ClusterRecord} {node : UInt32} {peer : String} {start : Nanos}
    (hrows : rows.map Prod.snd = rs) (hs : Sequential node rs)
    (hc : firstContact rs = some (peer, start)) (hf : SumsFit start.toInt rs) :
    0 ≤ uncovered start.toInt rs ∧
      (ShowsIdleTime e rows node (uncovered start.toInt rs) ↔
        busyTime (beforeContact rs) = 0 ∧
          (workOf (sinceContact rs) ≠ [] ∨ endMarker rs = start.toInt)) ∧
      (shortfall start.toInt rs ≤ uncovered start.toInt rs →
        ShowsIdleTime e rows node (uncovered start.toInt rs - shortfall start.toInt rs)) ∧
      (uncovered start.toInt rs < shortfall start.toInt rs →
        ∃ t, t.toInt = uncovered start.toInt rs - shortfall start.toInt rs ∧
          (FileFold.ofCluster e ⟨rows, none⟩).result =
            .error (.activity (.negativeIdleTime node t))) := by
  obtain ⟨a, t, ha, ht, hidle⟩ := hs.exists_figure hc hf
  have hnonneg := uncovered_nonneg hs hc
  have hne : rs ≠ [] := by
    rintro rfl
    cases hc
  have hzero : (0 : Nanos).toInt = 0 := rfl
  rw [idle_eq_uncovered_sub_shortfall hs hc] at hidle
  rw [← shortfall_eq_zero_iff hs hc]
  rcases result_of_run? e hrows hs hne ha ht with ⟨hpos, f, hr, hfn, hfi⟩ | ⟨hneg, hr⟩
  · have hle := Int64.le_iff_toInt_le.1 hpos
    refine ⟨hnonneg, ⟨?_, fun hs => ⟨f, t, hr, hfn, hfi, hpos, by omega⟩⟩,
      fun _ => ⟨f, t, hr, hfn, hfi, hpos, hidle⟩, fun hlt => by omega⟩
    rintro ⟨g, t', hr', -, hgi, -, hte⟩
    cases hr.symm.trans hr'
    obtain rfl : t = t' := Option.some.inj (hfi.symm.trans hgi)
    omega
  · have hlt := Int64.lt_iff_toInt_lt.1 hneg
    refine ⟨hnonneg, ⟨?_, fun hs => by omega⟩, fun hle => by omega, fun _ => ⟨t, hidle, hr⟩⟩
    rintro ⟨g, t', hr', -⟩
    cases hr.symm.trans hr'

def earlyCheck : List (Row × ClusterRecord) :=
  [(⟨2, ["1", "1", "healthcheck", "", "0", "50", "0"]⟩,
      ⟨1, 1, .healthCheck, none, 0, 50, 0, none⟩),
    (⟨3, ["1", "1", "healthcheck", "lb", "60", "1", "0"]⟩,
      ⟨1, 1, .healthCheck, some "lb", 60, 1, 0, none⟩)]

theorem sequential_earlyCheck : Sequential 1 (earlyCheck.map Prod.snd) where
  node := by decide
  nonneg := by decide
  chain := by
    rw [earlyCheck, List.map_cons, List.map_cons, List.map_nil, List.isChain_pair]
    decide

theorem sumsFit_earlyCheck : SumsFit 60 (earlyCheck.map Prod.snd) where
  busy := by decide
  finish := by decide
  window := by decide
  idle := by decide

def smallRun : Experiment := ⟨.roundRobin, 0, true, 20, .small, 10⟩

theorem showsIdleTime_uncovered_iff_earlyCheck :
    Sequential 1 (earlyCheck.map Prod.snd) ∧ SumsFit 60 (earlyCheck.map Prod.snd) ∧
      firstContact (earlyCheck.map Prod.snd) = some ("lb", 60) ∧
      (FileFold.ofCluster smallRun ⟨earlyCheck, none⟩).result =
        .error (.activity (.negativeIdleTime 1 (-50))) := by
  have hcontact : firstContact (earlyCheck.map Prod.snd) = some ("lb", 60) := by decide
  obtain ⟨-, -, -, hfault⟩ := showsIdleTime_uncovered_iff smallRun rfl sequential_earlyCheck
    hcontact sumsFit_earlyCheck
  obtain ⟨t, ht, hr⟩ := hfault (by decide)
  have hidle : t = -50 := Int64.toInt_inj.1 (ht.trans (by decide))
  exact ⟨sequential_earlyCheck, sumsFit_earlyCheck, hcontact, hidle ▸ hr⟩

theorem not_showsIdleTime_uncovered : ¬ ∀ (e : Experiment) (rows : List (Row × ClusterRecord))
    (node : UInt32) (peer : String) (start : Nanos), Sequential node (rows.map Prod.snd) →
      firstContact (rows.map Prod.snd) = some (peer, start) →
      SumsFit start.toInt (rows.map Prod.snd) →
      ShowsIdleTime e rows node (uncovered start.toInt (rows.map Prod.snd)) := by
  intro h
  obtain ⟨f, t, hr, -⟩ := h smallRun earlyCheck 1 "lb" 60 sequential_earlyCheck (by decide)
    sumsFit_earlyCheck
  have hfault : (FileFold.ofCluster smallRun ⟨earlyCheck, none⟩).result =
      .error (.activity (.negativeIdleTime 1 (-50))) := rfl
  cases hfault.symm.trans hr

end RateSweep
