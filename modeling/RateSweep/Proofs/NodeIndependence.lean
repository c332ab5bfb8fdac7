import RateSweep.Proofs.Activities
import RateSweep.Summary.File

namespace RateSweep

variable (node : UInt32) (rs : List ClusterRecord)

def SoundNode : Prop :=
  ∃ a idle, NodeActivity.blank.run? (recordsOf node rs) = .ok a ∧ a.idleTime? node = .ok idle ∧
    ∀ t ∈ idle, 0 ≤ t

def ShowsNodes (nodes : List NodeFigures) : Prop :=
  nodes.Pairwise (·.node < ·.node) ∧
    (∀ node, node ∈ nodes.map NodeFigures.node ↔ node ∈ rs.map ClusterRecord.node) ∧
    ∀ f ∈ nodes, ∃ a, NodeActivity.blank.run? (recordsOf f.node rs) = .ok a ∧
      a.idleTime? f.node = .ok f.idleTime ∧ f.transfers = a.transfers ∧ f.overhead = a.overhead

def AllApply : Prop := ∀ node, ∃ a, NodeActivity.blank.run? (recordsOf node rs) = .ok a

def FirstRefused (e : ActivityError) : Prop :=
  ∃ front r back, rs = front ++ r :: back ∧ AllApply front ∧
    NodeActivity.blank.run? (recordsOf r.node (front ++ [r])) = .error e

def LeastUnsound (e : ActivityError) : Prop :=
  ∃ node ∈ rs.map ClusterRecord.node,
    (∃ a, NodeActivity.blank.run? (recordsOf node rs) = .ok a ∧ a.IdleFault node e) ∧
      ∀ n ∈ rs.map ClusterRecord.node, n < node → SoundNode n rs

variable {node rs}

theorem soundNode_of_figures? {a : NodeActivity} {f : NodeFigures}
    (hr : NodeActivity.blank.run? (recordsOf node rs) = .ok a)
    (hf : Activities.figures? node a = .ok f) : SoundNode node rs := by
  obtain ⟨idle, hi, hpos, _⟩ := (Activities.figures?_eq_ok_iff node a f).1 hf
  exact ⟨a, idle, hr, hi, hpos⟩

theorem not_soundNode_of_idleFault {a : NodeActivity} {e : ActivityError}
    (hr : NodeActivity.blank.run? (recordsOf node rs) = .ok a) (hf : a.IdleFault node e) :
    ¬ SoundNode node rs := by
  rintro ⟨b, idle, hb, hi, hpos⟩
  obtain rfl : a = b := Except.ok.inj (hr.symm.trans hb)
  rcases hf with ⟨herr, _⟩ | ⟨t, ht, hneg, _⟩
  · rw [hi] at herr
    cases herr
  · rw [hi] at ht
    obtain rfl : idle = some t := Except.ok.inj ht
    exact Int64.not_lt.2 (hpos t rfl) hneg

theorem run?_of_firstRefused {e : ActivityError} (h : FirstRefused rs e) :
    ∃ node ∈ rs.map ClusterRecord.node,
      NodeActivity.blank.run? (recordsOf node rs) = .error e := by
  obtain ⟨front, r, back, rfl, _, herr⟩ := h
  refine ⟨r.node, by simp, ?_⟩
  have hsplit : front ++ r :: back = (front ++ [r]) ++ back := by simp
  rw [hsplit, recordsOf_append, NodeActivity.run?_append, herr]
  rfl

theorem not_soundNode_of_firstRefused {e : ActivityError} (h : FirstRefused rs e) :
    ∃ node ∈ rs.map ClusterRecord.node, ¬ SoundNode node rs := by
  obtain ⟨node, hn, herr⟩ := run?_of_firstRefused h
  refine ⟨node, hn, ?_⟩
  rintro ⟨a, idle, hr, _⟩
  rw [herr] at hr
  cases hr

section Summary

variable {as : Activities} {n : Nat} (h : Activities.applyAll [] 0 rs = (as, n, none))

include h

theorem run?_blank_of_applyAll (node : UInt32) :
    NodeActivity.blank.run? (recordsOf node rs) = .ok (as.ofNode node) :=
  Activities.run?_of_applyAll h node

theorem mem_ids_iff_of_applyAll (node : UInt32) :
    node ∈ as.ids ↔ node ∈ rs.map ClusterRecord.node := by
  rw [Activities.mem_ids_of_applyAll h]
  simp [Activities.ids]

theorem ascending_of_applyAll_nil : as.Ascending :=
  Activities.ascending_of_applyAll h List.Pairwise.nil

theorem run?_of_mem {p : UInt32 × NodeActivity} (hp : p ∈ as) :
    NodeActivity.blank.run? (recordsOf p.1 rs) = .ok p.2 := by
  rw [run?_blank_of_applyAll h, Activities.ofNode_of_mem (ascending_of_applyAll_nil h) hp]

theorem showsNodes_of_allFigures? {nodes : List NodeFigures} (hf : as.allFigures? = .ok nodes) :
    ShowsNodes rs nodes := by
  have hall := Activities.forall₂_of_allFigures? hf
  have hids : as.ids = nodes.map NodeFigures.node := by
    rw [← List.forall₂_eq_eq_eq, Activities.ids, List.forall₂_map_left_iff,
      List.forall₂_map_right_iff]
    refine hall.imp fun p f hp => ?_
    obtain ⟨_, _, _, rfl⟩ := (Activities.figures?_eq_ok_iff _ _ _).1 hp
    rfl
  refine ⟨?_, fun node => ?_, fun f hf => ?_⟩
  · have hasc : as.ids.Pairwise (· < ·) := List.pairwise_map.2 (ascending_of_applyAll_nil h)
    exact List.pairwise_map.1 (hids ▸ hasc)
  · rw [← hids, mem_ids_iff_of_applyAll h]
  · obtain ⟨p, hp, hpf⟩ := exists_left_of_forall₂ hall hf
    obtain ⟨idle, hi, _, rfl⟩ := (Activities.figures?_eq_ok_iff _ _ _).1 hpf
    exact ⟨p.2, run?_of_mem h hp, hi, rfl, rfl⟩

theorem leastUnsound_of_allFigures? {e : ActivityError} (hf : as.allFigures? = .error e) :
    LeastUnsound rs e := by
  obtain ⟨front, p, back, rfl, hp, hfront⟩ := Activities.least_of_allFigures? hf
  have hasc := ascending_of_applyAll_nil h
  have hmem : p ∈ front ++ p :: back := by simp
  have hid : p.1 ∈ (front ++ p :: back).map Prod.fst := List.mem_map_of_mem hmem
  refine ⟨p.1, (mem_ids_iff_of_applyAll h p.1).1 hid,
    ⟨p.2, run?_of_mem h hmem, (Activities.figures?_eq_error_iff _ _ _).1 hp⟩, ?_⟩
  intro n hn hlt
  obtain ⟨q, hq, rfl⟩ := List.mem_map.1 ((mem_ids_iff_of_applyAll h n).2 hn)
  rcases List.mem_append.1 hq with hq' | hq'
  · obtain ⟨f, hqf⟩ := hfront q hq'
    exact soundNode_of_figures? (run?_of_mem h hq) hqf
  · have hback := (List.pairwise_append.1 hasc).2.1
    rcases List.mem_cons.1 hq' with rfl | hq'
    · exact absurd hlt (UInt32.lt_irrefl _)
    · exact absurd hlt (UInt32.lt_asymm ((List.pairwise_cons.1 hback).1 q hq'))

theorem soundNode_of_allFigures? {nodes : List NodeFigures} (hf : as.allFigures? = .ok nodes)
    (hn : node ∈ rs.map ClusterRecord.node) : SoundNode node rs := by
  have hall := Activities.forall₂_of_allFigures? hf
  obtain ⟨p, hp, rfl⟩ := List.mem_map.1 ((mem_ids_iff_of_applyAll h node).2 hn)
  obtain ⟨f, _, hpf⟩ := exists_right_of_forall₂ hall hp
  exact soundNode_of_figures? (run?_of_mem h hp) hpf

end Summary

theorem showsNodes_unique {ts : List ClusterRecord} {ms ns : List NodeFigures}
    (hown : ∀ node, recordsOf node ts = recordsOf node rs) (hm : ShowsNodes ts ms)
    (hn : ShowsNodes rs ns) : ms = ns := by
  have hids (node : UInt32) : node ∈ ms.map NodeFigures.node ↔ node ∈ ns.map NodeFigures.node := by
    rw [hm.2.1, hn.2.1, ← recordsOf_ne_nil_iff, ← recordsOf_ne_nil_iff, hown]
  have hsame (f g : NodeFigures) (hf : f ∈ ms) (hg : g ∈ ns) (he : f.node = g.node) : f = g := by
    obtain ⟨a, ha, hai, hat, hao⟩ := hm.2.2 f hf
    obtain ⟨b, hb, hbi, hbt, hbo⟩ := hn.2.2 g hg
    rw [hown, he, hb] at ha
    obtain rfl : b = a := Except.ok.inj ha
    have hidle : f.idleTime = g.idleTime := by
      rw [he, hbi] at hai
      exact (Except.ok.inj hai).symm
    cases f
    cases g
    simp_all
  have hmem (f : NodeFigures) : f ∈ ms ↔ f ∈ ns := by
    constructor
    · intro hf
      obtain ⟨g, hg, he⟩ := List.mem_map.1 ((hids f.node).1 (List.mem_map_of_mem hf))
      exact hsame f g hf hg he.symm ▸ hg
    · intro hg
      obtain ⟨f', hf, he⟩ := List.mem_map.1 ((hids f.node).2 (List.mem_map_of_mem hg))
      exact hsame f' f hf hg he ▸ hf
  have hnodup {nodes : List NodeFigures} (h : nodes.Pairwise (·.node < ·.node)) : nodes.Nodup :=
    h.imp fun {f g} (hlt : f.node < g.node) (heq : f = g) => UInt32.lt_irrefl _ (heq ▸ hlt)
  have hp := (List.perm_ext_iff_of_nodup (hnodup hm.1) (hnodup hn.1)).2 hmem
  refine hp.eq_of_pairwise (fun f g _ _ hfg hgf => ?_) hm.1 hn.1
  exact absurd hfg (UInt32.lt_asymm hgf)

section Log

variable (e : Experiment) (rows : List (Row × ClusterRecord))

theorem result_ofCluster_cases :
    (∃ nodes, (FileFold.ofCluster e ⟨rows, none⟩).result = .ok (.summary (.cluster ⟨e, nodes⟩)) ∧
      ShowsNodes (rows.map Prod.snd) nodes ∧
      ∀ node ∈ (rows.map Prod.snd).map ClusterRecord.node, SoundNode node (rows.map Prod.snd)) ∨
    ∃ err, (FileFold.ofCluster e ⟨rows, none⟩).result = .error (.activity err) ∧
      (FirstRefused (rows.map Prod.snd) err ∨
        AllApply (rows.map Prod.snd) ∧ LeastUnsound (rows.map Prod.snd) err) ∧
      ∃ node ∈ (rows.map Prod.snd).map ClusterRecord.node,
        ¬ SoundNode node (rows.map Prod.snd) := by
  rcases happly : Activities.applyAll [] 0 (rows.map Prod.snd) with ⟨as, n, _ | err⟩
  · cases hfigures : as.allFigures? with
    | ok nodes =>
      left
      refine ⟨nodes, ?_, showsNodes_of_allFigures? happly hfigures, fun node hn =>
        soundNode_of_allFigures? happly hfigures hn⟩
      simp [FileFold.ofCluster, Decoded.records, happly, hfigures]
    | error err =>
      right
      have hleast := leastUnsound_of_allFigures? happly hfigures
      refine ⟨err, ?_, .inr ⟨fun node => ⟨_, run?_blank_of_applyAll happly node⟩, hleast⟩, ?_⟩
      · simp [FileFold.ofCluster, FileFold.failed, Decoded.records, happly, hfigures]
      · obtain ⟨node, hn, ⟨a, ha, hfault⟩, _⟩ := hleast
        exact ⟨node, hn, not_soundNode_of_idleFault ha hfault⟩
  · right
    obtain ⟨front, r, back, hsplit, -, hfront, hr⟩ := Activities.refused_of_applyAll happly
    have hrefused : FirstRefused (rows.map Prod.snd) err := ⟨front, r, back, hsplit, hfront, hr⟩
    refine ⟨err, ?_, .inl hrefused, not_soundNode_of_firstRefused hrefused⟩
    simp [FileFold.ofCluster, FileFold.failed, Decoded.records, happly]

theorem nodes_independent :
    ((∃ o, (FileFold.ofCluster e ⟨rows, none⟩).result = .ok o) ↔
        ∀ node ∈ (rows.map Prod.snd).map ClusterRecord.node,
          SoundNode node (rows.map Prod.snd)) ∧
      (∀ o, (FileFold.ofCluster e ⟨rows, none⟩).result = .ok o →
        ∃ nodes, o = .summary (.cluster ⟨e, nodes⟩) ∧ ShowsNodes (rows.map Prod.snd) nodes) ∧
      (∀ fault, (FileFold.ofCluster e ⟨rows, none⟩).result = .error fault →
        ∃ err, fault = .activity err ∧ (FirstRefused (rows.map Prod.snd) err ∨
          AllApply (rows.map Prod.snd) ∧ LeastUnsound (rows.map Prod.snd) err)) ∧
      ∀ others : List (Row × ClusterRecord),
        (∀ node, recordsOf node (others.map Prod.snd) = recordsOf node (rows.map Prod.snd)) →
        (∃ o, (FileFold.ofCluster e ⟨rows, none⟩).result = .ok o ∧
            (FileFold.ofCluster e ⟨others, none⟩).result = .ok o) ∨
          ∃ fault fault', (FileFold.ofCluster e ⟨rows, none⟩).result = .error fault ∧
            (FileFold.ofCluster e ⟨others, none⟩).result = .error fault' := by
  refine ⟨?_, fun o ho => ?_, fun fault hfault => ?_, fun others hown => ?_⟩
  · rcases result_ofCluster_cases e rows with ⟨nodes, hr, _, hsound⟩ | ⟨err, hr, _, node, hn, hun⟩
    · exact ⟨fun _ => hsound, fun _ => ⟨_, hr⟩⟩
    · constructor
      · rintro ⟨o, ho⟩
        rw [hr] at ho
        cases ho
      · intro hsound
        exact absurd (hsound node hn) hun
  · rcases result_ofCluster_cases e rows with ⟨nodes, hr, hshows, _⟩ | ⟨err, hr, _⟩
    · exact ⟨nodes, Except.ok.inj (ho.symm.trans hr), hshows⟩
    · rw [hr] at ho
      cases ho
  · rcases result_ofCluster_cases e rows with ⟨nodes, hr, _⟩ | ⟨err, hr, hwhy, _⟩
    · rw [hr] at hfault
      cases hfault
    · exact ⟨err, Except.error.inj (hfault.symm.trans hr), hwhy⟩
  · have hids (node : UInt32) := congrArg (· ≠ []) (hown node)
    simp only [recordsOf_ne_nil_iff, eq_iff_iff] at hids
    have hsame (node : UInt32) :
        SoundNode node (others.map Prod.snd) ↔ SoundNode node (rows.map Prod.snd) := by
      rw [SoundNode, SoundNode, hown]
    rcases result_ofCluster_cases e rows with ⟨ns, hr, hns, hsound⟩ | ⟨err, hr, _, node, hn, hun⟩
    · rcases result_ofCluster_cases e others with ⟨ms, hr', hms, _⟩ | ⟨_, _, _, node, hn, hun⟩
      · obtain rfl := showsNodes_unique hown hms hns
        exact .inl ⟨_, hr, hr'⟩
      · exact absurd ((hsame node).2 (hsound node ((hids node).1 hn))) hun
    · rcases result_ofCluster_cases e others with ⟨_, _, _, hsound⟩ | ⟨err', hr', _⟩
      · exact absurd ((hsame node).1 (hsound node ((hids node).2 hn))) hun
      · exact .inr ⟨_, _, hr, hr'⟩

end Log

end RateSweep
