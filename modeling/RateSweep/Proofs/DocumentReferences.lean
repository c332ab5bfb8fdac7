import Mathlib
import RateSweep.Yaml.Node

namespace RateSweep.Yaml

namespace Node

mutual

def references : Node → List Nat
  | reference k => [k]
  | scalar _ _ _ _ => []
  | sequence _ items => itemReferences items
  | mapping _ entries => entryReferences entries

def itemReferences : List Node → List Nat
  | [] => []
  | item :: items => references item ++ itemReferences items

def entryReferences : List (Node × Node) → List Nat
  | [] => []
  | (k, v) :: entries => references k ++ (references v ++ entryReferences entries)

end

mutual

def anchors : Node → List Nat
  | reference _ => []
  | scalar a _ _ _ => a.toList
  | sequence a items => a.toList ++ itemAnchors items
  | mapping a entries => a.toList ++ entryAnchors entries

def itemAnchors : List Node → List Nat
  | [] => []
  | item :: items => anchors item ++ itemAnchors items

def entryAnchors : List (Node × Node) → List Nat
  | [] => []
  | (k, v) :: entries => anchors k ++ (anchors v ++ entryAnchors entries)

end

mutual

theorem isSome_anchored?_iff (k : Nat) (n : Node) : (anchored? k n).isSome ↔ k ∈ n.anchors := by
  cases n with
  | reference => simp [anchored?, anchors]
  | scalar a text style tag => simp [anchored?, anchors, apply_ite]
  | sequence a items => simp [anchored?, anchors, isSome_anchoredItem?_iff k items,
      apply_ite]
  | mapping a entries => simp [anchored?, anchors, isSome_anchoredEntry?_iff k entries,
      apply_ite]

theorem isSome_anchoredItem?_iff (k : Nat) (items : List Node) :
    (anchoredItem? k items).isSome ↔ k ∈ itemAnchors items := by
  cases items with
  | nil => simp [anchoredItem?, itemAnchors]
  | cons item items =>
    simp [anchoredItem?, itemAnchors, isSome_anchored?_iff k item,
      isSome_anchoredItem?_iff k items, or_comm]

theorem isSome_anchoredEntry?_iff (k : Nat) (entries : List (Node × Node)) :
    ( anchoredEntry? k entries).isSome ↔ k ∈ entryAnchors entries := by
  cases entries with
  | nil => simp [ anchoredEntry?, entryAnchors]
  | cons e entries =>
    obtain ⟨key, v⟩ := e
    simp [ anchoredEntry?, entryAnchors, isSome_anchored?_iff k key, isSome_anchored?_iff k v,
      isSome_anchoredEntry?_iff k entries]
    tauto

end

end Node

def Outlook.Knows (s : Outlook) (k : Nat) : Prop := ∃ name, (name, k) ∈ s.anchors

/-- What has been read between two states refers only to what was known before or is in it. -/
structure Settles (s s' : Outlook) (references anchors : List Nat) : Prop where
  referred : ∀ k ∈ references, s.Knows k ∨ k ∈ anchors
  known : ∀ k, s'.Knows k → s.Knows k ∨ k ∈ anchors

namespace Settles

variable {s s' s'' : Outlook} {r r' a a' : List Nat}

theorem refl (s : Outlook) : Settles s s [] [] :=
  ⟨fun _ h => absurd h List.not_mem_nil, fun _ => .inl⟩

theorem trans (h : Settles s s' r a) (h' : Settles s' s'' r' a') :
    Settles s s'' (r ++ r') (a ++ a') := by
  have hback : ∀ k, s'.Knows k ∨ k ∈ a' → s.Knows k ∨ k ∈ a ++ a' := by
    rintro k (hk | hk)
    · exact (h.known k hk).imp_right (List.mem_append_left _)
    · exact .inr (List.mem_append_right _ hk)
  refine ⟨fun k hk => ?_, fun k hk => hback k (h'.known k hk)⟩
  rcases List.mem_append.1 hk with hk | hk
  · exact (h.referred k hk).imp_right (List.mem_append_left _)
  · exact hback k (h'.referred k hk)

theorem of_anchors_eq (h : s'.anchors = s.anchors) : Settles s s' [] [] :=
  ⟨fun _ h => absurd h List.not_mem_nil, fun k hk => .inl (by rwa [Outlook.Knows, ← h])⟩

theorem of_skip {ts : List Token} (h : Settles { s with tokens := ts } s' r a) :
    Settles s s' r a := ⟨h.referred, h.known⟩

theorem before_skip {ts : List Token} (h : Settles s s' r a) :
    Settles s { s' with tokens := ts } r a := ⟨h.referred, h.known⟩

end Settles

namespace Reading

variable {α β : Type} {s s' : Outlook}

theorem exists_of_bind {m : Reading α} {f : α → Reading β} {b : β}
    (h : (m >>= f).run s = some (b, s')) :
    ∃ a s₁, m.run s = some (a, s₁) ∧ (f a).run s₁ = some (b, s') := by
  obtain ⟨⟨a, s₁⟩, hm, hf⟩ := Option.bind_eq_some_iff.1 h
  exact ⟨a, s₁, hm, hf⟩

theorem eq_of_pure {a b : α} (h : (pure a : Reading α).run s = some (b, s')) : a = b ∧ s = s' :=
  Prod.mk.inj (Option.some.inj h)

theorem exists_of_map {m : Reading α} {f : α → β} {b : β}
    (h : (f <$> m).run s = some (b, s')) : ∃ a, m.run s = some (a, s') ∧ f a = b := by
  rw [StateT.run_map, Option.map_eq_map] at h
  obtain ⟨⟨a, s₁⟩, hm, hb⟩ := Option.map_eq_some_iff.1 h
  obtain ⟨rfl, rfl⟩ := Prod.mk.inj hb
  exact ⟨a, hm, rfl⟩

theorem of_peek {f : Option Token → Reading β} {b : β} (h : (peek >>= f).run s = some (b, s')) :
    (f s.tokens.head?).run s = some (b, s') := h

theorem of_isAt {ts : List Token} {f : Bool → Reading β} {b : β}
    (h : (isAt ts >>= f).run s = some (b, s')) :
    (f (s.tokens.head?.any ts.contains)).run s = some (b, s') := h

theorem of_skip {f : Unit → Reading β} {b : β} (h : (skip >>= f).run s = some (b, s')) :
    (f ()).run { s with tokens := s.tokens.tail } = some (b, s') := h

theorem exists_of_separator {u : Unit} (h : separator.run s = some (u, s')) :
    ∃ ts, s' = { s with tokens := ts } := by
  replace h := of_isAt h
  split at h
  · exact ⟨_, (Prod.mk.inj (Option.some.inj h)).2.symm⟩
  · cases h

theorem exists_of_separated {c : Bool → Bool} {stop : List Token} {m : Unit → Reading β} {b : β}
    (h : (isAt stop >>= fun atEnd => if c atEnd then separator >>= m else m ()).run s =
      some (b, s')) : ∃ ts, (m ()).run { s with tokens := ts } = some (b, s') := by
  replace h := of_isAt h
  split at h
  · obtain ⟨u, s₁, hs₁, h⟩ := exists_of_bind h
    obtain ⟨ts, rfl⟩ := exists_of_separator hs₁
    exact ⟨ts, h⟩
  · exact ⟨s.tokens, h⟩

def Settling (m : Reading α) (references anchors : α → List Nat) : Prop :=
  ∀ s a s', m.run s = some (a, s') → Settles s s' (references a) (anchors a)

abbrev SettlingNode (m : Reading Node) : Prop := Settling m Node.references Node.anchors

theorem settles_newAnchor {name : List Char} {n : Nat} (h : (newAnchor name).run s = some (n, s')) :
    Settles s s' [] [n] := by
  obtain ⟨rfl, rfl⟩ := Prod.mk.inj (Option.some.inj h)
  refine ⟨fun _ h => absurd h List.not_mem_nil, ?_⟩
  rintro k ⟨other, hk⟩
  rcases List.mem_cons.1 hk with hk | hk
  · exact .inr (List.mem_singleton.2 (Prod.mk.inj hk).2)
  · exact .inl ⟨other, List.mem_of_mem_filter hk⟩

theorem eq_of_resolveTag {handle : List Char} {suffix t : TagText}
    (h : (resolveTag handle suffix).run s = some (t, s')) : s' = s := by
  unfold resolveTag at h
  split at h
  · exact (eq_of_pure h).2.symm
  · obtain ⟨_, s₁, hget, h⟩ := exists_of_bind h
    obtain ⟨rfl, rfl⟩ := Prod.mk.inj (Option.some.inj hget)
    split at h
    · exact (eq_of_pure h).2.symm
    · cases h

theorem settling_anchor : Settling anchor (fun _ => []) Option.toList := by
  intro s a s' h
  replace h := of_peek h
  split at h
  · obtain ⟨n, hn, rfl⟩ := exists_of_map (of_skip h)
    exact (settles_newAnchor hn).of_skip
  · obtain ⟨rfl, rfl⟩ := eq_of_pure h
    exact .refl s

theorem settling_tag : Settling tag (fun _ => []) fun _ => [] := by
  intro s t s' h
  replace h := of_peek h
  split at h
  · obtain ⟨t, ht, rfl⟩ := exists_of_map (of_skip h)
    obtain rfl := eq_of_resolveTag ht
    exact .of_anchors_eq rfl
  · obtain ⟨rfl, rfl⟩ := eq_of_pure h
    exact .refl s

theorem settling_properties : Settling properties (fun _ => []) (·.1.toList) := by
  intro s p s' h
  obtain ⟨a, s₁, hanchor, h⟩ := exists_of_bind h
  have ha := settling_anchor _ _ _ hanchor
  cases a with
  | some n =>
    obtain ⟨t, s₂, htag, h⟩ := exists_of_bind h
    obtain ⟨rfl, rfl⟩ := eq_of_pure h
    exact ha.trans (settling_tag _ _ _ htag)
  | none =>
    obtain ⟨t, s₂, htag, h⟩ := exists_of_bind h
    obtain ⟨a, s₃, hanchor, h⟩ := exists_of_bind h
    obtain ⟨rfl, rfl⟩ := eq_of_pure h
    exact (ha.trans (settling_tag _ _ _ htag)).trans (settling_anchor _ _ _ hanchor)

theorem settling_emptyUnless {stop : List Token} {m : Reading Node} (hm : SettlingNode m) :
    SettlingNode (emptyUnless stop m) := by
  intro s n s' h
  replace h := of_isAt h
  split at h
  · obtain ⟨rfl, rfl⟩ := eq_of_pure h
    exact .refl s
  · exact hm _ _ _ h

theorem settling_valueUnless {stop : List Token} {m : Reading Node} (hm : SettlingNode m) :
    SettlingNode (valueUnless stop m) := by
  intro s n s' h
  replace h := of_isAt h
  split at h
  · exact (settling_emptyUnless hm _ _ _ (of_skip h)).of_skip
  · obtain ⟨rfl, rfl⟩ := eq_of_pure h
    exact .refl s

structure SettlingReads (fuel : Nat) : Prop where
  node : ∀ block value, SettlingNode (node block value fuel)
  blockItems : Settling (blockItems fuel) Node.itemReferences Node.itemAnchors
  looseItems : Settling (looseItems fuel) Node.itemReferences Node.itemAnchors
  blockEntries : Settling (blockEntries fuel) Node.entryReferences Node.entryAnchors
  flowPair : SettlingNode (flowPair fuel)
  flowItems : ∀ first, Settling (flowItems first fuel) Node.itemReferences Node.itemAnchors
  flowEntries : ∀ first, Settling (flowEntries first fuel) Node.entryReferences Node.entryAnchors

namespace SettlingReads

variable {fuel : Nat}

theorem zero : SettlingReads 0 := by
  constructor
  case node => intro block value s n s' h; cases h
  case flowItems => intro first s items s' h; cases h
  case flowEntries => intro first s entries s' h; cases h
  all_goals intro s a s' h; cases h

theorem settles_reference {name : List Char} {k : Nat} {ts : List Token}
    (h : s.anchors.lookup name = some k) :
    Settles s { s with tokens := ts } (Node.reference k).references (Node.reference k).anchors := by
  obtain ⟨before, after, hsplit, -⟩ := List.lookup_eq_some_iff.1 h
  refine ⟨fun j hj => ?_, fun _ => .inl⟩
  obtain rfl := List.mem_singleton.1 hj
  exact .inl ⟨name, hsplit ▸ List.mem_append_right before List.mem_cons_self⟩

theorem node_succ (h : SettlingReads fuel) (block value : Bool) :
    SettlingNode (Reading.node block value (fuel + 1)) := by
  intro s n s' hrun
  replace hrun := of_peek hrun
  split at hrun
  · obtain ⟨_, s₁, hget, hrun⟩ := exists_of_bind (of_skip hrun)
    obtain ⟨rfl, rfl⟩ := Prod.mk.inj (Option.some.inj hget)
    split at hrun
    · next hlookup =>
      obtain ⟨rfl, rfl⟩ := eq_of_pure hrun
      exact settles_reference hlookup
    · cases hrun
  · obtain ⟨⟨a, t⟩, s₁, hp, hrun⟩ := exists_of_bind hrun
    have hp := settling_properties _ _ _ hp
    replace hrun := of_peek hrun
    split at hrun
    · replace hrun := of_skip hrun
      obtain ⟨rfl, rfl⟩ := eq_of_pure hrun
      exact hp.before_skip
    · obtain ⟨items, hitems, rfl⟩ := exists_of_map (of_skip hrun)
      exact hp.trans (h.flowItems _ _ _ _ hitems).of_skip
    · obtain ⟨items, hitems, rfl⟩ := exists_of_map (of_skip hrun)
      exact hp.trans (h.flowEntries _ _ _ _ hitems).of_skip
    · obtain ⟨items, hitems, rfl⟩ := exists_of_map (of_skip hrun)
      exact hp.trans (h.blockItems _ _ _ hitems).of_skip
    · obtain ⟨items, hitems, rfl⟩ := exists_of_map (of_skip hrun)
      exact hp.trans (h.blockEntries _ _ _ hitems).of_skip
    · obtain ⟨items, hitems, rfl⟩ := exists_of_map hrun
      exact hp.trans (h.looseItems _ _ _ hitems)
    · split at hrun
      · obtain ⟨rfl, rfl⟩ := eq_of_pure hrun
        exact hp
      · cases hrun

theorem blockItems_succ (h : SettlingReads fuel) :
    Settling (Reading.blockItems (fuel + 1)) Node.itemReferences Node.itemAnchors := by
  intro s items s' hrun
  replace hrun := of_peek hrun
  split at hrun
  · obtain ⟨item, s₁, hitem, hrun⟩ := exists_of_bind (of_skip hrun)
    obtain ⟨items, hitems, rfl⟩ := exists_of_map hrun
    have hitem := (settling_emptyUnless (h.node true false)) _ _ _ hitem
    exact (hitem.trans (h.blockItems _ _ _ hitems)).of_skip
  · replace hrun := of_skip hrun
    obtain ⟨rfl, rfl⟩ := eq_of_pure hrun
    exact .of_skip (.refl _)
  · cases hrun

theorem looseItems_succ (h : SettlingReads fuel) :
    Settling (Reading.looseItems (fuel + 1)) Node.itemReferences Node.itemAnchors := by
  intro s items s' hrun
  replace hrun := of_isAt hrun
  split at hrun
  · obtain ⟨item, s₁, hitem, hrun⟩ := exists_of_bind (of_skip hrun)
    obtain ⟨items, hitems, rfl⟩ := exists_of_map hrun
    have hitem := (settling_emptyUnless (h.node true false)) _ _ _ hitem
    exact (hitem.trans (h.looseItems _ _ _ hitems)).of_skip
  · obtain ⟨rfl, rfl⟩ := eq_of_pure hrun
    exact .refl _

theorem blockEntries_succ (h : SettlingReads fuel) :
    Settling (Reading.blockEntries (fuel + 1)) Node.entryReferences Node.entryAnchors := by
  intro s entries s' hrun
  replace hrun := of_peek hrun
  split at hrun
  · obtain ⟨k, s₁, hk, hrun⟩ := exists_of_bind (of_skip hrun)
    obtain ⟨v, s₂, hv, hrun⟩ := exists_of_bind hrun
    obtain ⟨entries, hentries, rfl⟩ := exists_of_map hrun
    have hk := (settling_emptyUnless (h.node true true)) _ _ _ hk
    have hv := (settling_valueUnless (h.node true true)) _ _ _ hv
    exact (hk.trans (hv.trans (h.blockEntries _ _ _ hentries))).of_skip
  · replace hrun := of_skip hrun
    obtain ⟨rfl, rfl⟩ := eq_of_pure hrun
    exact .of_skip (.refl _)
  · cases hrun

theorem flowPair_succ (h : SettlingReads fuel) : SettlingNode (Reading.flowPair (fuel + 1)) := by
  intro s n s' hrun
  replace hrun := of_isAt hrun
  split at hrun
  · obtain ⟨k, s₁, hk, hrun⟩ := exists_of_bind (of_skip hrun)
    obtain ⟨rfl, rfl⟩ := eq_of_pure hk
    obtain ⟨v, s₂, hv, hrun⟩ := exists_of_bind hrun
    obtain ⟨rfl, rfl⟩ := eq_of_pure hrun
    have hv := (settling_valueUnless (h.node false false)) _ _ _ hv
    exact (hv.trans (.refl _)).of_skip
  · obtain ⟨k, s₁, hk, hrun⟩ := exists_of_bind hrun
    obtain ⟨v, s₂, hv, hrun⟩ := exists_of_bind hrun
    obtain ⟨rfl, rfl⟩ := eq_of_pure hrun
    have hk := h.node false false _ _ _ hk
    have hv := (settling_valueUnless (h.node false false)) _ _ _ hv
    exact hk.trans (hv.trans (.refl _))

theorem flowItems_succ (h : SettlingReads fuel) (first : Bool) :
    Settling (Reading.flowItems first (fuel + 1)) Node.itemReferences Node.itemAnchors := by
  intro s items s' hrun
  unfold Reading.flowItems at hrun
  obtain ⟨ts, hrun⟩ := exists_of_separated hrun
  apply Settles.of_skip
  replace hrun := of_peek hrun
  split at hrun
  · replace hrun := of_skip hrun
    obtain ⟨rfl, rfl⟩ := eq_of_pure hrun
    exact .of_skip (.refl _)
  · obtain ⟨pair, s₂, hpair, hrun⟩ := exists_of_bind (of_skip hrun)
    obtain ⟨items, hitems, rfl⟩ := exists_of_map hrun
    exact ((h.flowPair _ _ _ hpair).trans (h.flowItems _ _ _ _ hitems)).of_skip
  · obtain ⟨item, s₂, hitem, hrun⟩ := exists_of_bind hrun
    obtain ⟨items, hitems, rfl⟩ := exists_of_map hrun
    exact (h.node _ _ _ _ _ hitem).trans (h.flowItems _ _ _ _ hitems)

theorem flowEntries_succ (h : SettlingReads fuel) (first : Bool) :
    Settling (Reading.flowEntries first (fuel + 1)) Node.entryReferences Node.entryAnchors := by
  intro s entries s' hrun
  unfold Reading.flowEntries at hrun
  obtain ⟨ts, hrun⟩ := exists_of_separated hrun
  apply Settles.of_skip
  replace hrun := of_peek hrun
  split at hrun
  · replace hrun := of_skip hrun
    obtain ⟨rfl, rfl⟩ := eq_of_pure hrun
    exact .of_skip (.refl _)
  · obtain ⟨k, s₁, hk, hrun⟩ := exists_of_bind (of_skip hrun)
    obtain ⟨v, s₂, hv, hrun⟩ := exists_of_bind hrun
    obtain ⟨entries, hentries, rfl⟩ := exists_of_map hrun
    have hk := (settling_emptyUnless (h.node false false)) _ _ _ hk
    have hv := (settling_valueUnless (h.node false false)) _ _ _ hv
    exact (hk.trans (hv.trans (h.flowEntries _ _ _ _ hentries))).of_skip
  · obtain ⟨k, s₁, hk, hrun⟩ := exists_of_bind hrun
    obtain ⟨entries, hentries, rfl⟩ := exists_of_map hrun
    exact (h.node _ _ _ _ _ hk).trans (h.flowEntries _ _ _ _ hentries)

theorem all (fuel : Nat) : SettlingReads fuel := by
  induction fuel with
  | zero => exact zero
  | succ fuel ih =>
    exact ⟨ih.node_succ, ih.blockItems_succ, ih.looseItems_succ, ih.blockEntries_succ,
      ih.flowPair_succ, ih.flowItems_succ, ih.flowEntries_succ⟩

end SettlingReads

end Reading

namespace Document

variable {d : Document} {k : Nat}

theorem references_subset_of_readRoot {handles : List (List Char × TagText)} {ts rest : List Token}
    {n : Node} (h : readRoot handles ts = some (n, rest)) : n.references ⊆ n.anchors := by
  obtain ⟨⟨m, s⟩, hrun, hm⟩ := Option.map_eq_some_iff.1 h
  obtain ⟨rfl, -⟩ := Prod.mk.inj hm
  have hsettles := (Reading.SettlingReads.all _).node true false _ _ _ hrun
  intro k hk
  rcases hsettles.referred k hk with ⟨name, hname⟩ | hk
  · exact absurd hname List.not_mem_nil
  · exact hk

theorem eq_of_ends {ends : Bool} {root n : Node}
    (h : (if ends then some (⟨some root⟩ : Document) else none) = some d)
    (hroot : d.root = some n) : root = n := by
  split at h
  · obtain rfl := Option.some.inj h
    exact Option.some.inj hroot
  · cases h

theorem references_subset_of_ofTokens? {ts : List Token} {n : Node} (h : ofTokens? ts = some d)
    (hroot : d.root = some n) : n.references ⊆ n.anchors := by
  unfold ofTokens? at h
  split at h
  · obtain rfl := Option.some.inj h
    cases hroot
  · obtain ⟨handles, -, h⟩ := Option.bind_eq_some_iff.1 h
    dsimp only at h
    split at h
    · split at h
      · obtain ⟨⟨root, rest⟩, hread, h⟩ := Option.bind_eq_some_iff.1 h
        exact eq_of_ends h hroot ▸ references_subset_of_readRoot hread
      · obtain ⟨_, hempty, h⟩ := Option.bind_eq_some_iff.1 h
        obtain rfl := Option.some.inj hempty
        exact eq_of_ends h hroot ▸ List.nil_subset _
    · split at h
      · obtain ⟨⟨root, rest⟩, hread, h⟩ := Option.bind_eq_some_iff.1 h
        exact eq_of_ends h hroot ▸ references_subset_of_readRoot hread
      · cases h

/-- No alias of a document that is read dangles. -/
theorem isSome_resolve_of_ofText? {text : String} {n : Node} (h : ofText? text = some d)
    (hroot : d.root = some n) (hk : k ∈ n.references) : (d.resolve (.reference k)).isSome := by
  obtain ⟨ts, -, h⟩ := Option.bind_eq_some_iff.1 h
  rw [resolve, hroot, Option.bind_some, Node.isSome_anchored?_iff]
  exact references_subset_of_ofTokens? h hroot hk

end Document

end RateSweep.Yaml
