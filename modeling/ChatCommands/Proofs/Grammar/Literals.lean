import Mathlib.Data.List.Nodup
import ChatCommands.Proofs.Grammar.Places
import ChatCommands.Proofs.Text.Lowercase

/-!
# The literals below a node

A keyword is reached by several literals, and a path names it by one of them. Both go together because
of what every edit keeps:

* `Orderly`: literals are lowercase, without dots, and differ from one another; every keyword has an
  edge with its own literal beside its aliases; a parameter is no keyword.

**Theorem (`Grown.orderly`).** In a grammar that has grown, all branches are orderly.

So a segment of a canonical path leads to one node (`Grown.targetWhere?_segment`), and so does a token
up to ASCII case (`Grown.targetWhere?_eq_some_iff`).
-/

namespace ChatCommands

variable {C : Type}

/-- A literal as the builder keeps it: the lowercase form of one that it accepts. -/
def IsKept (literal : String) : Prop :=
  ∃ spelling, Builder.isLiteral spelling = true ∧ Text.lower spelling = literal

theorem IsKept.lower_eq {literal : String} (h : IsKept literal) : Text.lower literal = literal := by
  obtain ⟨spelling, -, rfl⟩ := h
  exact Text.lower_lower spelling

theorem IsKept.foldAscii_eq {literal : String} (h : IsKept literal) :
    Text.foldAscii literal = literal := by
  obtain ⟨spelling, -, rfl⟩ := h
  exact Text.foldAscii_lower spelling

theorem isSegment_wildcard : Dotted.IsSegment wildcard where
  ne_empty := by decide
  dot_not_mem := by decide

theorem IsKept.isSegment {literal : String} (h : IsKept literal) : Dotted.IsSegment literal := by
  obtain ⟨spelling, hspelling, rfl⟩ := h
  exact (Builder.isSegment_of_isLiteral hspelling).lower

/-! ## Orderly branches -/

/-- The edges of keywords with these slots: no literal stands on two of them, and beside every edge
stands the one with the keyword's own literal. -/
structure OrderlyEdges (slot : NodeId → Slot) (es : List Edge) : Prop where
  kept : ∀ e ∈ es, IsKept e.literal
  distinct : (es.map Edge.literal).Nodup
  canonical : ∀ e ∈ es, ∃ own ∈ es, own.target = e.target ∧
    (slot e.target).kind = .keyword own.literal

namespace OrderlyEdges

variable {slot : NodeId → Slot} {es : List Edge}

theorem nil : OrderlyEdges slot [] where
  kept _ h := nomatch h
  distinct := List.nodup_nil
  canonical _ h := nomatch h

/-- One more edge, to a new keyword by its own literal or to one that is there by another. -/
theorem concat (h : OrderlyEdges slot es) {e : Edge} (hkept : IsKept e.literal)
    (hnew : ∀ e' ∈ es, e'.literal ≠ e.literal)
    (htarget : (slot e.target).kind = .keyword e.literal ∨ ∃ e' ∈ es, e'.target = e.target) :
    OrderlyEdges slot (es ++ [e]) where
  kept e' he' := by
    rcases List.mem_append.1 he' with he' | he'
    · exact h.kept e' he'
    · rwa [List.mem_singleton.1 he']
  distinct := by
    rw [List.map_append, List.map_singleton, List.nodup_append]
    refine ⟨h.distinct, List.nodup_singleton _, ?_⟩
    intro literal hliteral literal' hliteral' heq
    obtain ⟨e', he', rfl⟩ := List.mem_map.1 hliteral
    exact hnew e' he' (heq.trans (List.mem_singleton.1 hliteral'))
  canonical e' he' := by
    have hold : ∀ e' ∈ es, ∃ own ∈ es ++ [e], own.target = e'.target ∧
        (slot e'.target).kind = .keyword own.literal := by
      intro e' he'
      obtain ⟨own, hown, hsame, hkind⟩ := h.canonical e' he'
      exact ⟨own, List.mem_append_left _ hown, hsame, hkind⟩
    rcases List.mem_append.1 he' with he' | he'
    · exact hold e' he'
    · rw [List.mem_singleton.1 he']
      rcases htarget with hkind | ⟨other, hother, hsame⟩
      · exact ⟨e, List.mem_append_right _ (List.mem_singleton_self e), rfl, hkind⟩
      · rw [← hsame]
        exact hold other hother

theorem congr (h : OrderlyEdges slot es) {slot' : NodeId → Slot}
    (hslot : ∀ e ∈ es, slot' e.target = slot e.target) : OrderlyEdges slot' es where
  kept := h.kept
  distinct := h.distinct
  canonical e he := by
    rw [hslot e he]
    exact h.canonical e he

end OrderlyEdges

namespace Branches

/-- What stands below a node, where `slot` tells the slots of the nodes. -/
def Orderly (slot : NodeId → Slot) : Branches → Prop
  | leaf => True
  | keywords es => es ≠ [] ∧ OrderlyEdges slot es
  | parameter child => ∀ literal, (slot child).kind ≠ .keyword literal

theorem Orderly.edges {slot : NodeId → Slot} {b : Branches} (h : b.Orderly slot) :
    OrderlyEdges slot b.edges := by
  cases b with
  | leaf => exact .nil
  | keywords es => exact h.2
  | parameter child => exact .nil

theorem Orderly.congr {slot slot' : NodeId → Slot} {b : Branches} (h : b.Orderly slot)
    (hslot : ∀ c ∈ b.targets, slot' c = slot c) : b.Orderly slot' := by
  cases b with
  | leaf => exact trivial
  | keywords es =>
    exact ⟨h.1, h.2.congr fun e he => hslot e.target (List.mem_map.2 ⟨e, he, rfl⟩)⟩
  | parameter child =>
    intro literal
    rw [hslot child (List.mem_singleton_self child)]
    exact h literal

end Branches

/-! ## What edits keep -/

namespace Grammar

/-- The branches of the node are orderly. -/
def OrderlyAt (g : Grammar C) (id : NodeId) : Prop :=
  (g.node id).branches.Orderly fun j => (g.node j).slot

section
variable {g g' : Grammar C} (hg : g.Grown) (h : ∀ id, g.OrderlyAt id) (hedit : g.Edit g')
include hg h hedit

/-- Branches that an edit leaves as they were stay orderly, since no slot changes. -/
theorem OrderlyAt.of_branches_eq {id : NodeId}
    (hsame : (g'.node id).branches = (g.node id).branches) : g'.OrderlyAt id := by
  rw [OrderlyAt, hsame]
  exact (h id).congr fun c hc => hedit.slot (hg.child_lt hc)

/-- The edges of a node stay orderly among the slots of the edited grammar. -/
theorem orderlyEdges_edit (id : NodeId) :
    OrderlyEdges (fun j => (g'.node j).slot) (g.node id).branches.edges := by
  refine (h id).edges.congr fun e he => hedit.slot ?_
  have hchild : g.Child id e.target := Branches.mem_targets_of_mem_edges he
  exact hg.child_lt hchild

end

/-- The nodes of a grammar after a new one was put below `id`: the new node itself, `id` with its new
branches, and the others, whose branches are as before. -/
theorem orderlyAt_grow {g : Grammar C} (hg : g.Grown) (h : ∀ id, g.OrderlyAt id) {id : NodeId}
    (hid : id < g.nodes.size) {slot : Slot} {attach : NodeId → Branches}
    (hedit : g.Edit (g.grow id slot attach))
    (hnew : (attach g.nodes.size).Orderly fun j => ((g.grow id slot attach).node j).slot)
    (j : NodeId) : (g.grow id slot attach).OrderlyAt j := by
  by_cases hj : j = g.nodes.size
  · rw [OrderlyAt, node_grow hid, if_pos hj]
    exact trivial
  · by_cases hjid : j = id
    · rw [OrderlyAt, node_grow hid, if_neg hj, if_pos hjid]
      exact hnew
    · refine OrderlyAt.of_branches_eq hg h hedit ?_
      rw [node_grow hid, if_neg hj, if_neg hjid]

/-- **An edit keeps all branches orderly.** -/
theorem Edit.orderlyAt {g g' : Grammar C} (hg : g.Grown) (h : ∀ id, g.OrderlyAt id)
    (hedit : g.Edit g') (j : NodeId) : g'.OrderlyAt j := by
  cases hedit with
  | @keyword id literal hid hliteral hkind hnew =>
    have hedit := Edit.keyword hid hliteral hkind hnew
    refine orderlyAt_grow hg h hid hedit ⟨by simp, ?_⟩ j
    have hkept : IsKept (Text.lower literal) := ⟨literal, hliteral, rfl⟩
    refine (orderlyEdges_edit hg h hedit id).concat hkept hnew (.inl ?_)
    rw [slot_grow_new hid]
    exact congrArg SlotKind.keyword hkept.lower_eq
  | @parameter id slot hid hleaf hkind hfallback =>
    refine orderlyAt_grow hg h hid (.parameter hid hleaf hkind hfallback) (fun literal => ?_) j
    dsimp only
    rw [slot_grow_new hid]
    exact hkind literal
  | @synonym id target es name hkeywords hliteral hnew htarget =>
    have hedit := Edit.synonym hkeywords hliteral hnew htarget
    by_cases hj : j = id ∧ id < g.nodes.size
    · rw [OrderlyAt, node_modify, if_pos hj]
      refine ⟨by simp, ?_⟩
      have hes := orderlyEdges_edit hg h hedit id
      rw [hkeywords] at hes htarget
      exact hes.concat ⟨name, hliteral, rfl⟩ hnew (.inr (List.mem_map.1 htarget))
    · refine OrderlyAt.of_branches_eq hg h hedit ?_
      rw [node_modify, if_neg hj]
  | permission =>
    refine OrderlyAt.of_branches_eq hg h .permission ?_
    rw [node_modify]
    split_ifs <;> rfl
  | command hnone =>
    refine OrderlyAt.of_branches_eq hg h (.command hnone) ?_
    rw [node_modify]
    split_ifs <;> rfl

/-- **In a grammar that has grown, all branches are orderly.** -/
theorem Grown.orderly {g : Grammar C} (h : g.Grown) (id : NodeId) : g.OrderlyAt id := by
  induction h generalizing id with
  | empty =>
    have hleaf : ((Grammar.empty : Grammar C).node id).branches = .leaf := by
      cases id with
      | zero => rfl
      | succ id => rw [node_of_size_le (Nat.succ_le_succ (Nat.zero_le id))]; rfl
    rw [OrderlyAt, hleaf]
    exact trivial
  | edit hg hedit ih => exact Edit.orderlyAt hg ih hedit id

/-! ## What follows for look-up -/

section
variable {g : Grammar C} (h : g.Grown)
include h

theorem Grown.leaf_iff {id : NodeId} :
    (g.node id).branches = .leaf ↔ ∀ child, ¬ g.Child id child := by
  have horderly := h.orderly id
  unfold OrderlyAt at horderly
  unfold Child
  cases hb : (g.node id).branches with
  | leaf => simp [Branches.targets]
  | keywords es =>
    rw [hb] at horderly
    obtain ⟨e, he⟩ := List.exists_mem_of_ne_nil es horderly.1
    simp only [reduceCtorEq, false_iff, not_forall, not_not]
    exact ⟨e.target, List.mem_map.2 ⟨e, he, rfl⟩⟩
  | parameter child => simp [Branches.targets]

theorem Grown.segment_parameter {id child : NodeId}
    (hb : (g.node id).branches = .parameter child) : (g.node child).segment = wildcard := by
  have hkind := h.orderly id
  rw [OrderlyAt, hb] at hkind
  unfold Node.segment
  split
  · rename_i literal heq
    exact absurd heq (hkind literal)
  · rfl

section
variable {id : NodeId} {es : List Edge} (hb : (g.node id).branches = .keywords es)
include hb

theorem Grown.orderlyEdges : OrderlyEdges (fun j => (g.node j).slot) es := by
  have horderly := h.orderly id
  rw [OrderlyAt, hb] at horderly
  exact horderly.2

/-- A keyword stands on the edge of its own segment. -/
theorem Grown.exists_own_edge {e : Edge} (he : e ∈ es) :
    ∃ own ∈ es, own.target = e.target ∧ own.literal = (g.node e.target).segment := by
  obtain ⟨own, hown, hsame, hkind⟩ := (h.orderlyEdges hb).canonical e he
  refine ⟨own, hown, hsame, ?_⟩
  rw [Node.segment, hkind]

/-- At most one edge satisfies a test that tells the literals apart. -/
theorem Grown.targetWhere?_eq_some {p : String → Bool} {e : Edge} (he : e ∈ es)
    (hp : p e.literal = true)
    (honly : ∀ e' ∈ es, p e'.literal = true → e'.literal = e.literal) :
    Branches.targetWhere? p es = some e.target := by
  have hinj := List.inj_on_of_nodup_map (h.orderlyEdges hb).distinct
  unfold Branches.targetWhere?
  cases hfind : es.find? (p ·.literal) with
  | none => exact absurd hp (List.find?_eq_none.1 hfind e he)
  | some e' =>
    have hmem := List.mem_of_find?_eq_some hfind
    have hp' := List.find?_some hfind
    rw [hinj hmem he (honly e' hmem hp'), Option.map_some]

/-- **A segment leads to its keyword**, whatever literal the keyword was found by. -/
theorem Grown.targetWhere?_segment {e : Edge} (he : e ∈ es) :
    Branches.targetWhere? (· == (g.node e.target).segment) es = some e.target := by
  obtain ⟨own, hown, hsame, hliteral⟩ := h.exists_own_edge hb he
  rw [← hsame] at hliteral ⊢
  refine h.targetWhere?_eq_some hb hown (beq_iff_eq.2 hliteral) fun e' _ hp => ?_
  exact (beq_iff_eq.1 hp).trans hliteral.symm

/-- **A token leads to one keyword at most**, by the literal that it agrees with up to ASCII case. -/
theorem Grown.targetWhere?_eq_some_iff {token : String} {next : NodeId} :
    Branches.targetWhere? (Text.sameUpToAsciiCase · token) es = some next ↔
      ∃ e ∈ es, Text.sameUpToAsciiCase e.literal token = true ∧ e.target = next := by
  have hkept := (h.orderlyEdges hb).kept
  constructor
  · intro hsome
    obtain ⟨e, hfind, rfl⟩ := Option.map_eq_some_iff.1 hsome
    have htoken := List.find?_some hfind
    exact ⟨e, List.mem_of_find?_eq_some hfind, htoken, rfl⟩
  · rintro ⟨e, he, htoken, rfl⟩
    refine h.targetWhere?_eq_some hb he htoken fun e' he' htoken' => ?_
    -- Lowercase literals that agree with one token up to ASCII case are the same.
    rw [Text.sameUpToAsciiCase_iff] at htoken htoken'
    rw [← (hkept e' he').foldAscii_eq, ← (hkept e he).foldAscii_eq, htoken, htoken']

end

theorem Grown.isSegment {parent child : NodeId} (hchild : g.Child parent child) :
    Dotted.IsSegment (g.node child).segment := by
  unfold Child at hchild
  cases hb : (g.node parent).branches with
  | leaf =>
    rw [hb] at hchild
    cases hchild
  | keywords es =>
    rw [hb] at hchild
    obtain ⟨e, he, rfl⟩ := List.mem_map.1 hchild
    obtain ⟨own, hown, -, hliteral⟩ := h.exists_own_edge hb he
    rw [← hliteral]
    exact ((h.orderlyEdges hb).kept own hown).isSegment
  | parameter c =>
    rw [hb] at hchild
    obtain rfl := List.mem_singleton.1 hchild
    rw [h.segment_parameter hb]
    exact isSegment_wildcard

end

theorem HasPath.lt_size {g : Grammar C} (h : g.Grown) {id : NodeId} {p : List String}
    (hp : g.HasPath id p) : id < g.nodes.size := by
  cases hp with
  | root => exact h.size_pos
  | child _ hchild => exact h.child_lt hchild

theorem HasPath.isSegment {g : Grammar C} (h : g.Grown) {id : NodeId} {p : List String}
    (hp : g.HasPath id p) : ∀ s ∈ p, Dotted.IsSegment s := by
  induction hp with
  | root => exact fun _ hs => nomatch hs
  | child _ hchild ih =>
    intro s hs
    rcases List.mem_append.1 hs with hs | hs
    · exact ih s hs
    · rw [List.mem_singleton.1 hs]
      exact h.isSegment hchild

end Grammar

end ChatCommands
