import Mathlib.Logic.Relation
import Mathlib.Order.Basic
import Mathlib.Tactic.SplitIfs
import ChatCommands.Grammar.Builder
import ChatCommands.Proofs.Text.Segments

/-!
# How a grammar grows

Whatever a script does to a builder, the grammar changes by a few elementary edits only: a new keyword
or parameter below a node, another literal for a keyword that is there, a permission suffix, a command
where there was none. No edit takes anything away.

* `Edit`: the elementary edits, each with the conditions that the builder checks.
* `GrowsInto`: a grammar and one that comes from it by edits.
* `Builder.Moves`: what a step can do to a builder.
* `Built`: the grammars of builders that scripts and definitions can reach.

**Theorem (`Built.grown`).** Every grammar that is built comes from the grammar of the root alone by
edits.

So what holds of the root alone and is kept by every edit holds of every grammar that is built.
-/

namespace ChatCommands

variable {C : Type}

namespace Branches

/-- The literals that lead to the nodes below. -/
def edges : Branches → List Edge
  | keywords edges => edges
  | _ => []

/-- The nodes below. -/
def targets : Branches → List NodeId
  | leaf => []
  | keywords edges => edges.map Edge.target
  | parameter child => [child]

theorem targets_of_targetWhere? {p : String → Bool} {es : List Edge} {id : NodeId}
    (h : targetWhere? p es = some id) : id ∈ (keywords es).targets := by
  obtain ⟨e, he, rfl⟩ := Option.map_eq_some_iff.1 h
  exact List.mem_map.2 ⟨e, List.mem_of_find?_eq_some he, rfl⟩

theorem mem_of_targetWhere?_beq {key : String} {es : List Edge} {id : NodeId}
    (h : targetWhere? (· == key) es = some id) : ⟨key, id⟩ ∈ es := by
  obtain ⟨e, he, rfl⟩ := Option.map_eq_some_iff.1 h
  have hfound := List.find?_some he
  have hkey : e.literal = key := beq_iff_eq.1 hfound
  rw [← hkey]
  exact List.mem_of_find?_eq_some he

theorem mem_targets_of_mem_edges {b : Branches} {e : Edge} (h : e ∈ b.edges) :
    e.target ∈ b.targets := by
  cases b with
  | keywords es => exact List.mem_map.2 ⟨e, h, rfl⟩
  | leaf => cases h
  | parameter => cases h

theorem literal_ne_of_targetWhere?_eq_none {key : String} {es : List Edge}
    (h : targetWhere? (· == key) es = none) : ∀ e ∈ es, e.literal ≠ key := by
  intro e he heq
  have := List.find?_eq_none.1 (Option.map_eq_none_iff.1 h) e he
  exact this (beq_iff_eq.2 heq)

/-- Nodes without a parameter below have keywords below, if anything. -/
theorem targets_keywords_edges {b : Branches} (h : ∀ child, b ≠ .parameter child) :
    (keywords b.edges).targets = b.targets := by
  cases b with
  | leaf => rfl
  | keywords es => rfl
  | parameter child => exact absurd rfl (h child)

theorem mem_targets_append {es : List Edge} {c : NodeId} (h : c ∈ (keywords es).targets)
    (es' : List Edge) : c ∈ (keywords (es ++ es')).targets := by
  obtain ⟨e, he, rfl⟩ := List.mem_map.1 h
  exact List.mem_map.2 ⟨e, List.mem_append_left _ he, rfl⟩

end Branches

namespace Grammar

/-! ## Edits -/

/-- The grammar with `f` applied to the node at `id`. -/
def modify (g : Grammar C) (id : NodeId) (f : Node C → Node C) : Grammar C :=
  ⟨g.nodes.modify id f⟩

/-- The grammar with a new node below `id`, which `attach` enters into the branches there. -/
def grow (g : Grammar C) (id : NodeId) (slot : Slot) (attach : NodeId → Branches) : Grammar C :=
  ⟨(g.nodes.modify id fun n => { n with branches := attach g.nodes.size }).push (Node.ofSlot slot)⟩

/-- The elementary edits. -/
inductive Edit (g : Grammar C) : Grammar C → Prop
  | keyword {id : NodeId} {literal : String} (hid : id < g.nodes.size)
      (hliteral : Builder.isLiteral literal = true)
      (hkind : ∀ child, (g.node id).branches ≠ .parameter child)
      (hnew : ∀ e ∈ (g.node id).branches.edges, e.literal ≠ Text.lower literal) :
      Edit g (g.grow id (.keyword (Text.lower literal)) fun new =>
        .keywords ((g.node id).branches.edges ++ [⟨Text.lower literal, new⟩]))
  | parameter {id : NodeId} {slot : Slot} (hid : id < g.nodes.size)
      (hleaf : (g.node id).branches = .leaf) (hkind : ∀ literal, slot.kind ≠ .keyword literal)
      (hfallback : slot.optional = true → (g.node id).command ≠ none) :
      Edit g (g.grow id slot .parameter)
  | synonym {id target : NodeId} {es : List Edge} {name : String}
      (hkeywords : (g.node id).branches = .keywords es)
      (hliteral : Builder.isLiteral name = true) (hnew : ∀ e ∈ es, e.literal ≠ Text.lower name)
      (htarget : target ∈ (g.node id).branches.targets) :
      Edit g (g.modify id fun n =>
        { n with branches := .keywords (es ++ [⟨Text.lower name, target⟩]) })
  | permission {id : NodeId} {suffix : String} :
      Edit g (g.modify id fun n => { n with permissions := n.permissions.insert suffix })
  | command {id : NodeId} {c : C} (hnone : (g.node id).command = none) :
      Edit g (g.modify id fun n => { n with command := some c })

/-- The grammars that come from the root alone by edits. -/
inductive Grown : Grammar C → Prop
  | empty : Grown .empty
  | edit {g g' : Grammar C} : Grown g → Edit g g' → Grown g'

/-- The grammar `g'` comes from `g` by edits. -/
abbrev GrowsInto (g g' : Grammar C) : Prop := Relation.ReflTransGen Edit g g'

/-! ## Nodes after an edit -/

theorem node_of_size_le {g : Grammar C} {id : NodeId} (h : g.nodes.size ≤ id) :
    g.node id = default := by
  rw [node, Array.getElem?_eq_none h, Option.getD_none]

@[simp] theorem size_modify (g : Grammar C) (id : NodeId) (f : Node C → Node C) :
    (g.modify id f).nodes.size = g.nodes.size := Array.size_modify

@[simp] theorem size_grow (g : Grammar C) (id : NodeId) (slot : Slot)
    (attach : NodeId → Branches) : (g.grow id slot attach).nodes.size = g.nodes.size + 1 := by
  simp [grow]

theorem node_modify (g : Grammar C) (id j : NodeId) (f : Node C → Node C) :
    (g.modify id f).node j = if j = id ∧ id < g.nodes.size then f (g.node j) else g.node j := by
  by_cases hj : j < g.nodes.size
  · have hget : g.nodes[j]? = some (g.node j) := by
      rw [node, Array.getElem?_eq_getElem hj, Option.getD_some]
    have hmod : (g.modify id f).node j = ((g.nodes.modify id f)[j]?).getD default := rfl
    rw [hmod, Array.getElem?_modify, hget]
    by_cases h : id = j
    · subst h
      simp [hj]
    · simp [h, Ne.symm h]
  · have hge : g.nodes.size ≤ j := Nat.le_of_not_lt hj
    rw [node_of_size_le (by rw [size_modify]; exact hge), node_of_size_le hge, if_neg]
    rintro ⟨rfl, h⟩
    exact hj h

theorem node_grow {g : Grammar C} {id : NodeId} (hid : id < g.nodes.size) (slot : Slot)
    (attach : NodeId → Branches) (j : NodeId) :
    (g.grow id slot attach).node j =
      if j = g.nodes.size then Node.ofSlot slot
      else if j = id then { g.node j with branches := attach g.nodes.size }
      else g.node j := by
  have hget : (g.grow id slot attach).node j = (((g.nodes.modify id fun n =>
      { n with branches := attach g.nodes.size }).push (Node.ofSlot slot))[j]?).getD default := rfl
  rw [hget, Array.getElem?_push, Array.size_modify]
  by_cases hj : j = g.nodes.size
  · rw [if_pos hj, if_pos hj, Option.getD_some]
  · rw [if_neg hj, if_neg hj]
    have := node_modify g id j fun n => { n with branches := attach g.nodes.size }
    simp only [hid, and_true] at this
    exact this

theorem Edit.size_le {g g' : Grammar C} (h : Edit g g') : g.nodes.size ≤ g'.nodes.size := by
  cases h <;> simp

theorem GrowsInto.size_le {g g' : Grammar C} (h : g.GrowsInto g') :
    g.nodes.size ≤ g'.nodes.size := by
  induction h with
  | refl => exact Nat.le_refl _
  | tail _ hedit ih => exact Nat.le_trans ih hedit.size_le

/-! ## Children after an edit -/

/-- The node `child` stands below `parent`. -/
def Child (g : Grammar C) (parent child : NodeId) : Prop :=
  child ∈ (g.node parent).branches.targets

instance (g : Grammar C) (parent child : NodeId) : Decidable (g.Child parent child) :=
  inferInstanceAs (Decidable (_ ∈ _))

theorem not_child_of_size_le {g : Grammar C} {parent : NodeId} (h : g.nodes.size ≤ parent)
    (child : NodeId) : ¬ g.Child parent child := by
  intro hchild
  rw [Child, node_of_size_le h] at hchild
  cases hchild

theorem not_child_empty (parent child : NodeId) : ¬ (empty : Grammar C).Child parent child := by
  cases parent with
  | zero => exact fun h => nomatch h
  | succ parent => exact not_child_of_size_le (Nat.succ_le_succ (Nat.zero_le _)) child

theorem child_modify {g : Grammar C} {id : NodeId} {f : Node C → Node C}
    (hf : ∀ child ∈ (f (g.node id)).branches.targets, g.Child id child) {parent child : NodeId}
    (h : (g.modify id f).Child parent child) : g.Child parent child := by
  unfold Child at h
  rw [node_modify] at h
  split_ifs at h with hp
  · obtain ⟨rfl, -⟩ := hp
    exact hf child h
  · exact h

theorem child_grow {g : Grammar C} {id : NodeId} (hid : id < g.nodes.size) {slot : Slot}
    {attach : NodeId → Branches}
    (hattach : ∀ child ∈ (attach g.nodes.size).targets, g.Child id child ∨ child = g.nodes.size)
    {parent child : NodeId} (h : (g.grow id slot attach).Child parent child) :
    g.Child parent child ∨ (parent = id ∧ child = g.nodes.size) := by
  unfold Child at h
  rw [node_grow hid] at h
  split_ifs at h with hp hp'
  · cases h
  · subst hp'
    exact (hattach child h).imp_right fun hchild => ⟨rfl, hchild⟩
  · exact .inl h

theorem slot_grow_new {g : Grammar C} {id : NodeId} (hid : id < g.nodes.size) (slot : Slot)
    (attach : NodeId → Branches) :
    ((g.grow id slot attach).node g.nodes.size).slot = slot := by
  rw [node_grow hid, if_pos rfl]
  rfl

/-- From `g` to `g'`, the new node `child` came below `parent`. -/
structure Attaches (g g' : Grammar C) (parent child : NodeId) : Prop where
  parent_lt : parent < g.nodes.size
  child_eq : child = g.nodes.size
  child_lt : child < g'.nodes.size
  /-- There is a command to fall back on where the new node is optional. -/
  fallback : (g'.node child).slot.optional = true → (g.node parent).command ≠ none

theorem attaches_grow {g : Grammar C} {id : NodeId} (hid : id < g.nodes.size) {slot : Slot}
    (hfallback : slot.optional = true → (g.node id).command ≠ none) (attach : NodeId → Branches) :
    Attaches g (g.grow id slot attach) id g.nodes.size where
  parent_lt := hid
  child_eq := rfl
  child_lt := by
    rw [size_grow]
    exact Nat.lt_succ_self _
  fallback hoptional := by
    rw [slot_grow_new hid] at hoptional
    exact hfallback hoptional

/-- **An edit puts at most one node below another**, a new one below one that was there. -/
theorem Edit.child {g g' : Grammar C} (h : Edit g g') :
    ∃ id, ∀ parent child, g'.Child parent child → g.Child parent child ∨
      (parent = id ∧ Attaches g g' id child) := by
  cases h with
  | @keyword id literal hid _ hkind _ =>
    refine ⟨id, fun parent child hchild => ?_⟩
    have hattach : ∀ c ∈ (Branches.keywords ((g.node id).branches.edges ++
        [⟨Text.lower literal, g.nodes.size⟩])).targets, g.Child id c ∨ c = g.nodes.size := by
      intro c hc
      rw [Child, ← Branches.targets_keywords_edges hkind]
      simpa [Branches.targets] using hc
    refine (child_grow hid hattach hchild).imp_right ?_
    rintro ⟨rfl, rfl⟩
    exact ⟨rfl, attaches_grow hid (fun hoptional => absurd hoptional Bool.false_ne_true) _⟩
  | @parameter id slot hid _ _ hfallback =>
    refine ⟨id, fun parent child hchild => ?_⟩
    have hattach : ∀ c ∈ (Branches.parameter g.nodes.size).targets,
        g.Child id c ∨ c = g.nodes.size := fun c hc => .inr (List.mem_singleton.1 hc)
    refine (child_grow hid hattach hchild).imp_right ?_
    rintro ⟨rfl, rfl⟩
    exact ⟨rfl, attaches_grow hid hfallback _⟩
  | @synonym id target es name hkeywords _ _ htarget =>
    refine ⟨id, fun parent child hchild => .inl (child_modify (fun c hc => ?_) hchild)⟩
    simp only [Branches.targets, List.map_append, List.mem_append, List.map_cons, List.map_nil,
      List.mem_singleton] at hc
    rcases hc with hc | rfl
    · unfold Child
      rwa [hkeywords]
    · exact htarget
  | permission | command =>
    refine ⟨root, fun parent child hchild => .inl (child_modify ?_ hchild)⟩
    exact fun c hc => hc

/-- No node of `g` lost its place in `g'`, and each new node has one below a node of `g`. -/
structure Keeps (g g' : Grammar C) : Prop where
  child {parent child : NodeId} : g.Child parent child → g'.Child parent child
  attached {j : NodeId} : j < g'.nodes.size →
    j < g.nodes.size ∨ ∃ parent < g.nodes.size, g'.Child parent j

theorem keeps_modify {g : Grammar C} {id : NodeId} {f : Node C → Node C}
    (hf : ∀ child, g.Child id child → child ∈ (f (g.node id)).branches.targets) :
    Keeps g (g.modify id f) where
  child {parent child} hchild := by
    rw [Child, node_modify]
    split_ifs with hp
    · obtain ⟨rfl, -⟩ := hp
      exact hf child hchild
    · exact hchild
  attached hj := .inl (by rwa [size_modify] at hj)

theorem keeps_grow {g : Grammar C} {id : NodeId} (hid : id < g.nodes.size) {slot : Slot}
    {attach : NodeId → Branches}
    (hold : ∀ child, g.Child id child → child ∈ (attach g.nodes.size).targets)
    (hnew : g.nodes.size ∈ (attach g.nodes.size).targets) : Keeps g (g.grow id slot attach) where
  child {parent child} hchild := by
    have hne : parent ≠ g.nodes.size :=
      fun heq => not_child_of_size_le (Nat.le_of_eq heq.symm) child hchild
    rw [Child, node_grow hid, if_neg hne]
    split_ifs with hp
    · subst hp
      exact hold child hchild
    · exact hchild
  attached {j} hj := by
    rw [size_grow] at hj
    rcases Nat.lt_succ_iff_lt_or_eq.1 hj with hlt | rfl
    · exact .inl hlt
    · refine .inr ⟨id, hid, ?_⟩
      rw [Child, node_grow hid, if_neg (Nat.ne_of_lt hid), if_pos rfl]
      exact hnew

theorem Edit.keeps {g g' : Grammar C} (h : Edit g g') : Keeps g g' := by
  cases h with
  | @keyword id literal hid _ hkind _ =>
    refine keeps_grow hid (fun c hc => ?_) (by simp [Branches.targets])
    rw [Child, ← Branches.targets_keywords_edges hkind] at hc
    exact Branches.mem_targets_append hc _
  | parameter hid hleaf =>
    refine keeps_grow hid (fun c hc => ?_) (List.mem_singleton_self _)
    rw [Child, hleaf] at hc
    cases hc
  | synonym hkeywords =>
    refine keeps_modify fun c hc => ?_
    rw [Child, hkeywords] at hc
    exact Branches.mem_targets_append hc _
  | permission | command =>
    refine keeps_modify ?_
    exact fun c hc => hc

theorem slot_modify {g : Grammar C} {f : Node C → Node C} (hf : ∀ n, (f n).slot = n.slot)
    (id j : NodeId) : ((g.modify id f).node j).slot = (g.node j).slot := by
  rw [node_modify]
  split_ifs
  · exact hf _
  · rfl

/-- No edit changes the slot of a node that is there. -/
theorem Edit.slot {g g' : Grammar C} (h : Edit g g') {j : NodeId} (hj : j < g.nodes.size) :
    (g'.node j).slot = (g.node j).slot := by
  have hgrow : ∀ {id : NodeId} {slot : Slot} {attach : NodeId → Branches}, id < g.nodes.size →
      ((g.grow id slot attach).node j).slot = (g.node j).slot := by
    intro id slot attach hid
    rw [node_grow hid, if_neg (Nat.ne_of_lt hj)]
    split_ifs <;> rfl
  cases h with
  | keyword hid => exact hgrow hid
  | parameter hid => exact hgrow hid
  | synonym | permission | command =>
    refine slot_modify ?_ _ j
    exact fun n => rfl

/-! ## What every grown grammar has -/

theorem Grown.size_pos {g : Grammar C} (h : Grown g) : root < g.nodes.size := by
  induction h with
  | empty => exact Nat.zero_lt_one
  | edit _ hedit ih => exact Nat.lt_of_lt_of_le ih hedit.size_le

/-- The nodes below any node are there. -/
theorem Grown.child_lt {g : Grammar C} (h : Grown g) {parent child : NodeId}
    (hchild : g.Child parent child) : child < g.nodes.size := by
  induction h generalizing parent child with
  | empty => exact absurd hchild (not_child_empty parent child)
  | edit _ hedit ih =>
    obtain ⟨id, hid⟩ := hedit.child
    rcases hid parent child hchild with hold | ⟨-, hnew⟩
    · exact Nat.lt_of_lt_of_le (ih hold) hedit.size_le
    · exact hnew.child_lt

end Grammar

/-! ## Builders -/

namespace Builder

/-- The grammar came about by edits and the cursor is on one of its nodes. -/
structure Sound (b : Builder C) : Prop where
  grown : b.grammar.Grown
  cursor_lt : b.cursor < b.grammar.nodes.size

theorem sound_start : Sound ({} : Builder C) := ⟨.empty, Nat.zero_lt_one⟩

theorem Sound.reset {b : Builder C} (h : b.Sound) : b.reset.Sound := ⟨h.grown, h.grown.size_pos⟩

/-- `b'` is a sound state whose grammar comes from that of `b` by edits. -/
def Extends (b b' : Builder C) : Prop :=
  b'.Sound ∧ b.grammar.GrowsInto b'.grammar

theorem Extends.trans {b₁ b₂ b₃ : Builder C} (h : Extends b₁ b₂) (h' : Extends b₂ b₃) :
    Extends b₁ b₃ :=
  ⟨h'.1, h.2.trans h'.2⟩

theorem Sound.extends {b : Builder C} (h : b.Sound) : b.Extends b := ⟨h, .refl⟩

theorem Sound.extends_reset {b : Builder C} (h : b.Sound) : b.Extends b.reset :=
  ⟨h.reset, .refl⟩

theorem Sound.extends_edit {b b' : Builder C} (h : b.Sound) (hedit : b.grammar.Edit b'.grammar)
    (hcursor : b'.cursor < b'.grammar.nodes.size) : b.Extends b' :=
  ⟨⟨h.grown.edit hedit, hcursor⟩, .single hedit⟩

theorem Sound.extends_descend {b : Builder C} (h : b.Sound) {id : NodeId}
    (hid : b.grammar.Child b.cursor id) : b.Extends (b.descend id) :=
  ⟨⟨h.grown, h.grown.child_lt hid⟩, .refl⟩

theorem Sound.extends_grow {b : Builder C} (h : b.Sound) {slot : Slot}
    {attach : NodeId → Branches} (hedit : b.grammar.Edit (b.grammar.grow b.cursor slot attach)) :
    b.Extends (b.grow slot attach) :=
  h.extends_edit hedit (by
    show b.grammar.nodes.size < (b.grammar.grow b.cursor slot attach).nodes.size
    rw [Grammar.size_grow]
    exact Nat.lt_succ_self _)

theorem Sound.extends_modify {b : Builder C} (h : b.Sound) {f : Node C → Node C}
    (hedit : b.grammar.Edit (b.grammar.modify b.cursor f)) : b.Extends (b.modifyCurrent f) :=
  h.extends_edit hedit (by
    show b.cursor < (b.grammar.modify b.cursor f).nodes.size
    rw [Grammar.size_modify]
    exact h.cursor_lt)

/-! ## What a step does if it goes through -/

theorem isLiteral_of_checkLiteral {literal : String} {u : Unit}
    (h : checkLiteral literal = .ok u) : isLiteral literal = true := by
  unfold checkLiteral at h
  split_ifs at h with hl
  exact hl

theorem isSegment_of_isLiteral {literal : String} (h : isLiteral literal = true) :
    Dotted.IsSegment literal := by
  simp only [isLiteral, Bool.and_eq_true, List.all_eq_true, decide_eq_true_eq] at h
  exact ⟨h.1, fun hdot => (h.2 '.' hdot).1 rfl⟩

/-- Adding a keyword goes down the edge that is there, or down a new one. -/
theorem addKeyword_cases {b b' : Builder C} {literal : String}
    (hb : b.addKeyword literal = .ok b') :
    isLiteral literal = true ∧
      ((∃ id, ⟨Text.lower literal, id⟩ ∈ (b.grammar.node b.cursor).branches.edges ∧
          b' = b.descend id) ∨
        ((∀ child, (b.grammar.node b.cursor).branches ≠ .parameter child) ∧
          (∀ e ∈ (b.grammar.node b.cursor).branches.edges, e.literal ≠ Text.lower literal) ∧
          b' = b.grow (.keyword (Text.lower literal)) fun id =>
            .keywords ((b.grammar.node b.cursor).branches.edges ++ [⟨Text.lower literal, id⟩]))) := by
  have hnode : b.current = b.grammar.node b.cursor := rfl
  rw [← hnode]
  unfold addKeyword at hb
  cases hc : checkLiteral literal with
  | error e => rw [hc] at hb; cases hb
  | ok u =>
    refine ⟨isLiteral_of_checkLiteral hc, ?_⟩
    rw [hc] at hb
    simp only [bind, Except.bind] at hb
    cases hbr : b.current.branches with
    | parameter child => rw [hbr] at hb; cases hb
    | leaf =>
      rw [hbr] at hb
      cases hb
      exact .inr ⟨fun child => by simp, by simp [Branches.edges], rfl⟩
    | keywords es =>
      rw [hbr] at hb
      cases ht : Branches.targetWhere? (· == Text.lower literal) es with
      | some id =>
        simp only [ht] at hb
        cases hb
        exact .inl ⟨id, Branches.mem_of_targetWhere?_beq ht, rfl⟩
      | none =>
        simp only [ht] at hb
        cases hb
        exact .inr ⟨fun child => by simp, Branches.literal_ne_of_targetWhere?_eq_none ht, rfl⟩

/-- Adding a parameter goes down to the same one that is there, or to a new one at a leaf. -/
theorem addParameter_cases {b b' : Builder C} {slot : Slot}
    (hkind : ∀ literal, slot.kind ≠ .keyword literal) (hb : b.addSlot slot = .ok b') :
    (∃ child, (b.grammar.node b.cursor).branches = .parameter child ∧
        (b.grammar.node child).slot = slot ∧ b' = b.descend child) ∨
      ((b.grammar.node b.cursor).branches = .leaf ∧
        (slot.optional = true → (b.grammar.node b.cursor).command ≠ none) ∧
        b' = b.grow slot .parameter) := by
  have hnode : b.current = b.grammar.node b.cursor := rfl
  rw [← hnode]
  unfold addSlot at hb
  split at hb
  next literal hk => exact absurd hk (hkind literal)
  split at hb
  next => cases hb
  next child hbr =>
    dsimp only at hb
    split_ifs at hb with hsame
    cases hb
    exact .inl ⟨child, hbr, Slot.eq_of_same hsame, rfl⟩
  next hbr =>
    split_ifs at hb with hfallback
    cases hb
    refine .inr ⟨hbr, fun hoptional hnone => hfallback ?_, rfl⟩
    simp [hoptional, hnone]

theorem addAlias_cases {b b' : Builder C} {name target : String}
    (hb : b.addAlias name target = .ok b') :
    isLiteral name = true ∧ ∃ es id, (b.grammar.node b.cursor).branches = .keywords es ∧
      (∀ e ∈ es, e.literal ≠ Text.lower name) ∧ ⟨Text.lower target, id⟩ ∈ es ∧
      b' = b.modifyCurrent fun n => { n with branches := .keywords (es ++ [⟨Text.lower name, id⟩]) } := by
  have hnode : b.current = b.grammar.node b.cursor := rfl
  rw [← hnode]
  unfold addAlias at hb
  cases hc : checkLiteral name with
  | error e => rw [hc] at hb; cases hb
  | ok u =>
    refine ⟨isLiteral_of_checkLiteral hc, ?_⟩
    rw [hc] at hb
    simp only [bind, Except.bind] at hb
    split at hb
    next es hbr =>
      split_ifs at hb with htaken
      split at hb
      next id ht =>
        cases hb
        refine ⟨es, id, hbr, fun e he heq => htaken ?_, Branches.mem_of_targetWhere?_beq ht, rfl⟩
        exact List.any_eq_true.2 ⟨e, he, beq_iff_eq.2 heq⟩
      next => cases hb
    next => cases hb

theorem setCommand_cases {b b' : Builder C} {c : C} (hb : b.setCommand c = .ok b') :
    (b.grammar.node b.cursor).command = none ∧
      b' = b.modifyCurrent fun n => { n with command := some c } := by
  unfold setCommand at hb
  split_ifs at hb with hsome
  cases hb
  exact ⟨Option.not_isSome_iff_eq_none.1 hsome, rfl⟩

/-! ## Steps -/

/-- What a step can do from the cursor: go down to a node that is there or to a new one, edit the node
under the cursor, or fail. -/
inductive Moves (b : Builder C) : Builder C → Prop
  | fail : Moves b b
  | descend {id : NodeId} (hid : b.grammar.Child b.cursor id) : Moves b (b.descend id)
  | grow {slot : Slot} {attach : NodeId → Branches} (hattach : ∀ id, id ∈ (attach id).targets)
    (hedit : b.grammar.Edit (b.grammar.grow b.cursor slot attach)) : Moves b (b.grow slot attach)
  | edit {f : Node C → Node C} (hedit : b.grammar.Edit (b.grammar.modify b.cursor f)) :
    Moves b (b.modifyCurrent f)

theorem Moves.extends {b b' : Builder C} (hb : b.Moves b') (h : b.Sound) : b.Extends b' := by
  cases hb with
  | fail => exact h.extends
  | descend hid => exact h.extends_descend hid
  | grow _ hedit => exact h.extends_grow hedit
  | edit hedit => exact h.extends_modify hedit

theorem moves_attempt {b : Builder C} {step : Builder C → Except BuildError (Builder C)}
    (hstep : ∀ b', step b = .ok b' → b.Moves b') : b.Moves (b.attempt step).1 := by
  unfold attempt
  cases hs : step b with
  | ok b' => exact hstep b' hs
  | error e => exact .fail

theorem moves_addAlias {b b' : Builder C} {name target : String}
    (hb : b.addAlias name target = .ok b') : b.Moves b' := by
  obtain ⟨hliteral, es, id, hkeywords, hnew, htarget, rfl⟩ := addAlias_cases hb
  refine .edit (.synonym hkeywords hliteral hnew ?_)
  rw [hkeywords]
  exact List.mem_map.2 ⟨_, htarget, rfl⟩

theorem moves_setCommand {b b' : Builder C} {c : C} (hb : b.setCommand c = .ok b') : b.Moves b' := by
  obtain ⟨hnone, rfl⟩ := setCommand_cases hb
  exact .edit (.command hnone)

section
variable {b b' : Builder C} (h : b.Sound)
include h

theorem Sound.moves_addKeyword {literal : String} (hb : b.addKeyword literal = .ok b') :
    b.Moves b' := by
  obtain ⟨hliteral, ⟨id, hid, rfl⟩ | ⟨hkind, hnew, rfl⟩⟩ := addKeyword_cases hb
  · exact .descend (Branches.mem_targets_of_mem_edges hid)
  · refine .grow (fun id => ?_) (.keyword h.cursor_lt hliteral hkind hnew)
    simp [Branches.targets]

theorem Sound.moves_addParameter {slot : Slot} (hkind : ∀ literal, slot.kind ≠ .keyword literal)
    (hb : b.addSlot slot = .ok b') : b.Moves b' := by
  rcases addParameter_cases hkind hb with ⟨child, hbr, -, rfl⟩ | ⟨hleaf, hfallback, rfl⟩
  · refine .descend ?_
    rw [Grammar.Child, hbr]
    exact List.mem_singleton_self _
  · exact .grow (fun id => List.mem_singleton_self id)
      (.parameter h.cursor_lt hleaf hkind hfallback)

theorem Sound.moves_addSlot {slot : Slot} (hb : b.addSlot slot = .ok b') : b.Moves b' := by
  by_cases hkind : ∃ literal, slot.kind = .keyword literal
  · obtain ⟨literal, hkind⟩ := hkind
    rw [addSlot, hkind] at hb
    exact h.moves_addKeyword hb
  · exact h.moves_addParameter (fun literal hk => hkind ⟨literal, hk⟩) hb

/-- A command that is started is added to the root, unless its name is refused at once. -/
theorem Sound.moves_startCommand (name : String) :
    (b.startCommand name).1 = b ∨ b.reset.Moves (b.startCommand name).1 := by
  unfold startCommand
  split_ifs
  · exact .inl rfl
  · exact .inr (moves_attempt fun _ => h.reset.moves_addKeyword)

/-- **Every step is a move from the cursor**, unless it starts a command or is a scope. -/
theorem Sound.moves_run {step : BuildStep C} (hstart : ∀ name, step ≠ .start name)
    (hscope : ∀ steps, step ≠ .scope steps) : b.Moves (step.run b).1 := by
  cases step with
  | start name => exact absurd rfl (hstart name)
  | keyword literal =>
    rw [BuildStep.run, Prod.map_fst, id_eq]
    exact moves_attempt fun _ => h.moves_addKeyword
  | slot s =>
    rw [BuildStep.run, Prod.map_fst, id_eq]
    exact moves_attempt fun _ => h.moves_addSlot
  | synonym name target =>
    rw [BuildStep.run, Prod.map_fst, id_eq]
    exact moves_attempt fun _ => moves_addAlias
  | permission suffix => exact .edit .permission
  | command c =>
    rw [BuildStep.run, Prod.map_fst, id_eq]
    exact moves_attempt fun _ => moves_setCommand
  | scope steps => exact absurd rfl (hscope steps)

theorem Sound.extends_startCommand (name : String) : b.Extends (b.startCommand name).1 := by
  rcases h.moves_startCommand name with hsame | hmoves
  · rw [hsame]
    exact h.extends
  · exact h.extends_reset.trans (hmoves.extends h.reset)

end

theorem Extends.returnTo {b b' : Builder C} (h : b.Sound) (h' : b.Extends b') :
    b.Extends (b.returnTo b') :=
  ⟨⟨h'.1.grown, Nat.lt_of_lt_of_le h.cursor_lt h'.2.size_le⟩, h'.2⟩

mutual

/-- Every step leads from a sound state to a sound state. -/
theorem Sound.extends_run {b : Builder C} (h : b.Sound) (step : BuildStep C) :
    b.Extends (step.run b).1 := by
  cases step with
  | start name =>
    rw [BuildStep.run, Prod.map_fst, id_eq]
    exact h.extends_startCommand name
  | scope steps =>
    rw [BuildStep.run]
    exact (h.extends_runUntilFailure steps).returnTo h
  | _ => exact (h.moves_run (by simp) (by simp)).extends h

theorem Sound.extends_runUntilFailure {b : Builder C} (h : b.Sound)
    (steps : List (BuildStep C)) : b.Extends (BuildStep.runUntilFailure steps b).1 := by
  cases steps with
  | nil => exact h.extends
  | cons step steps =>
    have hstep := h.extends_run step
    rw [BuildStep.runUntilFailure]
    dsimp only
    split
    · exact hstep
    · exact hstep.trans (hstep.1.extends_runUntilFailure steps)

end

end Builder

/-! ## Reachable builders -/

/-- The builders that scripts lead to. A script may go on after a step that failed, and a definition
starts from the root again. -/
inductive Builder.Reachable : Builder C → Prop
  | start : Reachable {}
  | reset {b : Builder C} : Reachable b → Reachable b.reset
  | step {b : Builder C} : Reachable b → (s : BuildStep C) → Reachable (s.run b).1

theorem Builder.Reachable.sound {b : Builder C} (h : b.Reachable) : b.Sound := by
  induction h with
  | start => exact sound_start
  | reset _ ih => exact ih.reset
  | step _ s ih => exact (ih.extends_run s).1

theorem Builder.Reachable.runUntilFailure {b : Builder C} (h : b.Reachable)
    (steps : List (BuildStep C)) : (BuildStep.runUntilFailure steps b).1.Reachable := by
  induction steps generalizing b with
  | nil => exact h
  | cons s steps ih =>
    rw [BuildStep.runUntilFailure]
    dsimp only
    split
    · exact h.step s
    · exact ih (h.step s)

theorem Builder.Reachable.runAll {b : Builder C} (h : b.Reachable) (steps : List (BuildStep C)) :
    (BuildStep.runAll steps b).1.Reachable := by
  induction steps generalizing b with
  | nil => exact h
  | cons s steps ih => exact ih (h.step s)

namespace Grammar

/-- The grammar of some reachable builder. -/
def Built (g : Grammar C) : Prop :=
  ∃ b : Builder C, b.Reachable ∧ b.grammar = g

/-- **Every grammar that is built has grown from the root.** -/
theorem Built.grown {g : Grammar C} (h : g.Built) : g.Grown := by
  obtain ⟨b, hb, rfl⟩ := h
  exact hb.sound.grown

theorem reachable_define {b b' : Builder C} (h : b.Reachable) {definition : Definition C}
    (hb : define b definition = .ok b') : b'.Reachable := by
  unfold define at hb
  have hrun := h.reset.runUntilFailure definition
  split at hb
  next b'' answers heq =>
    cases hb
    rwa [heq] at hrun
  next => cases hb

/-- What holds of the first builder, and is kept by every definition that is accepted, holds of the
builder that a whole list of definitions leads to. -/
theorem exists_of_build {motive : List (Definition C) → Builder C → Prop} (hstart : motive [] {})
    (hdefine : ∀ {definitions b definition b'}, motive definitions b →
      define b definition = .ok b' → motive (definitions ++ [definition]) b')
    {definitions : List (Definition C)} {g : Grammar C} (h : build definitions = .ok g) :
    ∃ b, motive definitions b ∧ b.grammar = g := by
  have hfold : ∀ (later earlier : List (Definition C)) {b b' : Builder C}, motive earlier b →
      later.foldlM define b = .ok b' → motive (earlier ++ later) b' := by
    intro later
    induction later with
    | nil =>
      intro earlier b b' hb h
      cases h
      rwa [List.append_nil]
    | cons d later ih =>
      intro earlier b b' hb h
      rw [List.foldlM_cons] at h
      cases hd : define b d with
      | error e => rw [hd] at h; cases h
      | ok b₁ =>
        rw [hd] at h
        have hlater := ih (earlier ++ [d]) (hdefine hb hd) h
        rwa [List.append_assoc] at hlater
  unfold build at h
  cases hrun : definitions.foldlM define {} with
  | error e => rw [hrun] at h; cases h
  | ok b =>
    rw [hrun] at h
    cases h
    exact ⟨b, hfold definitions [] hstart hrun, rfl⟩

/-- The definitions of a list that is accepted build its grammar. -/
theorem built_of_build {definitions : List (Definition C)} {g : Grammar C}
    (h : build definitions = .ok g) : g.Built :=
  exists_of_build (motive := fun _ b => b.Reachable) .start (fun hb hd => reachable_define hb hd) h

end Grammar

end ChatCommands
