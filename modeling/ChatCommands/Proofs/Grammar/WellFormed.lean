import ChatCommands.Proofs.Grammar.Literals
import ChatCommands.Proofs.Text.Segments

/-!
# Well-formed grammars

The nodes of a grammar stand in one array and refer to each other by position, so nothing but the way
they came about makes them a tree. Steps may enter nodes that are there already, put aliases on edges,
fail halfway through a scope and jump back, and the cursor has to stay on a node all along.

* `Builder.WellFormed`: the nodes form a tree, the literals below each of them can be told apart, and
  every node has a path that no other node has.
* `Builder.LeadsTo`: one builder comes from another by steps, in any order, whether they fail or not.

**Theorem (`wellFormed_of_leadsTo`).** Whatever is done to an empty builder, it is well-formed.
-/

namespace ChatCommands

variable {C : Type}

namespace Grammar

/-! ## Parents -/

section
variable {g : Grammar C} (h : g.Grown)
include h

/-- New nodes get the highest position so far. -/
theorem Grown.parent_lt {parent child : NodeId} (hchild : g.Child parent child) :
    parent < child := by
  induction h generalizing parent child with
  | empty => exact absurd hchild (not_child_empty parent child)
  | edit hg hedit ih =>
    obtain ⟨id, hid⟩ := hedit.child
    rcases hid parent child hchild with hold | ⟨rfl, hnew⟩
    · exact ih hold
    · rw [hnew.child_eq]
      exact hnew.parent_lt

theorem Grown.not_child_root (parent : NodeId) : ¬ g.Child parent root := fun hchild =>
  Nat.not_lt_zero parent (h.parent_lt hchild)

/-- **No node has two parents.** -/
theorem Grown.parent_unique {parent parent' child : NodeId} (hchild : g.Child parent child)
    (hchild' : g.Child parent' child) : parent = parent' := by
  induction h generalizing parent parent' child with
  | empty => exact absurd hchild (not_child_empty parent child)
  | @edit g g' hg hedit ih =>
    obtain ⟨id, hid⟩ := hedit.child
    have hnew : ∀ {parent}, g.Child parent child → ¬ g.Attaches g' id child := by
      intro parent hold hattaches
      exact Nat.lt_irrefl _ (hattaches.child_eq ▸ hg.child_lt hold)
    rcases hid parent child hchild with hold | ⟨rfl, hattaches⟩
    · rcases hid parent' child hchild' with hold' | ⟨-, hattaches⟩
      · exact ih hold hold'
      · exact absurd hattaches (hnew hold)
    · rcases hid parent' child hchild' with hold' | ⟨rfl, -⟩
      · exact absurd hattaches (hnew hold')
      · rfl

/-- Every node but the root has one parent. -/
theorem Grown.existsUnique_parent {id : NodeId} (hid : id < g.nodes.size) (hroot : id ≠ root) :
    ∃! parent, g.Child parent id := by
  obtain ⟨p, hp⟩ := h.exists_hasPath hid
  cases hp with
  | root => exact absurd rfl hroot
  | child _ hchild => exact ⟨_, hchild, fun parent hchild' => h.parent_unique hchild' hchild⟩

end

theorem HasPath.reachable {g : Grammar C} {id : NodeId} {p : List String} (h : g.HasPath id p) :
    Relation.ReflTransGen g.Child ChatCommands.root id := by
  induction h with
  | root => exact .refl
  | child _ hchild ih => exact ih.tail hchild

/-! ## Paths -/

section
variable {g : Grammar C} (h : g.Grown)
include h

/-- Siblings differ in their segments. -/
theorem Grown.child_unique {parent child child' : NodeId} (hchild : g.Child parent child)
    (hchild' : g.Child parent child')
    (hsegment : (g.node child).segment = (g.node child').segment) : child = child' := by
  cases hb : (g.node parent).branches with
  | leaf => exact absurd hchild (h.leaf_iff.1 hb child)
  | parameter next =>
    rw [Child, hb] at hchild hchild'
    exact (List.mem_singleton.1 hchild).trans (List.mem_singleton.1 hchild').symm
  | keywords es =>
    rw [Child, hb] at hchild hchild'
    obtain ⟨e, he, rfl⟩ := List.mem_map.1 hchild
    obtain ⟨e', he', rfl⟩ := List.mem_map.1 hchild'
    have htarget := h.targetWhere?_segment hb he
    rw [hsegment, h.targetWhere?_segment hb he'] at htarget
    exact (Option.some.inj htarget).symm

/-- **A path is that of one node only.** -/
theorem Grown.hasPath_injective {id id' : NodeId} {p : List String} (hp : g.HasPath id p)
    (hp' : g.HasPath id' p) : id = id' := by
  induction hp generalizing id' with
  | root =>
    generalize hnil : ([] : List String) = q at hp'
    cases hp' with
    | root => rfl
    | child => exact absurd hnil (List.append_ne_nil_of_right_ne_nil _ (List.cons_ne_nil _ _)).symm
  | @child parent child q _ hchild ih =>
    generalize hq : q ++ [(g.node child).segment] = q' at hp'
    cases hp' with
    | root => exact absurd hq (List.append_ne_nil_of_right_ne_nil _ (List.cons_ne_nil _ _))
    | child hparent' hchild' =>
      obtain ⟨rfl, hsegment⟩ := List.append_inj' hq rfl
      obtain rfl := ih hparent'
      exact h.child_unique hchild hchild' (List.singleton_inj.1 hsegment)

/-- Not even the dotted forms of two paths are the same. -/
theorem Grown.join_injective {id id' : NodeId} {p p' : List String} (hp : g.HasPath id p)
    (hp' : g.HasPath id' p') (hjoin : Dotted.join p = Dotted.join p') : id = id' := by
  have hsegments := congrArg Dotted.segments hjoin
  rw [Dotted.segments_join_of_isSegment (hp.isSegment h),
    Dotted.segments_join_of_isSegment (hp'.isSegment h)] at hsegments
  subst hsegments
  exact h.hasPath_injective hp hp'

end

/-! ## Optional parameters -/

/-- No edit takes a command away. -/
theorem Edit.command_ne_none {g g' : Grammar C} (h : g.Edit g') {id : NodeId}
    (hid : (g.node id).command ≠ none) : (g'.node id).command ≠ none := by
  have hgrow : ∀ {at' : NodeId} {slot : Slot} {attach : NodeId → Branches},
      at' < g.nodes.size → ((g.grow at' slot attach).node id).command ≠ none := by
    intro at' slot attach hat
    have hlt : id < g.nodes.size := by
      obtain ⟨c, hc⟩ := Option.ne_none_iff_exists'.1 hid
      exact lt_size_of_command hc
    rw [node_grow hat, if_neg (Nat.ne_of_lt hlt)]
    split_ifs <;> exact hid
  cases h with
  | keyword hat => exact hgrow hat
  | parameter hat => exact hgrow hat
  | synonym | permission | command =>
    rw [node_modify]
    split_ifs
    · simp_all
    · exact hid

/-- **An optional parameter stands below a command.** -/
theorem Grown.command_ne_none {g : Grammar C} (h : g.Grown) {parent child : NodeId}
    (hchild : g.Child parent child) (hoptional : (g.node child).slot.optional = true) :
    (g.node parent).command ≠ none := by
  induction h generalizing parent child with
  | empty => exact absurd hchild (not_child_empty parent child)
  | edit hg hedit ih =>
    apply hedit.command_ne_none
    obtain ⟨id, hid⟩ := hedit.child
    rcases hid parent child hchild with hold | ⟨rfl, hnew⟩
    · rw [hedit.slot (hg.child_lt hold)] at hoptional
      exact ih hold hoptional
    · exact hnew.fallback hoptional

end Grammar

/-! ## Literals -/

/-- A literal that edges may have: lowercase, not empty, without dots and blanks. -/
structure IsLowerLiteral (literal : String) : Prop where
  ne_empty : literal ≠ ""
  lower_eq : Text.lower literal = literal
  dot_not_mem : '.' ∉ literal.toList
  not_blank : ∀ c ∈ literal.toList, Text.isBlank c = false

theorem IsKept.isLowerLiteral {literal : String} (h : IsKept literal) : IsLowerLiteral literal where
  ne_empty := h.isSegment.ne_empty
  lower_eq := h.lower_eq
  dot_not_mem := h.isSegment.dot_not_mem
  not_blank := by
    obtain ⟨spelling, hspelling, rfl⟩ := h
    simp only [Builder.isLiteral, Bool.and_eq_true, List.all_eq_true, Bool.not_eq_true'] at hspelling
    exact fun c => Text.isBlank_of_mem_lower fun d hd => (hspelling.2 d hd).2

namespace Builder

/-- The nodes of a builder form a tree, with the cursor on one of them, in which literals and paths
tell the nodes apart. -/
structure WellFormed (b : Builder C) : Prop where
  cursor_lt : b.cursor < b.grammar.nodes.size
  child_lt : ∀ parent child, b.grammar.Child parent child → child < b.grammar.nodes.size
  not_child_root : ∀ parent, ¬ b.grammar.Child parent root
  existsUnique_parent : ∀ id < b.grammar.nodes.size, id ≠ root → ∃! parent, b.grammar.Child parent id
  parent_lt : ∀ parent child, b.grammar.Child parent child → parent < child
  reachable : ∀ id < b.grammar.nodes.size, Relation.ReflTransGen b.grammar.Child root id
  literal : ∀ id, ∀ e ∈ (b.grammar.node id).branches.edges, IsLowerLiteral e.literal
  distinct : ∀ id, (b.grammar.node id).branches.edges.Pairwise fun e e' =>
    Text.sameUpToAsciiCase e.literal e'.literal = false
  /-- Every edge leads to a keyword, beside an edge with the keyword's own literal. -/
  keyword : ∀ id, ∀ e ∈ (b.grammar.node id).branches.edges, ∃ literal,
    (b.grammar.node e.target).slot.kind = .keyword literal ∧
      ⟨literal, e.target⟩ ∈ (b.grammar.node id).branches.edges
  parameter : ∀ id child, (b.grammar.node id).branches = .parameter child →
    ∀ literal, (b.grammar.node child).slot.kind ≠ .keyword literal
  optional : ∀ id child, b.grammar.Child id child →
    (b.grammar.node child).slot.optional = true → (b.grammar.node id).command ≠ none
  existsUnique_path : ∀ id < b.grammar.nodes.size, ∃! p, b.grammar.HasPath id p
  /-- Distinct nodes have distinct paths, also in dotted form. -/
  path_injective : ∀ id id' p p', b.grammar.HasPath id p → b.grammar.HasPath id' p' →
    Dotted.join p = Dotted.join p' → id = id'

theorem Sound.wellFormed {b : Builder C} (h : b.Sound) : b.WellFormed where
  cursor_lt := h.cursor_lt
  child_lt _ _ := h.grown.child_lt
  not_child_root := h.grown.not_child_root
  existsUnique_parent _ := h.grown.existsUnique_parent
  parent_lt _ _ := h.grown.parent_lt
  reachable id hid := by
    obtain ⟨p, hp⟩ := h.grown.exists_hasPath hid
    exact hp.reachable
  literal id e he := ((h.grown.orderly id).edges.kept e he).isLowerLiteral
  distinct id := by
    have hes := (h.grown.orderly id).edges
    refine (List.pairwise_map.1 hes.distinct).imp_of_mem fun {e e'} he he' hne => ?_
    rw [Bool.eq_false_iff, Ne, Text.sameUpToAsciiCase_iff, (hes.kept e he).foldAscii_eq,
      (hes.kept e' he').foldAscii_eq]
    exact hne
  keyword id e he := by
    obtain ⟨own, hown, hsame, hkind⟩ := (h.grown.orderly id).edges.canonical e he
    exact ⟨own.literal, hkind, hsame ▸ hown⟩
  parameter id child hb := by
    have horderly := h.grown.orderly id
    rwa [Grammar.OrderlyAt, hb] at horderly
  optional _ _ := h.grown.command_ne_none
  existsUnique_path _ := h.grown.existsUnique_hasPath
  path_injective _ _ _ _ := h.grown.join_injective

/-! ## Steps in any order -/

/-- The second builder comes from the first by steps, in any order and whether they fail or not. A
scope may go on after a step in it failed, and hold other scopes. -/
inductive LeadsTo : Builder C → Builder C → Prop
  | refl (b : Builder C) : LeadsTo b b
  | reset {b b' : Builder C} (h : LeadsTo b b') : LeadsTo b b'.reset
  | step {b b' : Builder C} (h : LeadsTo b b') (s : BuildStep C) : LeadsTo b (s.run b').1
  | scope {b b' b'' : Builder C} (h : LeadsTo b b') (inner : LeadsTo b' b'') :
    LeadsTo b (b'.returnTo b'')

theorem LeadsTo.extends {b b' : Builder C} (h : LeadsTo b b') (hb : b.Sound) : b.Extends b' := by
  induction h with
  | refl => exact hb.extends
  | reset _ ih => exact (ih hb).trans (ih hb).1.extends_reset
  | step _ s ih => exact (ih hb).trans ((ih hb).1.extends_run s)
  | scope _ _ ih ihinner =>
    have hbefore := ih hb
    exact hbefore.trans ((ihinner hbefore.1).returnTo hbefore.1)

theorem LeadsTo.runAll {b b' : Builder C} (h : LeadsTo b b') (steps : List (BuildStep C)) :
    LeadsTo b (BuildStep.runAll steps b').1 := by
  induction steps generalizing b' with
  | nil => exact h
  | cons s steps ih => exact ih (h.step s)

/-- **Whatever steps are taken, a builder is well-formed.** -/
theorem wellFormed_of_leadsTo {b : Builder C} (h : LeadsTo {} b) : b.WellFormed :=
  (h.extends sound_start).1.wellFormed

end Builder

/-! ## A sample -/

namespace Sample

open Builder

/-- A command with an alias, after a name that is refused. -/
def entitled : Builder String :=
  (BuildStep.runAll [.start "set.voice", .start "Voice", .command "show"] {}).1

/-- Below it, a scope in which a literal is refused and which goes on with a parameter. -/
def rambling : Builder String :=
  entitled.returnTo (BuildStep.runAll [.keyword "on off",
    .slot { name := "state", optional := true, kind := .toggle }, .keyword "Now"] entitled).1

theorem wellFormed_rambling : LeadsTo {} rambling ∧ rambling.WellFormed := by
  have hentitled : LeadsTo {} entitled := (LeadsTo.refl {}).runAll _
  have hrambling : LeadsTo {} rambling := hentitled.scope ((LeadsTo.refl entitled).runAll _)
  exact ⟨hrambling, wellFormed_of_leadsTo hrambling⟩

example : rambling.cursor = 1 ∧ (rambling.grammar.node 2).slot.optional = true ∧
    rambling.grammar.Child 2 3 ∧ (rambling.grammar.node 3).segment = "now" := by
  decide +kernel

end Sample

end ChatCommands
