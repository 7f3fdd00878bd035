import ChatCommands.Proofs.Grammar.Chain
import ChatCommands.Proofs.Grammar.WellFormed

/-!
# What definitions ask for

Which nodes a definition finds, and which it has to make, depends on the definitions before it. What it
asks for does not. Every step is taken at some place, which the definition spells out as the turns from
the root, and asks for one thing there: a keyword or a parameter below, another literal, a permission
suffix or a command.

* `Route`, `Demand`: the places and the things that are asked for there.
* `BuildStep.demands`: what a step asks for, read off the script alone.
* `Grammar.Has`: the features of a node, that is all of a grammar but the slots.
* `Grammar.Serves`: a grammar has what is asked for, and has nothing else.

**Theorem (`serves_build`).** A grammar that is built serves the demands of its definitions. None of them
is lost later, and nothing comes about unasked.
-/

namespace ChatCommands

variable {C : Type}

/-! ## Demands -/

/-- One turn on the way down: along the edge with a literal, or to the parameter. -/
inductive Turn where
  | keyword (literal : String)
  | parameter
  deriving DecidableEq

/-- The turns from the root to a node. A node may have several routes. -/
abbrev Route := List Turn

/-- What can be asked for at a node. -/
inductive Demand (C : Type) where
  /-- The literal leads to a keyword. -/
  | keyword (literal : String)
  /-- The parameter below has this slot. -/
  | parameter (slot : Slot)
  /-- Both literals lead to one keyword, of which `name` is an alias. -/
  | synonym (name target : String)
  | permission (suffix : String)
  | command (c : C)

/-- The turn down to a slot. -/
def Slot.turn (s : Slot) : Turn :=
  match s.kind with
  | .keyword literal => .keyword (Text.lower literal)
  | _ => .parameter

def Slot.demand (s : Slot) : Demand C :=
  match s.kind with
  | .keyword literal => .keyword (Text.lower literal)
  | _ => .parameter s

section
variable {s : Slot} (hkind : ∀ literal, s.kind ≠ .keyword literal)
include hkind

theorem Slot.turn_of_ne : s.turn = .parameter := by
  unfold turn
  split
  next literal hk => exact absurd hk (hkind literal)
  next => rfl

theorem Slot.demand_of_ne : (s.demand : Demand C) = .parameter s := by
  unfold demand
  split
  next literal hk => exact absurd hk (hkind literal)
  next => rfl

end

namespace BuildStep

/-- Where a step that was taken at `p` leaves the cursor. -/
def goesTo (p : Route) : BuildStep C → Route
  | start name => [.keyword (Text.lower name)]
  | keyword literal => p ++ [.keyword (Text.lower literal)]
  | slot s => p ++ [s.turn]
  | _ => p

mutual

/-- What a step asks for that is taken at `p`, each thing with its place. -/
def demands (p : Route) : BuildStep C → List (Route × Demand C)
  | start name => [([], .keyword (Text.lower name))]
  | keyword literal => [(p, .keyword (Text.lower literal))]
  | slot s => [(p, s.demand)]
  | synonym name target => [(p, .synonym (Text.lower name) (Text.lower target))]
  | permission suffix => [(p, .permission (Text.lower suffix))]
  | command c => [(p, .command c)]
  | scope steps => demandsAll p steps

/-- What steps ask for that are taken one after the other, the first one at `p`. -/
def demandsAll (p : Route) : List (BuildStep C) → List (Route × Demand C)
  | [] => []
  | step :: steps => demands p step ++ demandsAll (step.goesTo p) steps

end

end BuildStep

/-! ## Features -/

/-- What a node can have. -/
inductive Feature (C : Type) where
  | edge (literal : String) (child : NodeId)
  | parameter (child : NodeId)
  | command (c : C)
  | permission (suffix : String)

def Node.Has (n : Node C) : Feature C → Prop
  | .edge literal child => ⟨literal, child⟩ ∈ n.branches.edges
  | .parameter child => n.branches = .parameter child
  | .command c => n.command = some c
  | .permission suffix => suffix ∈ n.permissions.stored

/-- A node without children, command and annotations has no features. -/
theorem Node.not_has_ofSlot (slot : Slot) (f : Feature C) : ¬ (Node.ofSlot slot).Has f := by
  cases f with
  | edge => exact List.not_mem_nil
  | parameter => exact fun h => nomatch h
  | command => exact fun h => nomatch h
  | permission => exact StringSet.not_mem_empty

/-- The feature that a turn to `child` takes. -/
def Turn.feature (child : NodeId) : Turn → Feature C
  | keyword literal => .edge literal child
  | parameter => .parameter child

namespace Grammar

def Has (g : Grammar C) (id : NodeId) (f : Feature C) : Prop := (g.node id).Has f

/-- The turn leads from `id` to `child`. -/
def Turns (g : Grammar C) (id : NodeId) (t : Turn) (child : NodeId) : Prop :=
  g.Has id (t.feature child)

/-- The route leads to the node. -/
inductive Reaches (g : Grammar C) : Route → NodeId → Prop
  | root : Reaches g [] root
  | turn {p : Route} {id child : NodeId} {t : Turn} : Reaches g p id → g.Turns id t child →
      Reaches g (p ++ [t]) child

/-! ### Turns and children -/

theorem has_edge_iff {g : Grammar C} {id : NodeId} {es : List Edge}
    (hkeywords : (g.node id).branches = .keywords es) {literal : String} {child : NodeId} :
    g.Has id (.edge literal child) ↔ ⟨literal, child⟩ ∈ es := by
  unfold Has Node.Has
  rw [hkeywords]
  rfl

theorem Turns.child {g : Grammar C} {id child : NodeId} {t : Turn} (h : g.Turns id t child) :
    g.Child id child := by
  cases t with
  | keyword literal => exact Branches.mem_targets_of_mem_edges h
  | parameter =>
    have hb : (g.node id).branches = .parameter child := h
    rw [Child, hb]
    exact List.mem_singleton_self _

section
variable {g : Grammar C} (hg : g.Grown)
include hg

theorem Grown.turns_unique {id child child' : NodeId} {t : Turn} (h : g.Turns id t child)
    (h' : g.Turns id t child') : child = child' := by
  cases t with
  | keyword literal =>
    have hinj := List.inj_on_of_nodup_map (hg.orderly id).edges.distinct
    exact congrArg Edge.target (hinj h h' rfl)
  | parameter => exact Branches.parameter.inj (Eq.trans (Eq.symm h) h')

/-- **A route leads to one node.** -/
theorem Grown.reaches_unique {p : Route} {id id' : NodeId} (h : g.Reaches p id)
    (h' : g.Reaches p id') : id = id' := by
  induction h generalizing id' with
  | root =>
    generalize hnil : ([] : Route) = q at h'
    cases h' with
    | root => rfl
    | turn => exact absurd hnil (List.append_ne_nil_of_right_ne_nil _ (List.cons_ne_nil _ _)).symm
  | @turn p id child t _ hturn ih =>
    generalize hq : p ++ [t] = q at h'
    cases h' with
    | root => exact absurd hq (List.append_ne_nil_of_right_ne_nil _ (List.cons_ne_nil _ _))
    | turn hreaches' hturn' =>
      obtain ⟨rfl, ht⟩ := List.append_inj' hq rfl
      obtain rfl := List.singleton_inj.1 ht
      obtain rfl := ih hreaches'
      exact hg.turns_unique hturn hturn'

end

/-! ## Edits and features -/

/-- From `g` to `g'`, the node `id` got one more feature, and no other node changed. -/
def Adds (g g' : Grammar C) (id : NodeId) (new : Feature C) : Prop :=
  ∀ j f, g'.Has j f ↔ g.Has j f ∨ (j = id ∧ f = new)

theorem adds_modify {g : Grammar C} {id : NodeId} (hid : id < g.nodes.size) {new : Feature C}
    {F : Node C → Node C} (hF : ∀ f, (F (g.node id)).Has f ↔ (g.node id).Has f ∨ f = new) :
    Adds g (g.modify id F) id new := by
  intro j f
  unfold Has
  rw [node_modify]
  by_cases hj : j = id
  · subst hj
    simp [hid, hF]
  · simp [hj]

theorem adds_grow {g : Grammar C} {id : NodeId} (hid : id < g.nodes.size) {slot : Slot}
    {attach : NodeId → Branches} {new : Feature C}
    (hattach : ∀ f, ({ g.node id with branches := attach g.nodes.size } : Node C).Has f ↔
      (g.node id).Has f ∨ f = new) :
    Adds g (g.grow id slot attach) id new := by
  intro j f
  unfold Has
  rw [node_grow hid]
  by_cases hj : j = g.nodes.size
  · subst hj
    rw [if_pos rfl, node_of_size_le (Nat.le_refl _)]
    have hdefault : ¬ (default : Node C).Has f := Node.not_has_ofSlot _ f
    simp [Node.not_has_ofSlot, hdefault, (Nat.ne_of_lt hid).symm]
  · rw [if_neg hj]
    by_cases hid : j = id
    · subst hid
      simp [hattach]
    · simp [hid]

section
variable {g : Grammar C} {id : NodeId} (hid : id < g.nodes.size)
include hid

theorem adds_keyword (slot : Slot) (literal : String)
    (hkind : ∀ child, (g.node id).branches ≠ .parameter child) :
    Adds g (g.grow id slot fun new =>
      .keywords ((g.node id).branches.edges ++ [⟨literal, new⟩])) id
      (.edge literal g.nodes.size) := by
  refine adds_grow hid fun f => ?_
  cases f <;> simp [Node.Has, Branches.edges, hkind]

theorem adds_parameter (slot : Slot) (hleaf : (g.node id).branches = .leaf) :
    Adds g (g.grow id slot .parameter) id (.parameter g.nodes.size) := by
  refine adds_grow hid fun f => ?_
  cases f <;> simp [Node.Has, Branches.edges, hleaf, eq_comm]

theorem adds_synonym {es : List Edge} (hkeywords : (g.node id).branches = .keywords es)
    (name : String) (target : NodeId) :
    Adds g (g.modify id fun n => { n with branches := .keywords (es ++ [⟨name, target⟩]) }) id
      (.edge name target) := by
  refine adds_modify hid fun f => ?_
  cases f <;> simp [Node.Has, Branches.edges, hkeywords]

theorem adds_permission (suffix : String) :
    Adds g (g.modify id fun n => { n with permissions := n.permissions.insert suffix }) id
      (.permission (Text.lower suffix)) := by
  refine adds_modify hid fun f => ?_
  cases f <;> simp [Node.Has, NameSet.insert, or_comm]

theorem adds_command (hnone : (g.node id).command = none) (c : C) :
    Adds g (g.modify id fun n => { n with command := some c }) id (.command c) := by
  refine adds_modify hid fun f => ?_
  cases f <;> simp [Node.Has, hnone, eq_comm]

end

theorem segment_grow_keyword {g : Grammar C} {id : NodeId} (hid : id < g.nodes.size)
    (literal : String) (attach : NodeId → Branches) :
    ((g.grow id (.keyword literal) attach).node g.nodes.size).segment = Text.lower literal := by
  rw [Node.segment, slot_grow_new hid]
  rfl

theorem modify_of_size_le {g : Grammar C} {id : NodeId} (h : g.nodes.size ≤ id)
    (F : Node C → Node C) (j : NodeId) : (g.modify id F).node j = g.node j := by
  rw [node_modify, if_neg]
  rintro ⟨-, hlt⟩
  exact Nat.not_lt.2 h hlt

/-- **No edit takes a feature away.** -/
theorem Edit.has {g g' : Grammar C} (h : g.Edit g') {j : NodeId} {f : Feature C} (hf : g.Has j f) :
    g'.Has j f := by
  cases h with
  | keyword hid _ hkind => exact (adds_keyword hid _ _ hkind j f).2 (.inl hf)
  | parameter hid hleaf => exact (adds_parameter hid _ hleaf j f).2 (.inl hf)
  | @synonym id target es name hkeywords =>
    rcases Nat.lt_or_ge id g.nodes.size with hid | hid
    · exact (adds_synonym hid hkeywords _ target j f).2 (.inl hf)
    · rwa [Has, modify_of_size_le hid]
  | @permission id suffix =>
    rcases Nat.lt_or_ge id g.nodes.size with hid | hid
    · exact (adds_permission hid suffix j f).2 (.inl hf)
    · rwa [Has, modify_of_size_le hid]
  | @command id c hnone =>
    rcases Nat.lt_or_ge id g.nodes.size with hid | hid
    · exact (adds_command hid hnone c j f).2 (.inl hf)
    · rwa [Has, modify_of_size_le hid]

section
variable {g g' : Grammar C} (hgrow : g.GrowsInto g')
include hgrow

theorem GrowsInto.has {j : NodeId} {f : Feature C} (hf : g.Has j f) : g'.Has j f := by
  induction hgrow with
  | refl => exact hf
  | tail _ hedit ih => exact hedit.has ih

theorem GrowsInto.slot {j : NodeId} (hj : j < g.nodes.size) :
    (g'.node j).slot = (g.node j).slot := by
  induction hgrow with
  | refl => rfl
  | tail hgrow hedit ih => rw [hedit.slot (Nat.lt_of_lt_of_le hj (GrowsInto.size_le hgrow)), ih]

theorem GrowsInto.segment {j : NodeId} (hj : j < g.nodes.size) :
    (g'.node j).segment = (g.node j).segment :=
  segment_eq_of_slot_eq (hgrow.slot hj)

theorem Reaches.growsInto {p : Route} {id : NodeId} (h : g.Reaches p id) : g'.Reaches p id := by
  induction h with
  | root => exact .root
  | turn _ hturn ih => exact .turn ih (hgrow.has hturn)

end

theorem not_has_empty (id : NodeId) (f : Feature C) : ¬ (Grammar.empty : Grammar C).Has id f := by
  cases id with
  | zero => exact Node.not_has_ofSlot _ f
  | succ id =>
    rw [Has, node_of_size_le (Nat.succ_le_succ (Nat.zero_le id))]
    exact Node.not_has_ofSlot _ f

/-! ## Serving demands -/

/-- The node has what is asked for. -/
def Meets (g : Grammar C) (id : NodeId) : Demand C → Prop
  | .keyword literal => ∃ child, g.Has id (.edge literal child)
  | .parameter slot => ∃ child, g.Has id (.parameter child) ∧ (g.node child).slot = slot
  | .synonym name target => ∃ child, g.Has id (.edge name child) ∧ g.Has id (.edge target child) ∧
      (g.node child).segment ≠ name
  | .permission suffix => g.Has id (.permission suffix)
  | .command c => g.Has id (.command c)

section
variable (g : Grammar C) (D : List (Route × Demand C)) (id : NodeId)

/-- Along some route to the node, this is asked for there. -/
def Asked (d : Demand C) : Prop :=
  ∃ p, g.Reaches p id ∧ (p, d) ∈ D

/-- Demands for synonyms lead from the literal to the segment of a keyword that is asked for. -/
inductive Linked : String → String → Prop
  | own {literal : String} (h : Asked g D id (.keyword literal)) : Linked literal literal
  | synonym {name target segment : String} (h : Asked g D id (.synonym name target))
      (htarget : Linked target segment) : Linked name segment

/-- The feature is there because it was asked for. -/
def Justified : Feature C → Prop
  | .edge literal child => Linked g D id literal (g.node child).segment
  | .parameter child => Asked g D id (.parameter (g.node child).slot)
  | .command c => Asked g D id (.command c)
  | .permission suffix => Asked g D id (.permission suffix)

end

/-- The grammar has what is asked for, and has it for no other reason. -/
structure Serves (g : Grammar C) (D : List (Route × Demand C)) : Prop where
  met : ∀ p d, (p, d) ∈ D → ∃ id, g.Reaches p id ∧ g.Meets id d
  justified : ∀ id f, g.Has id f → g.Justified D id f

theorem serves_empty : (Grammar.empty : Grammar C).Serves [] where
  met _ _ h := nomatch h
  justified id f h := absurd h (not_has_empty id f)

/-! ### What stays -/

section
variable {g g' : Grammar C} (hg : g.Grown) (hgrow : g.GrowsInto g')
include hg hgrow

theorem Meets.growsInto {id : NodeId} {d : Demand C} (h : g.Meets id d) : g'.Meets id d := by
  cases d with
  | keyword literal =>
    obtain ⟨child, hedge⟩ := h
    exact ⟨child, hgrow.has hedge⟩
  | parameter slot =>
    obtain ⟨child, hparameter, hslot⟩ := h
    have hlt := hg.child_lt (Turns.child (t := .parameter) hparameter)
    exact ⟨child, hgrow.has hparameter, (hgrow.slot hlt).trans hslot⟩
  | synonym name target =>
    obtain ⟨child, hname, htarget, hne⟩ := h
    have hlt := hg.child_lt (Turns.child (t := .keyword name) hname)
    refine ⟨child, hgrow.has hname, hgrow.has htarget, ?_⟩
    rwa [hgrow.segment hlt]
  | permission suffix => exact hgrow.has h
  | command c => exact hgrow.has h

variable {D D' : List (Route × Demand C)} (hD : D ⊆ D') {id : NodeId}
include hD

omit hg in
theorem Asked.growsInto {d : Demand C} (h : g.Asked D id d) : g'.Asked D' id d := by
  obtain ⟨p, hp, hd⟩ := h
  exact ⟨p, hp.growsInto hgrow, hD hd⟩

omit hg in
theorem Linked.growsInto {literal segment : String} (h : g.Linked D id literal segment) :
    g'.Linked D' id literal segment := by
  induction h with
  | own h => exact .own (h.growsInto hgrow hD)
  | synonym h _ ih => exact .synonym (h.growsInto hgrow hD) ih

theorem Justified.growsInto {f : Feature C} (hf : g.Has id f) (h : g.Justified D id f) :
    g'.Justified D' id f := by
  cases f with
  | edge literal child =>
    have hlt := hg.child_lt (Turns.child (t := .keyword literal) hf)
    rw [Justified, hgrow.segment hlt]
    exact Linked.growsInto hgrow hD h
  | parameter child =>
    have hlt := hg.child_lt (Turns.child (t := .parameter) hf)
    rw [Justified, hgrow.slot hlt]
    exact Asked.growsInto hgrow hD h
  | command c => exact Asked.growsInto hgrow hD h
  | permission suffix => exact Asked.growsInto hgrow hD h

/-- A grammar that grows goes on serving if it meets the new demands, and by them alone grew. -/
theorem Serves.growsInto (h : g.Serves D)
    (hmet : ∀ p d, (p, d) ∈ D' → (p, d) ∈ D ∨ ∃ id, g'.Reaches p id ∧ g'.Meets id d)
    (hjustified : ∀ id f, g'.Has id f → g.Has id f ∨ g'.Justified D' id f) : g'.Serves D' where
  met p d hd := by
    rcases hmet p d hd with hold | hnew
    · obtain ⟨id, hid, hmeets⟩ := h.met p d hold
      exact ⟨id, hid.growsInto hgrow, hmeets.growsInto hg hgrow⟩
    · exact hnew
  justified id f hf := by
    rcases hjustified id f hf with hold | hnew
    · exact (h.justified id f hold).growsInto hg hgrow hD hold
    · exact hnew

end

section
variable {g : Grammar C} {D : List (Route × Demand C)}

/-- In which order things are asked for, and how often, does not matter. -/
theorem Serves.congr (hg : g.Grown) (h : g.Serves D) {D' : List (Route × Demand C)}
    (hD : ∀ x, x ∈ D ↔ x ∈ D') : g.Serves D' :=
  h.growsInto hg .refl (fun x => (hD x).1) (fun p d hd => .inl ((hD (p, d)).2 hd))
    fun _ _ hf => .inl hf

/-- What is met already may be asked for once more. -/
theorem Serves.again (hg : g.Grown) (h : g.Serves D) {p : Route} {id : NodeId} {d : Demand C}
    (hid : g.Reaches p id) (hmeets : g.Meets id d) : g.Serves (D ++ [(p, d)]) := by
  refine h.growsInto hg .refl (List.subset_append_left _ _) (fun p' d' hd => ?_) fun _ _ hf => .inl hf
  rcases List.mem_append.1 hd with hd | hd
  · exact .inl hd
  · obtain ⟨rfl, rfl⟩ := Prod.mk.inj (List.mem_singleton.1 hd)
    exact .inr ⟨id, hid, hmeets⟩

/-- The one feature that an edit adds is asked for and meets the demand. -/
theorem Serves.edit (hg : g.Grown) (h : g.Serves D) {g' : Grammar C} (hedit : g.Edit g')
    {id : NodeId} {new : Feature C} (hadds : Adds g g' id new) {p : Route} {d : Demand C}
    (hid : g.Reaches p id) (hmeets : g'.Meets id d)
    (hjustified : g'.Justified (D ++ [(p, d)]) id new) : g'.Serves (D ++ [(p, d)]) := by
  have hgrow : g.GrowsInto g' := .single hedit
  refine h.growsInto hg hgrow (List.subset_append_left _ _) (fun p' d' hd => ?_) fun j f hf => ?_
  · rcases List.mem_append.1 hd with hd | hd
    · exact .inl hd
    · obtain ⟨rfl, rfl⟩ := Prod.mk.inj (List.mem_singleton.1 hd)
      exact .inr ⟨id, hid.growsInto hgrow, hmeets⟩
  · rcases (hadds j f).1 hf with hold | ⟨rfl, rfl⟩
    · exact .inl hold
    · exact .inr hjustified

theorem asked_last {p : Route} {id : NodeId} (hid : g.Reaches p id) (d : Demand C) :
    g.Asked (D ++ [(p, d)]) id d :=
  ⟨p, hid, List.mem_append_right _ (List.mem_singleton_self _)⟩

end

end Grammar

/-! ## Builders that follow a script -/

namespace Builder

open Grammar

/-- The script so far led to the cursor along the route, and the grammar serves its demands. -/
structure Follows (b : Builder C) (p : Route) (D : List (Route × Demand C)) : Prop where
  sound : b.Sound
  reaches : b.grammar.Reaches p b.cursor
  serves : b.grammar.Serves D

theorem follows_start : Follows ({} : Builder C) [] [] :=
  ⟨sound_start, .root, serves_empty⟩

section
variable {b b' : Builder C} {p : Route} {D : List (Route × Demand C)} (h : b.Follows p D)
include h

theorem Follows.reset : b.reset.Follows [] D :=
  ⟨h.sound.reset, .root, h.serves⟩

theorem Follows.addKeyword {literal : String} (hb : b.addKeyword literal = .ok b') :
    b'.Follows (p ++ [.keyword (Text.lower literal)])
      (D ++ [(p, .keyword (Text.lower literal))]) := by
  have hsound := ((h.sound.moves_addKeyword hb).extends h.sound).1
  obtain ⟨hliteral, ⟨id, hid, rfl⟩ | ⟨hkind, hnew, rfl⟩⟩ := addKeyword_cases hb
  · exact ⟨hsound, .turn (t := .keyword _) h.reaches hid,
      h.serves.again h.sound.grown h.reaches ⟨id, hid⟩⟩
  · have hedit := Edit.keyword h.sound.cursor_lt hliteral hkind hnew
    have hadds := adds_keyword h.sound.cursor_lt (.keyword (Text.lower literal)) (Text.lower literal) hkind
    have hedge := (hadds _ _).2 (.inr ⟨rfl, rfl⟩)
    have hreaches := h.reaches.growsInto (.single hedit)
    refine ⟨hsound, .turn (t := .keyword _) hreaches hedge,
      h.serves.edit h.sound.grown hedit hadds h.reaches ⟨_, hedge⟩ ?_⟩
    rw [Justified, segment_grow_keyword h.sound.cursor_lt, Text.lower_lower]
    exact .own (asked_last hreaches _)

theorem Follows.addParameter {slot : Slot} (hkind : ∀ literal, slot.kind ≠ .keyword literal)
    (hb : b.addSlot slot = .ok b') :
    b'.Follows (p ++ [.parameter]) (D ++ [(p, .parameter slot)]) := by
  have hsound := ((h.sound.moves_addParameter hkind hb).extends h.sound).1
  rcases addParameter_cases hkind hb with ⟨child, hbranches, rfl, rfl⟩ | ⟨hleaf, hfallback, rfl⟩
  · exact ⟨hsound, .turn (t := .parameter) h.reaches hbranches,
      h.serves.again h.sound.grown h.reaches ⟨child, hbranches, rfl⟩⟩
  · have hedit := Edit.parameter h.sound.cursor_lt hleaf hkind hfallback
    have hadds := adds_parameter h.sound.cursor_lt slot hleaf
    have hparameter := (hadds _ _).2 (.inr ⟨rfl, rfl⟩)
    have hslot := slot_grow_new h.sound.cursor_lt slot .parameter
    have hreaches := h.reaches.growsInto (.single hedit)
    refine ⟨hsound, .turn (t := .parameter) hreaches hparameter,
      h.serves.edit h.sound.grown hedit hadds h.reaches ⟨_, hparameter, hslot⟩ ?_⟩
    rw [Justified, hslot]
    exact asked_last hreaches _

theorem Follows.addSlot {slot : Slot} (hb : b.addSlot slot = .ok b') :
    b'.Follows (p ++ [slot.turn]) (D ++ [(p, slot.demand)]) := by
  by_cases hkind : ∃ literal, slot.kind = .keyword literal
  · obtain ⟨literal, hkind⟩ := hkind
    rw [Builder.addSlot, hkind] at hb
    rw [Slot.turn, Slot.demand, hkind]
    exact h.addKeyword hb
  · have hparameter : ∀ literal, slot.kind ≠ .keyword literal := fun literal hk => hkind ⟨literal, hk⟩
    rw [Slot.turn_of_ne hparameter, Slot.demand_of_ne hparameter]
    exact h.addParameter hparameter hb

theorem Follows.addAlias {name target : String} (hb : b.addAlias name target = .ok b') :
    b'.Follows p (D ++ [(p, .synonym (Text.lower name) (Text.lower target))]) := by
  have hsound := ((moves_addAlias hb).extends h.sound).1
  obtain ⟨hliteral, es, id, hkeywords, hnew, htarget, rfl⟩ := addAlias_cases hb
  have hchild : b.grammar.Child b.cursor id := by
    rw [Child, hkeywords]
    exact List.mem_map.2 ⟨_, htarget, rfl⟩
  have hold := (has_edge_iff hkeywords).2 htarget
  have hedit : b.grammar.Edit _ := .synonym hkeywords hliteral hnew hchild
  have hgrow : b.grammar.GrowsInto _ := .single hedit
  have hadds := adds_synonym h.sound.cursor_lt hkeywords (Text.lower name) id
  have hsegment := hgrow.segment (h.sound.grown.child_lt hchild)
  have hreaches := h.reaches.growsInto hgrow
  refine ⟨hsound, hreaches, h.serves.edit h.sound.grown hedit hadds h.reaches
    ⟨id, (hadds _ _).2 (.inr ⟨rfl, rfl⟩), hedit.has hold, ?_⟩ ?_⟩
  · -- The keyword's own literal stood on an edge before, and the new one did not.
    obtain ⟨own, hown, -, hliteral⟩ := h.sound.grown.exists_own_edge hkeywords htarget
    rw [hsegment, ← hliteral]
    exact hnew own hown
  · rw [Justified, hsegment]
    exact .synonym (asked_last hreaches _)
      (Linked.growsInto hgrow (List.subset_append_left _ _) (h.serves.justified _ _ hold))

theorem Follows.addPermission (suffix : String) :
    (b.addPermission suffix).Follows p (D ++ [(p, .permission (Text.lower suffix))]) := by
  have hedit : b.grammar.Edit (b.addPermission suffix).grammar := .permission
  have hadds := adds_permission h.sound.cursor_lt suffix
  have hreaches := h.reaches.growsInto (.single hedit)
  exact ⟨((Moves.edit hedit).extends h.sound).1, hreaches,
    h.serves.edit h.sound.grown hedit hadds h.reaches ((hadds _ _).2 (.inr ⟨rfl, rfl⟩))
      (asked_last hreaches _)⟩

theorem Follows.setCommand {c : C} (hb : b.setCommand c = .ok b') :
    b'.Follows p (D ++ [(p, .command c)]) := by
  have hsound := ((moves_setCommand hb).extends h.sound).1
  obtain ⟨hnone, rfl⟩ := setCommand_cases hb
  have hedit : b.grammar.Edit _ := .command (c := c) hnone
  have hadds := adds_command h.sound.cursor_lt hnone c
  have hreaches := h.reaches.growsInto (.single hedit)
  exact ⟨hsound, hreaches,
    h.serves.edit h.sound.grown hedit hadds h.reaches ((hadds _ _).2 (.inr ⟨rfl, rfl⟩))
      (asked_last hreaches _)⟩

theorem Follows.returnTo {q : Route} {D' : List (Route × Demand C)} (hgrow : b.Extends b')
    (h' : b'.Follows q D') : (b.returnTo b').Follows p D' :=
  ⟨(hgrow.returnTo h.sound).1, h.reaches.growsInto hgrow.2, h'.serves⟩

end

mutual

/-- **A step that goes through is followed.** -/
theorem Follows.run {b : Builder C} {p : Route} {D : List (Route × Demand C)} (h : b.Follows p D)
    (step : BuildStep C) (hok : (step.run b).2.failure? = none) :
    (step.run b).1.Follows (step.goesTo p) (D ++ step.demands p) := by
  cases step with
  | start name =>
    rw [BuildStep.run, Prod.map_snd, failure?_ofFailure, startCommand] at hok
    rw [BuildStep.run, Prod.map_fst, id_eq, startCommand, BuildStep.demands]
    split_ifs at hok with hempty
    rw [if_neg hempty]
    exact h.reset.addKeyword (eq_ok_of_attempt hok)
  | keyword literal =>
    rw [BuildStep.run] at hok ⊢
    rw [BuildStep.demands]
    exact h.addKeyword (eq_ok_of_answer hok)
  | slot s =>
    rw [BuildStep.run] at hok ⊢
    rw [BuildStep.demands]
    exact h.addSlot (eq_ok_of_answer hok)
  | synonym name target =>
    rw [BuildStep.run] at hok ⊢
    rw [BuildStep.demands]
    exact h.addAlias (eq_ok_of_answer hok)
  | permission suffix =>
    rw [BuildStep.run, BuildStep.demands]
    exact h.addPermission suffix
  | command c =>
    rw [BuildStep.run] at hok ⊢
    rw [BuildStep.demands]
    exact h.setCommand (eq_ok_of_answer hok)
  | scope steps =>
    rw [BuildStep.run, BuildStep.demands]
    have hgrow := h.sound.extends_runUntilFailure steps
    obtain ⟨q, hinner⟩ := h.runUntilFailure steps (by rwa [BuildStep.run] at hok)
    exact h.returnTo hgrow hinner

/-- **Steps that all go through are followed.** -/
theorem Follows.runUntilFailure {b : Builder C} {p : Route} {D : List (Route × Demand C)}
    (h : b.Follows p D) (steps : List (BuildStep C))
    (hok : (BuildStep.runUntilFailure steps b).2.2 = none) :
    ∃ q, (BuildStep.runUntilFailure steps b).1.Follows q (D ++ BuildStep.demandsAll p steps) := by
  cases steps with
  | nil =>
    rw [BuildStep.demandsAll, List.append_nil]
    exact ⟨p, h⟩
  | cons step steps =>
    rw [BuildStep.runUntilFailure] at hok ⊢
    dsimp only at hok ⊢
    split at hok
    next => cases hok
    next hstep =>
      obtain ⟨q, hrest⟩ := (h.run step hstep).runUntilFailure steps hok
      rw [BuildStep.demandsAll, ← List.append_assoc]
      exact ⟨q, by simpa only [hstep] using hrest⟩

end

end Builder

namespace Grammar

/-! ## Definitions -/

theorem follows_define {b b' : Builder C} {p : Route} {D : List (Route × Demand C)}
    (h : b.Follows p D) {definition : Definition C} (hb : define b definition = .ok b') :
    ∃ q, b'.Follows q (D ++ BuildStep.demandsAll [] definition) := by
  unfold define at hb
  have hrun := h.reset.runUntilFailure definition
  split at hb
  next b'' answers heq =>
    cases hb
    rw [heq] at hrun
    exact hrun rfl
  next => cases hb

/-- What definitions ask for, whatever their order. -/
def demandsOf (definitions : List (Definition C)) : List (Route × Demand C) :=
  definitions.flatMap (BuildStep.demandsAll [])

/-- **A grammar that is built serves the demands of its definitions**, and nothing else. -/
theorem serves_build {definitions : List (Definition C)} {g : Grammar C}
    (h : build definitions = .ok g) : g.Grown ∧ g.Serves (demandsOf definitions) := by
  obtain ⟨b, ⟨p, hb⟩, rfl⟩ := exists_of_build
    (motive := fun definitions b => ∃ p, b.Follows p (demandsOf definitions))
    ⟨[], Builder.follows_start⟩ (fun ⟨_, hb⟩ hd => by
      rw [demandsOf, List.flatMap_append, List.flatMap_singleton]
      exact follows_define hb hd) h
  exact ⟨hb.sound.grown, hb.serves⟩

end Grammar

end ChatCommands
