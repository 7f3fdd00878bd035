import Mathlib.Data.List.Chain
import ChatCommands.Proofs.Grammar.Growth
import ChatCommands.Grammar.Selection

/-!
# The place of a node

A node may have several literals, and still it stands in one place: there is one way down to it from
the root, and the segments on that way are its canonical path.

* `Grammar.HasPath`: the canonical path of a node.
* `Grown.existsUnique_hasPath`: every node of a grammar that has grown has one, and only one.
* `hasPath_of_walk`: the segments that a walk went through down to a node are the path of the node.

So the path of a selection can be compared with the place of its command, which may lie further up
(`exists_hasPath_of_select`).
-/

namespace ChatCommands

variable {C : Type}

namespace Grammar

/-- The canonical path of a node: the segments on the way down to it. -/
inductive HasPath (g : Grammar C) : NodeId → List String → Prop
  | root : HasPath g root []
  | child {parent child : NodeId} {path : List String} : HasPath g parent path →
      g.Child parent child → HasPath g child (path ++ [(g.node child).segment])

/-! ## One place for every node -/

theorem segment_eq_of_slot_eq {n n' : Node C} (h : n'.slot = n.slot) : n'.segment = n.segment := by
  rw [Node.segment, Node.segment, h]

theorem Child.parent_lt {g : Grammar C} {parent child : NodeId} (h : g.Child parent child) :
    parent < g.nodes.size := by
  by_contra hge
  exact not_child_of_size_le (Nat.le_of_not_lt hge) child h

/-- The nodes can be given paths such that each is its parent's with one segment more. -/
theorem Grown.exists_place {g : Grammar C} (h : g.Grown) :
    ∃ place : NodeId → List String, place ChatCommands.root = [] ∧
      ∀ parent child, g.Child parent child →
        place child = place parent ++ [(g.node child).segment] := by
  induction h with
  | empty =>
    exact ⟨fun _ => [], rfl, fun parent child h => absurd h (not_child_empty parent child)⟩
  | @edit g g' hg hedit ih =>
    obtain ⟨place, hroot, hplace⟩ := ih
    obtain ⟨id, hid⟩ := hedit.child
    -- The new node, if there is one, gets its path from the node that it stands below.
    let place' : NodeId → List String := fun j =>
      if j = g.nodes.size then place id ++ [(g'.node j).segment] else place j
    have hold : ∀ {j}, j < g.nodes.size → place' j = place j := fun hj => if_neg (Nat.ne_of_lt hj)
    refine ⟨place', (hold hg.size_pos).trans hroot, fun parent child hchild => ?_⟩
    rcases hid parent child hchild with h | ⟨rfl, hnew⟩
    · have hlt := hg.child_lt h
      rw [hold hlt, hold h.parent_lt, hplace _ _ h, segment_eq_of_slot_eq (hedit.slot hlt)]
    · rw [hold hnew.parent_lt]
      exact if_pos hnew.child_eq

theorem Grown.hasPath_unique {g : Grammar C} (h : g.Grown) {id : NodeId} {p q : List String}
    (hp : g.HasPath id p) (hq : g.HasPath id q) : p = q := by
  obtain ⟨place, hroot, hplace⟩ := h.exists_place
  have hall : ∀ {id : NodeId} {p : List String}, g.HasPath id p → p = place id := by
    intro id p hp
    induction hp with
    | root => exact hroot.symm
    | child _ hchild ih => rw [ih, ← hplace _ _ hchild]
  rw [hall hp, hall hq]

theorem HasPath.edit {g g' : Grammar C} (hg : g.Grown) (hedit : g.Edit g') {id : NodeId}
    {p : List String} (h : g.HasPath id p) : g'.HasPath id p := by
  induction h with
  | root => exact .root
  | @child parent child path _ hchild ih =>
    rw [← segment_eq_of_slot_eq (hedit.slot (hg.child_lt hchild))]
    exact .child ih (hedit.keeps.child hchild)

theorem HasPath.growsInto {g g' : Grammar C} (hg : g.Grown) (hgrow : g.GrowsInto g') {id : NodeId}
    {p : List String} (h : g.HasPath id p) : g'.Grown ∧ g'.HasPath id p := by
  induction hgrow with
  | refl => exact ⟨hg, h⟩
  | tail _ hedit ih =>
    obtain ⟨hgrown, hpath⟩ := ih
    exact ⟨hgrown.edit hedit, hpath.edit hgrown hedit⟩

theorem Grown.exists_hasPath {g : Grammar C} (h : g.Grown) {id : NodeId}
    (hid : id < g.nodes.size) : ∃ p, g.HasPath id p := by
  induction h generalizing id with
  | empty =>
    obtain rfl : id = ChatCommands.root := Nat.lt_one_iff.1 hid
    exact ⟨[], .root⟩
  | edit hg hedit ih =>
    rcases hedit.keeps.attached hid with hlt | ⟨parent, hlt, hchild⟩
    · exact (ih hlt).imp fun p hp => hp.edit hg hedit
    · obtain ⟨p, hp⟩ := ih hlt
      exact ⟨_, .child (hp.edit hg hedit) hchild⟩

/-- **Every node has one canonical path.** -/
theorem Grown.existsUnique_hasPath {g : Grammar C} (h : g.Grown) {id : NodeId}
    (hid : id < g.nodes.size) : ∃! p, g.HasPath id p := by
  obtain ⟨p, hp⟩ := h.exists_hasPath hid
  exact ⟨p, hp, fun q hq => h.hasPath_unique hq hp⟩

/-! ## Walks go from parent to child -/

/-- A walk goes down: each node that it enters stands below the one before. -/
theorem isChain_walkFrom (g : Grammar C) (accepts : Slot → String → Bool) (id : NodeId)
    (tokens : List String) :
    List.IsChain g.Child (id :: (g.walkFrom accepts id tokens).entered) := by
  induction tokens generalizing id with
  | nil => exact .singleton id
  | cons token tokens ih =>
    unfold walkFrom
    split
    next => exact .singleton id
    next es hes =>
      split
      next next hnext =>
        refine .cons_cons ?_ (ih next)
        rw [Child, hes]
        exact Branches.targets_of_targetWhere? hnext
      next => exact .singleton id
    next next hnext =>
      have hchild : g.Child id next := by
        rw [Child, hnext]
        exact List.mem_singleton_self _
      dsimp only
      split_ifs
      · exact .cons_cons hchild (ih next)
      · exact .singleton id
      · exact .singleton id

theorem HasPath.of_isChain {g : Grammar C} {id next : NodeId} {p : List String}
    {before after : List NodeId} (hp : g.HasPath id p)
    (h : List.IsChain g.Child (id :: (before ++ next :: after))) :
    g.HasPath next (p ++ (before ++ [next]).map fun id => (g.node id).segment) := by
  induction before generalizing id p with
  | nil => exact hp.child (List.isChain_cons_cons.1 h).1
  | cons b before ih =>
    obtain ⟨hb, htail⟩ := List.isChain_cons_cons.1 h
    have := ih (hp.child hb) htail
    rwa [List.append_assoc] at this

/-- **A walk goes along canonical paths.** -/
theorem hasPath_of_walk (g : Grammar C) (accepts : Slot → String → Bool) (tokens : List String)
    {before after : List NodeId} {id : NodeId}
    (h : (g.walk accepts tokens).entered = before ++ id :: after) :
    g.HasPath id ((before ++ [id]).map fun id => (g.node id).segment) := by
  have hchain := g.isChain_walkFrom accepts root tokens
  rw [show (g.walkFrom accepts root tokens).entered = _ from h] at hchain
  exact HasPath.root.of_isChain hchain

/-! ## The place of the selected command -/

theorem lastCommand_eq_some {g : Grammar C} {ids : List NodeId} {c : C}
    (h : g.lastCommand ids = some c) :
    ∃ before id after, ids = before ++ id :: after ∧ (g.node id).command = some c := by
  have hfold : ∀ (ids : List NodeId) (best : Option C),
      ids.foldl (fun best id => (g.node id).command <|> best) best = some c →
        best = some c ∨
          ∃ before id after, ids = before ++ id :: after ∧ (g.node id).command = some c := by
    intro ids
    induction ids with
    | nil => exact fun best h => .inl h
    | cons id ids ih =>
      intro best h
      rw [List.foldl_cons] at h
      rcases ih _ h with hbest | ⟨before, id', after, rfl, hc⟩
      · cases hid : (g.node id).command with
        | none => rw [hid] at hbest; exact .inl hbest
        | some c' =>
          rw [hid] at hbest
          exact .inr ⟨[], id, ids, rfl, hid.trans hbest⟩
      · exact .inr ⟨id :: before, id', after, rfl, hc⟩
  rcases hfold ids none h with hnone | hsome
  · cases hnone
  · exact hsome

theorem lt_size_of_command {g : Grammar C} {id : NodeId} {c : C}
    (h : (g.node id).command = some c) : id < g.nodes.size := by
  by_contra hge
  rw [node_of_size_le (Nat.le_of_not_lt hge)] at h
  cases h

/-- **The selected command lies on the path of the selection**: at a node whose canonical path is a
prefix of it. -/
theorem exists_hasPath_of_select {g : Grammar C} {accepts : Slot → String → Bool}
    {tokens : List String} {c : C} (h : (g.select accepts tokens).command = some c) :
    ∃ id p, (g.node id).command = some c ∧ g.HasPath id p ∧
      p <+: (g.select accepts tokens).segments := by
  have hcommand : g.commandOf (g.walk accepts tokens) = some c := h
  rw [commandOf] at hcommand
  split_ifs at hcommand
  · exact ⟨root, [], hcommand, .root, List.nil_prefix⟩
  · obtain ⟨before, id, after, hentered, hid⟩ := lastCommand_eq_some hcommand
    refine ⟨id, _, hid, g.hasPath_of_walk accepts tokens hentered, ?_⟩
    show _ <+: g.segmentsOf (g.walk accepts tokens)
    have hsplit : before ++ id :: after = before ++ [id] ++ after := List.append_cons ..
    rw [segmentsOf, hentered, hsplit]
    simp only [List.map_append, List.append_assoc, List.prefix_append_right_inj, List.prefix_append]

end Grammar

end ChatCommands
