import Mathlib.Data.List.Sort
import Mathlib.Data.String.Basic
import ChatCommands.Grammar.Arguments
import ChatCommands.Proofs.Grammar.Demands
import ChatCommands.Proofs.Grammar.LongestWalk

/-!
# The order of definitions

The same definitions in another order number the nodes in another way, put edges in another order and
let another definition make a node that several share. A literal may even be a keyword for the first
definition that names it and an alias for the next. As long as all definitions are accepted none of this
shows.

* `Peers`: two grammars that serve the same demands.
* `Twins`: a node of each of them, of one segment and with the same routes.
* `Indistinguishable`: grammars that select and capture the same, and have the same commands.

From twins, the same turns lead to twins again (`Twins.exists_turn`), and twins carry the same command
and annotations. So the walks through two such grammars go side by side.

**Theorem (`build_perm`).** In whichever order definitions are accepted, the grammars that they build
cannot be told apart.
-/

namespace ChatCommands

variable {C : Type}

theorem StringSet.ext_mem {s t : StringSet} (h : ∀ x, x ∈ s ↔ x ∈ t) : s = t := by
  obtain ⟨xs, hxs⟩ := s
  obtain ⟨ys, hys⟩ := t
  obtain rfl : xs = ys := hxs.eq_of_mem_iff hys fun x => h x
  rfl

namespace Grammar

/-- Grammars that nothing shows any difference between. -/
structure Indistinguishable (g g' : Grammar C) : Prop where
  /-- The same command, path and permission suffixes for all tokens, whatever slots accept. -/
  select (accepts : Slot → String → Bool) (tokens : List String) :
    g.select accepts tokens = g'.select accepts tokens
  /-- The same arguments along every path, with the same slots, or the same error. -/
  capture (tokens : List String) (path : String) : g.capture tokens path = g'.capture tokens path
  commandNames : g.commandNames.Perm g'.commandNames

/-! ## Routes -/

theorem Child.exists_turn {g : Grammar C} {id child : NodeId} (h : g.Child id child) :
    ∃ t, g.Turns id t child := by
  unfold Child at h
  unfold Turns Has
  cases hb : (g.node id).branches with
  | leaf =>
    rw [hb] at h
    cases h
  | keywords es =>
    rw [hb] at h
    obtain ⟨⟨literal, target⟩, he, rfl⟩ := List.mem_map.1 h
    exact ⟨.keyword literal, (has_edge_iff hb).2 he⟩
  | parameter next =>
    rw [hb] at h
    obtain rfl := List.mem_singleton.1 h
    exact ⟨.parameter, hb⟩

/-- Where an edge is, there are keywords. -/
theorem exists_keywords_of_has {g : Grammar C} {id child : NodeId} {literal : String}
    (h : g.Has id (.edge literal child)) :
    ∃ es, (g.node id).branches = .keywords es ∧ ⟨literal, child⟩ ∈ es := by
  change _ ∈ (g.node id).branches.edges at h
  cases hb : (g.node id).branches with
  | leaf =>
    rw [hb] at h
    cases h
  | keywords es =>
    rw [hb] at h
    exact ⟨es, rfl, h⟩
  | parameter next =>
    rw [hb] at h
    cases h

section
variable {g : Grammar C} (hg : g.Grown)
include hg

theorem Grown.reaches_root_iff {p : Route} : g.Reaches p root ↔ p = [] := by
  constructor
  · intro h
    generalize hroot : root = id at h
    cases h with
    | root => rfl
    | turn _ hturn =>
      subst hroot
      exact absurd hturn.child (hg.not_child_root _)
  · rintro rfl
    exact .root

/-- A route to a child goes by its parent. -/
theorem Grown.reaches_child_iff {id child : NodeId} (hchild : g.Child id child) {p : Route} :
    g.Reaches p child ↔ ∃ q t, p = q ++ [t] ∧ g.Reaches q id ∧ g.Turns id t child := by
  constructor
  · intro h
    cases h with
    | root => exact absurd hchild (hg.not_child_root id)
    | @turn q id' _ t hq hturn =>
      obtain rfl := hg.parent_unique hturn.child hchild
      exact ⟨q, t, rfl, hq, hturn⟩
  · rintro ⟨q, t, rfl, hq, hturn⟩
    exact .turn hq hturn

theorem Grown.slot_root : (g.node root).slot = Slot.keyword "" := by
  induction hg with
  | empty => rfl
  | edit hg hedit ih => rw [hedit.slot hg.size_pos, ih]

end

/-! ## Twins -/

/-- Two grammars that serve the same demands. -/
structure Peers (D : List (Route × Demand C)) (g g' : Grammar C) : Prop where
  grown : g.Grown
  grown' : g'.Grown
  serves : g.Serves D
  serves' : g'.Serves D

theorem Peers.symm {D : List (Route × Demand C)} {g g' : Grammar C} (h : Peers D g g') :
    Peers D g' g :=
  ⟨h.grown', h.grown, h.serves', h.serves⟩

/-- Nodes of two grammars that the same routes lead to, at least one, and of the same segment. -/
structure Twins (g g' : Grammar C) (id id' : NodeId) : Prop where
  reached : ∃ p, g.Reaches p id
  routes : ∀ p, g.Reaches p id ↔ g'.Reaches p id'
  segment : (g.node id).segment = (g'.node id').segment

section
variable {g g' : Grammar C} {id id' : NodeId}

theorem Twins.symm (h : g.Twins g' id id') : g'.Twins g id' id where
  reached := h.reached.imp fun p => (h.routes p).1
  routes p := (h.routes p).symm
  segment := h.segment.symm

theorem Twins.asked_iff (h : g.Twins g' id id') {D : List (Route × Demand C)} {d : Demand C} :
    g.Asked D id d ↔ g'.Asked D id' d :=
  exists_congr fun p => and_congr_left fun _ => h.routes p

/-- What is asked for at a node is there. -/
theorem Asked.meets (hg : g.Grown) {D : List (Route × Demand C)} (hserves : g.Serves D)
    {d : Demand C} (h : g.Asked D id d) : g.Meets id d := by
  obtain ⟨p, hp, hd⟩ := h
  obtain ⟨j, hj, hmeets⟩ := hserves.met p d hd
  rwa [hg.reaches_unique hp hj]

variable {D : List (Route × Demand C)} (hpeers : Peers D g g')
include hpeers

theorem Peers.twins_root : g.Twins g' root root where
  reached := ⟨[], .root⟩
  routes p := by rw [hpeers.grown.reaches_root_iff, hpeers.grown'.reaches_root_iff]
  segment := segment_eq_of_slot_eq (hpeers.grown.slot_root.trans hpeers.grown'.slot_root.symm)

variable (h : g.Twins g' id id')
include h

theorem Twins.meets {d : Demand C} (hasked : g.Asked D id d) : g'.Meets id' d :=
  (h.asked_iff.1 hasked).meets hpeers.grown' hpeers.serves'

/-- **A literal leads to the same keyword below twins**, be it the keyword's own or an alias. -/
theorem Twins.exists_edge {literal segment : String} (hlinked : g.Linked D id literal segment)
    {child : NodeId} (hedge : g.Has id (.edge literal child))
    (hsegment : (g.node child).segment = segment) :
    ∃ child', g'.Has id' (.edge literal child') ∧ (g'.node child').segment = segment := by
  induction hlinked with
  | @own literal hown =>
    obtain ⟨child', hedge'⟩ := h.meets hpeers hown
    refine ⟨child', hedge', ?_⟩
    cases hpeers.serves'.justified _ _ hedge' with
    | own => rfl
    | synonym hasked' =>
      -- In `g` the literal would be the name of its keyword and an alias as well.
      obtain ⟨c, hname, -, hne⟩ := (h.asked_iff.2 hasked').meets hpeers.grown hpeers.serves
      obtain rfl := hpeers.grown.turns_unique (t := .keyword literal) hname hedge
      exact absurd hsegment hne
  | @synonym name target segment hasked htarget ih =>
    obtain ⟨c, hname, htarget, -⟩ := hasked.meets hpeers.grown hpeers.serves
    obtain rfl := hpeers.grown.turns_unique (t := .keyword name) hname hedge
    obtain ⟨child', hedge', hsegment'⟩ := ih htarget hsegment
    obtain ⟨c', hname', htarget', -⟩ := h.meets hpeers hasked
    obtain rfl := hpeers.grown'.turns_unique (t := .keyword target) htarget' hedge'
    exact ⟨c', hname', hsegment'⟩

theorem Twins.exists_parameter {child : NodeId} (hparameter : g.Has id (.parameter child)) :
    ∃ child', g'.Has id' (.parameter child') ∧ (g.node child).slot = (g'.node child').slot := by
  obtain ⟨child', hparameter', hslot⟩ :=
    h.meets hpeers (hpeers.serves.justified _ _ hparameter)
  exact ⟨child', hparameter', hslot.symm⟩

theorem Twins.exists_segment {t : Turn} {child : NodeId} (hturn : g.Turns id t child) :
    ∃ child', g'.Turns id' t child' ∧ (g.node child).segment = (g'.node child').segment := by
  cases t with
  | keyword literal =>
    obtain ⟨child', hedge', hsegment⟩ :=
      h.exists_edge hpeers (hpeers.serves.justified _ _ hturn) hturn rfl
    exact ⟨child', hedge', hsegment.symm⟩
  | parameter =>
    obtain ⟨child', hparameter', hslot⟩ := h.exists_parameter hpeers hturn
    exact ⟨child', hparameter', segment_eq_of_slot_eq hslot⟩

/-- The same turn leads to twins only: both children are reached by the routes of their parents, and by
the same turns from there. -/
theorem Twins.child {t : Turn} {child child' : NodeId} (hturn : g.Turns id t child)
    (hturn' : g'.Turns id' t child')
    (hsegment : (g.node child).segment = (g'.node child').segment) : g.Twins g' child child' where
  reached := by
    obtain ⟨p, hp⟩ := h.reached
    exact ⟨p ++ [t], .turn hp hturn⟩
  routes p := by
    have hturns : ∀ s, g.Turns id s child ↔ g'.Turns id' s child' := by
      intro s
      constructor
      · intro hs
        obtain ⟨c, hs', hc⟩ := h.exists_segment hpeers hs
        obtain rfl := hpeers.grown'.child_unique hs'.child hturn'.child (hc.symm.trans hsegment)
        exact hs'
      · intro hs'
        obtain ⟨c, hs, hc⟩ := h.symm.exists_segment hpeers.symm hs'
        obtain rfl := hpeers.grown.child_unique hs.child hturn.child (hc.symm.trans hsegment.symm)
        exact hs
    rw [hpeers.grown.reaches_child_iff hturn.child, hpeers.grown'.reaches_child_iff hturn'.child]
    simp only [h.routes, hturns]
  segment := hsegment

/-- **From twins the same turns lead to twins.** -/
theorem Twins.exists_turn {t : Turn} {child : NodeId} (hturn : g.Turns id t child) :
    ∃ child', g'.Turns id' t child' ∧ g.Twins g' child child' := by
  obtain ⟨child', hturn', hsegment⟩ := h.exists_segment hpeers hturn
  exact ⟨child', hturn', h.child hpeers hturn hturn' hsegment⟩

/-- Parameters below twins are twins, with the same slot. -/
theorem Twins.parameter {child : NodeId} (hbranches : (g.node id).branches = .parameter child) :
    ∃ child', (g'.node id').branches = .parameter child' ∧ g.Twins g' child child' ∧
      (g.node child).slot = (g'.node child').slot := by
  obtain ⟨child', hbranches', hslot⟩ := h.exists_parameter hpeers hbranches
  exact ⟨child', hbranches', h.child hpeers (t := .parameter) hbranches hbranches'
    (segment_eq_of_slot_eq hslot), hslot⟩

theorem Twins.leaf (hbranches : (g.node id).branches = .leaf) :
    (g'.node id').branches = .leaf := by
  rw [hpeers.grown'.leaf_iff]
  intro child' hchild'
  obtain ⟨t, hturn'⟩ := hchild'.exists_turn
  obtain ⟨child, hturn, -⟩ := h.symm.exists_turn hpeers.symm hturn'
  exact hpeers.grown.leaf_iff.1 hbranches child hturn.child

theorem Twins.keywords {es : List Edge} (hbranches : (g.node id).branches = .keywords es) :
    ∃ es', (g'.node id').branches = .keywords es' := by
  cases hbranches' : (g'.node id').branches with
  | leaf =>
    rw [h.symm.leaf hpeers.symm hbranches'] at hbranches
    cases hbranches
  | keywords es' => exact ⟨es', rfl⟩
  | parameter child' =>
    obtain ⟨child, hparameter, -⟩ := h.symm.parameter hpeers.symm hbranches'
    rw [hparameter] at hbranches
    cases hbranches

theorem Twins.has_command {c : C} (hc : g.Has id (.command c)) : g'.Has id' (.command c) :=
  h.meets hpeers (hpeers.serves.justified id _ hc)

theorem Twins.command_eq : (g.node id).command = (g'.node id').command :=
  Option.ext fun _ => ⟨h.has_command hpeers, h.symm.has_command hpeers.symm⟩

theorem Twins.has_permission {suffix : String} (hsuffix : g.Has id (.permission suffix)) :
    g'.Has id' (.permission suffix) :=
  h.meets hpeers (hpeers.serves.justified id _ hsuffix)

theorem Twins.permissions_eq : (g.node id).permissions = (g'.node id').permissions :=
  congrArg NameSet.mk
    (StringSet.ext_mem fun _ => ⟨h.has_permission hpeers, h.symm.has_permission hpeers.symm⟩)

/-! ## Walks side by side -/

section
variable {accepts : Slot → String → Bool}

theorem Twins.next? {token : String} {next : NodeId} (hnext : g.next? accepts id token = some next) :
    ∃ next', g'.next? accepts id' token = some next' ∧ g.Twins g' next next' := by
  cases hpeers.grown.leads_iff.2 hnext with
  | @keyword es hbranches e hedge hliteral htarget =>
    subst htarget
    have hturn : g.Turns id (.keyword e.literal) e.target := (has_edge_iff hbranches).2 hedge
    obtain ⟨next', hturn', htwins⟩ := h.exists_turn hpeers hturn
    obtain ⟨es', hbranches', hedge'⟩ := exists_keywords_of_has hturn'
    exact ⟨next', hpeers.grown'.leads_iff.1 (.keyword hbranches' hedge' hliteral rfl), htwins⟩
  | parameter hbranches haccepts henter =>
    obtain ⟨next', hbranches', htwins, hslot⟩ := h.parameter hpeers hbranches
    rw [hslot] at haccepts
    rw [hslot, htwins.command_eq hpeers] at henter
    exact ⟨next', hpeers.grown'.leads_iff.1 (.parameter hbranches' haccepts henter), htwins⟩

theorem Twins.next?_eq_none {token : String} (hnext : g.next? accepts id token = none) :
    g'.next? accepts id' token = none := by
  rw [Option.eq_none_iff_forall_not_mem]
  intro next' hnext'
  obtain ⟨next, hsome, -⟩ := h.symm.next? hpeers.symm hnext'
  rw [hnext] at hsome
  cases hsome

/-- A token that is stuck below a node is stuck below its twin. -/
theorem Twins.stuck {token : String} {tokens : List String} (hnext : g.next? accepts id token = none)
    (hstuck : (g.walkFrom accepts id (token :: tokens)).stuck = true) :
    (g'.walkFrom accepts id' (token :: tokens)).stuck = true := by
  obtain ⟨child, hbranches, hrequired, hrefused⟩ :=
    (walkFrom_cons_of_next?_eq_none hnext tokens).2.1 hstuck
  obtain ⟨child', hbranches', htwins, hslot⟩ := h.parameter hpeers hbranches
  rw [hslot] at hrequired hrefused
  rw [htwins.command_eq hpeers] at hrefused
  exact (walkFrom_cons_of_next?_eq_none (h.next?_eq_none hpeers hnext) tokens).2.2
    ⟨child', hbranches', hrequired, hrefused⟩

/-- **Walks from twins go along twins**, and end in the same way. -/
theorem Twins.walkFrom (accepts : Slot → String → Bool) (tokens : List String) :
    List.Forall₂ (g.Twins g') (g.walkFrom accepts id tokens).entered
        (g'.walkFrom accepts id' tokens).entered ∧
      (g.walkFrom accepts id tokens).stuck = (g'.walkFrom accepts id' tokens).stuck := by
  induction tokens generalizing id id' with
  | nil => exact ⟨.nil, rfl⟩
  | cons token tokens ih =>
    cases hnext : g.next? accepts id token with
    | none =>
      have hnext' := h.next?_eq_none hpeers hnext
      rw [(walkFrom_cons_of_next?_eq_none hnext tokens).1,
        (walkFrom_cons_of_next?_eq_none hnext' tokens).1]
      refine ⟨.nil, Bool.eq_iff_iff.2 ⟨h.stuck hpeers hnext, ?_⟩⟩
      exact h.symm.stuck hpeers.symm hnext'
    | some next =>
      obtain ⟨next', hnext', htwins⟩ := h.next? hpeers hnext
      rw [walkFrom_cons_of_next?_eq_some hnext, walkFrom_cons_of_next?_eq_some hnext']
      obtain ⟨hentered, hstuck⟩ := ih htwins
      exact ⟨.cons htwins hentered, hstuck⟩

end

/-! ## Paths side by side -/

theorem Twins.targetWhere? {es es' : List Edge} (hbranches : (g.node id).branches = .keywords es)
    (hbranches' : (g'.node id').branches = .keywords es') {segment : String} {next : NodeId}
    (hnext : Branches.targetWhere? (· == segment) es = some next) :
    ∃ next', Branches.targetWhere? (· == segment) es' = some next' ∧ g.Twins g' next next' := by
  have hturn : g.Turns id (.keyword segment) next :=
    (has_edge_iff hbranches).2 (Branches.mem_of_targetWhere?_beq hnext)
  obtain ⟨next', hturn', htwins⟩ := h.exists_turn hpeers hturn
  obtain ⟨_, hkeywords, hedge'⟩ := exists_keywords_of_has hturn'
  obtain rfl := Branches.keywords.inj (hkeywords.symm.trans hbranches')
  exact ⟨next', hpeers.grown'.targetWhere?_eq_some hbranches' hedge' (beq_self_eq_true segment)
    fun e' _ hp => beq_iff_eq.1 hp, htwins⟩

theorem Twins.targetWhere?_eq_none {es es' : List Edge}
    (hbranches : (g.node id).branches = .keywords es)
    (hbranches' : (g'.node id').branches = .keywords es') {segment : String}
    (hnext : Branches.targetWhere? (· == segment) es = none) :
    Branches.targetWhere? (· == segment) es' = none := by
  rw [Option.eq_none_iff_forall_not_mem]
  intro next' hnext'
  obtain ⟨next, hsome, -⟩ := h.symm.targetWhere? hpeers.symm hbranches' hbranches hnext'
  rw [hnext] at hsome
  cases hsome

/-- **Capturing from twins gives the same arguments**, or fails in the same way. -/
theorem Twins.captureFrom_eq (path : String) (segments tokens : List String) :
    g.captureFrom path id segments tokens = g'.captureFrom path id' segments tokens := by
  induction segments generalizing id id' tokens with
  | nil => rfl
  | cons segment segments ih =>
    cases tokens with
    | nil => rfl
    | cons token tokens =>
      cases hbranches : (g.node id).branches with
      | leaf => simp only [captureFrom, hbranches, h.leaf hpeers hbranches]
      | parameter next =>
        obtain ⟨next', hbranches', htwins, hslot⟩ := h.parameter hpeers hbranches
        simp only [captureFrom, hbranches, hbranches', hslot, ih htwins]
      | keywords es =>
        obtain ⟨es', hbranches'⟩ := h.keywords hpeers hbranches
        simp only [captureFrom, hbranches, hbranches']
        cases hnext : Branches.targetWhere? (· == segment) es with
        | some next =>
          obtain ⟨next', hnext', htwins⟩ := h.targetWhere? hpeers hbranches hbranches' hnext
          rw [hnext']
          exact ih htwins tokens
        | none => rw [h.targetWhere?_eq_none hpeers hbranches hbranches' hnext]

end

/-! ## Grammars that cannot be told apart -/

section
variable {D : List (Route × Demand C)} {g g' : Grammar C} (hpeers : Peers D g g')
include hpeers

theorem Peers.commandOf_eq (accepts : Slot → String → Bool) (tokens : List String) :
    g.commandOf (g.walk accepts tokens) = g'.commandOf (g'.walk accepts tokens) := by
  have hroot := hpeers.twins_root
  have hleaf : (g.node root).branches = .leaf ↔ (g'.node root).branches = .leaf :=
    ⟨hroot.leaf hpeers, hroot.symm.leaf hpeers.symm⟩
  have hlast : g.lastCommand (g.walk accepts tokens).entered =
      g'.lastCommand (g'.walk accepts tokens).entered := by
    refine List.rel_foldl (P := Eq) ?_ rfl (hroot.walkFrom hpeers accepts tokens).1
    rintro best _ rfl id id' h
    exact congrArg (· <|> best) (h.command_eq hpeers)
  unfold commandOf
  rw [hroot.command_eq hpeers, hlast]
  simp only [hleaf]

theorem Peers.segmentsOf_eq (accepts : Slot → String → Bool) (tokens : List String) :
    g.segmentsOf (g.walk accepts tokens) = g'.segmentsOf (g'.walk accepts tokens) := by
  obtain ⟨hentered, hstuck⟩ := hpeers.twins_root.walkFrom hpeers accepts tokens
  have hsegments := List.rel_map (P := Eq) (fun id id' (h : g.Twins g' id id') => h.segment) hentered
  rw [List.forall₂_eq_eq_eq] at hsegments
  unfold segmentsOf walk
  rw [hsegments, hstuck]

theorem Peers.permissionsOf_eq (accepts : Slot → String → Bool) (tokens : List String) :
    g.permissionsOf (g.walk accepts tokens) = g'.permissionsOf (g'.walk accepts tokens) := by
  refine List.rel_foldl (P := Eq) ?_ rfl (hpeers.twins_root.walkFrom hpeers accepts tokens).1
  rintro gathered _ rfl id id' h
  exact congrArg gathered.union (h.permissions_eq hpeers)

omit hpeers in
theorem commandNames_eq (g : Grammar C) :
    g.commandNames = (g.node root).branches.edges.map Edge.literal := by
  unfold commandNames
  cases (g.node root).branches <;> rfl

theorem Peers.subset_commandNames : g.commandNames ⊆ g'.commandNames := by
  intro name hname
  rw [commandNames_eq] at hname ⊢
  obtain ⟨⟨literal, child⟩, hedge, rfl⟩ := List.mem_map.1 hname
  have hturn : g.Turns root (.keyword literal) child := hedge
  obtain ⟨child', hedge', -⟩ := hpeers.twins_root.exists_turn hpeers hturn
  exact List.mem_map.2 ⟨_, hedge', rfl⟩

/-- **Grammars that serve the same demands cannot be told apart.** -/
theorem Peers.indistinguishable : g.Indistinguishable g' where
  select accepts tokens := by
    unfold select
    dsimp only
    rw [hpeers.commandOf_eq, hpeers.segmentsOf_eq, hpeers.permissionsOf_eq]
  capture tokens path := by
    unfold capture
    simp only [hpeers.twins_root.captureFrom_eq hpeers]
  commandNames := by
    have hnodup : ∀ {g : Grammar C}, g.Grown → g.commandNames.Nodup := fun {g} hg => by
      rw [commandNames_eq]
      exact (hg.orderly root).edges.distinct
    rw [List.perm_ext_iff_of_nodup (hnodup hpeers.grown) (hnodup hpeers.grown')]
    exact fun _ => ⟨fun h => hpeers.subset_commandNames h, fun h => hpeers.symm.subset_commandNames h⟩

end

/-- **The order of definitions does not matter**, as long as all of them are accepted. -/
theorem build_perm {definitions definitions' : List (Definition C)}
    (hperm : definitions.Perm definitions') {g g' : Grammar C} (h : build definitions = .ok g)
    (h' : build definitions' = .ok g') : g.Indistinguishable g' := by
  obtain ⟨hg, hserves⟩ := serves_build h
  obtain ⟨hg', hserves'⟩ := serves_build h'
  have hdemands : (demandsOf definitions').Perm (demandsOf definitions) :=
    hperm.symm.flatMap_right _
  have hpeers : Peers (demandsOf definitions) g g' :=
    ⟨hg, hg', hserves, hserves'.congr hg' fun _ => hdemands.mem_iff⟩
  exact hpeers.indistinguishable

end Grammar

/-! ## A sample -/

namespace Sample

/-- A command with an alias. -/
def showing : Definition String :=
  [.scope [.start "Voice", .command "show", .permission "voice.use"], .synonym "v" "voice"]

/-- Another one below the same keyword. -/
def setting : Definition String :=
  [.start "voice", .keyword "set", .permission "voice.set",
    .slot { name := "name", kind := .registered "voices" }, .command "set"]

def stopping : Definition String :=
  [.start "Stop", .command "stop"]

theorem indistinguishable_reversed :
    ∃ g g', Grammar.build [showing, setting, stopping] = .ok g ∧
      Grammar.build [stopping, setting, showing] = .ok g' ∧ g.Indistinguishable g' := by
  have hok : ∀ definitions : List (Definition String), (Grammar.build definitions).isOk = true →
      ∃ g, Grammar.build definitions = .ok g := by
    intro definitions h
    cases hbuild : Grammar.build definitions with
    | ok g => exact ⟨g, rfl⟩
    | error e =>
      rw [hbuild] at h
      cases h
  obtain ⟨g, hg⟩ := hok [showing, setting, stopping] (by decide +kernel)
  obtain ⟨g', hg'⟩ := hok [stopping, setting, showing] (by decide +kernel)
  exact ⟨g, g', hg, hg', Grammar.build_perm (List.reverse_perm _).symm hg hg'⟩

/-- The alias is refused where its name is a keyword already. -/
example : (Grammar.build [[.start "v"], showing]).map Grammar.commandNames =
    .error (.aliasTaken "v" "<root>") ∧
    (Grammar.build [showing, [.start "v"]]).map Grammar.commandNames = .ok ["voice", "v"] := by
  decide +kernel

end Sample

end ChatCommands
