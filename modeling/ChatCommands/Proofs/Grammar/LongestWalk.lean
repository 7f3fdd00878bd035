import ChatCommands.Proofs.Grammar.Literals

/-!
# A selection is the longest declared walk

What a grammar makes of a list of tokens can be said without walking it:

* `Leads`: a token leads from a node to one below it.
* `Declared`: a chain of nodes, each reached by the next token.
* `Longest`: a chain that no other is longer than.
* `Selects`: what is to be selected for a chain.

**Theorem (`select_longest`).** For any tokens there is one longest chain, and it tells the selection.

A token leads to one node at most, so all chains are prefixes of one another, and the walk of the
selector is the longest of them (`longest_iff`).
-/

namespace ChatCommands

variable {C : Type}

namespace Grammar

/-! ## Declared chains -/

/-- The token leads from `id` to `next`: it is a literal of that keyword up to ASCII case, or that
parameter accepts it and is optional or carries a command. -/
inductive Leads (g : Grammar C) (accepts : Slot → String → Bool) (id : NodeId) (token : String)
    (next : NodeId) : Prop
  | keyword {es : List Edge} (hbranches : (g.node id).branches = .keywords es) {e : Edge}
      (hedge : e ∈ es) (hliteral : Text.sameUpToAsciiCase e.literal token = true)
      (htarget : e.target = next)
  | parameter (hbranches : (g.node id).branches = .parameter next)
      (haccepts : accepts (g.node next).slot token = true)
      (henter : (g.node next).slot.optional = true ∨ (g.node next).command ≠ none)

/-- The tokens lead from `id` along the nodes, one token for each. Further tokens may follow. -/
inductive Declared (g : Grammar C) (accepts : Slot → String → Bool) :
    NodeId → List String → List NodeId → Prop
  | stop (id : NodeId) (tokens : List String) : Declared g accepts id tokens []
  | step {id next : NodeId} {token : String} {tokens : List String} {ids : List NodeId} :
      g.Leads accepts id token next → Declared g accepts next tokens ids →
        Declared g accepts id (token :: tokens) (next :: ids)

/-- A chain from the root that no other is longer than. -/
structure Longest (g : Grammar C) (accepts : Slot → String → Bool) (tokens : List String)
    (ids : List NodeId) : Prop where
  declared : g.Declared accepts root tokens ids
  length_le : ∀ ids', g.Declared accepts root tokens ids' → ids'.length ≤ ids.length

/-- The chain from `id` ends above a required parameter, and there is another token, which the
parameter refuses or which finds no command there. -/
def EndsAtRequired (g : Grammar C) (accepts : Slot → String → Bool) (id : NodeId)
    (tokens : List String) (ids : List NodeId) : Prop :=
  ∃ child token, (g.node (ids.getLastD id)).branches = .parameter child ∧
    (g.node child).slot.optional = false ∧ tokens[ids.length]? = some token ∧
    (accepts (g.node child).slot token = false ∨ (g.node child).command = none)

/-- The selection `s` is the one that the chain tells. -/
structure Selects (g : Grammar C) (accepts : Slot → String → Bool) (tokens : List String)
    (ids : List NodeId) (s : Selection C) : Prop where
  /-- The last command on the chain. -/
  command : (∃ child, g.Child root child) →
    s.command = ids.reverse.findSome? fun id => (g.node id).command
  /-- The root's own command only counts where there is nothing below the root. -/
  command_root : (¬ ∃ child, g.Child root child) → s.command = (g.node root).command
  /-- The permission suffixes of all nodes on the chain. -/
  permissions (suffix : String) : suffix ∈ s.permissions.stored ↔
    ∃ id ∈ ids, suffix ∈ (g.node id).permissions.stored
  /-- The canonical path of the last node, and a wildcard for a token that went no further. -/
  path : ∃ p, g.HasPath (ids.getLastD root) p ∧
    ((g.EndsAtRequired accepts root tokens ids ∧ s.path = Dotted.join (p ++ [wildcard])) ∨
      (¬ g.EndsAtRequired accepts root tokens ids ∧ s.path = Dotted.join p))

/-! ## The walk takes every token as far as it leads -/

/-- The node that a token leads to. -/
def next? (g : Grammar C) (accepts : Slot → String → Bool) (id : NodeId) (token : String) :
    Option NodeId :=
  match (g.node id).branches with
  | .leaf => none
  | .keywords es => Branches.targetWhere? (Text.sameUpToAsciiCase · token) es
  | .parameter child =>
    if accepts (g.node child).slot token && g.enterable child then some child else none

theorem enterable_iff (g : Grammar C) (id : NodeId) :
    g.enterable id = true ↔ (g.node id).slot.optional = true ∨ (g.node id).command ≠ none := by
  simp [enterable, Option.isSome_iff_ne_none]

/-- **A token leads to one node at most.** -/
theorem Grown.leads_iff {g : Grammar C} (h : g.Grown) {accepts : Slot → String → Bool}
    {id next : NodeId} {token : String} :
    g.Leads accepts id token next ↔ g.next? accepts id token = some next := by
  unfold next?
  constructor
  · intro hleads
    cases hleads with
    | keyword hbranches hedge hliteral htarget =>
      rw [hbranches]
      exact (h.targetWhere?_eq_some_iff hbranches).2 ⟨_, hedge, hliteral, htarget⟩
    | parameter hbranches haccepts henter =>
      rw [hbranches]
      exact if_pos (Bool.and_eq_true_iff.2 ⟨haccepts, (g.enterable_iff next).2 henter⟩)
  · intro hnext
    split at hnext
    next => cases hnext
    next es hbranches =>
      obtain ⟨e, hedge, hliteral, htarget⟩ := (h.targetWhere?_eq_some_iff hbranches).1 hnext
      exact .keyword hbranches hedge hliteral htarget
    next child hbranches =>
      split_ifs at hnext with henter
      obtain rfl := Option.some.inj hnext
      rw [Bool.and_eq_true] at henter
      exact .parameter hbranches henter.1 ((g.enterable_iff child).1 henter.2)

section
variable {g : Grammar C} {accepts : Slot → String → Bool} {id next : NodeId} {token : String}
  {tokens : List String}

theorem walkFrom_cons_of_next?_eq_some (h : g.next? accepts id token = some next) :
    g.walkFrom accepts id (token :: tokens) = (g.walkFrom accepts next tokens).via next := by
  cases hbranches : (g.node id).branches with
  | leaf =>
    simp only [next?, hbranches] at h
    cases h
  | keywords es =>
    simp only [next?, hbranches] at h
    simp only [walkFrom, hbranches, h]
  | parameter child =>
    simp only [next?, hbranches] at h
    split_ifs at h with henter
    obtain rfl := Option.some.inj h
    rw [Bool.and_eq_true] at henter
    simp only [walkFrom, hbranches, henter.1, henter.2, if_true]

/-- Where a token leads nowhere the walk enters nothing, and the token is stuck if a required
parameter stands there. -/
theorem walkFrom_cons_of_next?_eq_none (h : g.next? accepts id token = none)
    (tokens : List String) :
    (g.walkFrom accepts id (token :: tokens)).entered = [] ∧
      ((g.walkFrom accepts id (token :: tokens)).stuck = true ↔
        ∃ child, (g.node id).branches = .parameter child ∧
          (g.node child).slot.optional = false ∧
          (accepts (g.node child).slot token = false ∨ (g.node child).command = none)) := by
  cases hbranches : (g.node id).branches with
  | leaf => simp [walkFrom, hbranches]
  | keywords es =>
    simp only [next?, hbranches] at h
    simp [walkFrom, hbranches, h]
  | parameter child =>
    simp only [next?, hbranches] at h
    split_ifs at h with henter
    simp only [walkFrom, hbranches, Branches.parameter.injEq, exists_eq_left']
    by_cases haccepts : accepts (g.node child).slot token = true
    · -- The slot accepts the token, but the node is not to be entered.
      have hclosed : g.enterable child = false := by simpa [haccepts] using henter
      rw [if_pos haccepts, hclosed, if_neg Bool.false_ne_true]
      rw [enterable, Bool.or_eq_false_iff, Option.isSome_eq_false_iff, Option.isNone_iff_eq_none]
        at hclosed
      exact ⟨rfl, fun _ => ⟨hclosed.1, .inr hclosed.2⟩, fun _ => rfl⟩
    · rw [if_neg haccepts]
      refine ⟨rfl, ?_⟩
      simp [haccepts]

end

/-- The walk goes along a declared chain. -/
theorem Grown.declared_walkFrom {g : Grammar C} (h : g.Grown) (accepts : Slot → String → Bool)
    (id : NodeId) (tokens : List String) :
    g.Declared accepts id tokens (g.walkFrom accepts id tokens).entered := by
  induction tokens generalizing id with
  | nil => exact .stop id []
  | cons token tokens ih =>
    cases hnext : g.next? accepts id token with
    | none =>
      rw [(walkFrom_cons_of_next?_eq_none hnext tokens).1]
      exact .stop id _
    | some next =>
      rw [walkFrom_cons_of_next?_eq_some hnext]
      exact .step (h.leads_iff.2 hnext) (ih next)

/-- **No declared chain leaves the walk.** -/
theorem Declared.prefix_walkFrom {g : Grammar C} (h : g.Grown) {accepts : Slot → String → Bool}
    {id : NodeId} {tokens : List String} {ids : List NodeId}
    (hids : g.Declared accepts id tokens ids) :
    ids <+: (g.walkFrom accepts id tokens).entered := by
  induction hids with
  | stop id tokens => exact List.nil_prefix
  | step hleads _ ih =>
    rw [walkFrom_cons_of_next?_eq_some (h.leads_iff.1 hleads)]
    exact List.cons_prefix_cons.2 ⟨rfl, ih⟩

/-- **The walk is the longest chain**, and the only one. -/
theorem Grown.longest_iff {g : Grammar C} (h : g.Grown) (accepts : Slot → String → Bool)
    (tokens : List String) (ids : List NodeId) :
    g.Longest accepts tokens ids ↔ ids = (g.walk accepts tokens).entered := by
  have hwalk := h.declared_walkFrom accepts root tokens
  constructor
  · intro hlongest
    exact (hlongest.declared.prefix_walkFrom h).eq_of_length_le (hlongest.length_le _ hwalk)
  · rintro rfl
    exact ⟨hwalk, fun ids' hids' => (hids'.prefix_walkFrom h).length_le⟩

theorem endsAtRequired_cons (g : Grammar C) (accepts : Slot → String → Bool) (id next : NodeId)
    (token : String) (tokens : List String) (ids : List NodeId) :
    g.EndsAtRequired accepts id (token :: tokens) (next :: ids) ↔
      g.EndsAtRequired accepts next tokens ids := by
  simp only [EndsAtRequired, List.getLastD_cons, List.length_cons, List.getElem?_cons_succ]

/-- A token is stuck exactly where the walk ends above a required parameter. -/
theorem stuck_walkFrom_iff (g : Grammar C) (accepts : Slot → String → Bool) (id : NodeId)
    (tokens : List String) :
    (g.walkFrom accepts id tokens).stuck = true ↔
      g.EndsAtRequired accepts id tokens (g.walkFrom accepts id tokens).entered := by
  induction tokens generalizing id with
  | nil =>
    constructor
    · intro h
      cases h
    · rintro ⟨_, _, _, _, htoken, _⟩
      cases htoken
  | cons token tokens ih =>
    cases hnext : g.next? accepts id token with
    | none =>
      obtain ⟨hentered, hstuck⟩ := walkFrom_cons_of_next?_eq_none hnext tokens
      rw [hstuck, hentered]
      constructor
      · rintro ⟨child, hbranches, hrequired, hrefused⟩
        exact ⟨child, token, hbranches, hrequired, rfl, hrefused⟩
      · rintro ⟨child, token', hbranches, hrequired, htoken, hrefused⟩
        obtain rfl := Option.some.inj htoken
        exact ⟨child, hbranches, hrequired, hrefused⟩
    | some next =>
      rw [walkFrom_cons_of_next?_eq_some hnext]
      exact (ih next).trans (g.endsAtRequired_cons accepts id next token tokens _).symm

/-! ## What the selection reads off the walk -/

theorem lastCommand_eq (g : Grammar C) (ids : List NodeId) :
    g.lastCommand ids = ids.reverse.findSome? fun id => (g.node id).command := by
  have hfold : ∀ (ids : List NodeId) (best : Option C),
      ids.foldl (fun best id => (g.node id).command <|> best) best =
        (ids.reverse.findSome? fun id => (g.node id).command).or best := by
    intro ids
    induction ids with
    | nil => exact fun best => rfl
    | cons id ids ih =>
      intro best
      rw [List.foldl_cons, ih, List.reverse_cons, List.findSome?_append, Option.or_assoc]
      cases hcommand : (g.node id).command <;> simp [hcommand]
  exact (hfold ids none).trans (Option.or_none ..)

theorem mem_permissionsOf (g : Grammar C) (w : Walk) (suffix : String) :
    suffix ∈ (g.permissionsOf w).stored ↔
      ∃ id ∈ w.entered, suffix ∈ (g.node id).permissions.stored := by
  have hfold : ∀ (ids : List NodeId) (gathered : NameSet),
      suffix ∈ (ids.foldl (fun gathered id => gathered.union (g.node id).permissions)
          gathered).stored ↔
        suffix ∈ gathered.stored ∨ ∃ id ∈ ids, suffix ∈ (g.node id).permissions.stored := by
    intro ids
    induction ids with
    | nil => simp
    | cons id ids ih =>
      intro gathered
      rw [List.foldl_cons, ih, NameSet.union, StringSet.mem_union, or_assoc, List.exists_mem_cons_iff]
  exact (hfold w.entered NameSet.empty).trans (or_iff_right StringSet.not_mem_empty)

theorem hasPath_walk (g : Grammar C) (accepts : Slot → String → Bool) (tokens : List String) :
    g.HasPath ((g.walk accepts tokens).entered.getLastD root)
      ((g.walk accepts tokens).entered.map fun id => (g.node id).segment) := by
  rcases List.eq_nil_or_concat (g.walk accepts tokens).entered with hnil | ⟨before, id, hentered⟩
  · rw [hnil]
    exact .root
  · rw [List.concat_eq_append] at hentered
    rw [hentered, List.getLastD_concat]
    exact g.hasPath_of_walk accepts tokens hentered

/-- **The selection is the one that the walk tells.** -/
theorem Grown.selects_walk {g : Grammar C} (h : g.Grown) (accepts : Slot → String → Bool)
    (tokens : List String) :
    g.Selects accepts tokens (g.walk accepts tokens).entered (g.select accepts tokens) where
  command := by
    rintro ⟨child, hchild⟩
    show g.commandOf (g.walk accepts tokens) = _
    rw [commandOf, if_neg fun hleaf => h.leaf_iff.1 hleaf child hchild, lastCommand_eq]
  command_root hnone := by
    show g.commandOf (g.walk accepts tokens) = _
    rw [commandOf, if_pos (h.leaf_iff.2 fun child hchild => hnone ⟨child, hchild⟩)]
  permissions suffix := g.mem_permissionsOf (g.walk accepts tokens) suffix
  path := by
    have hstuck := g.stuck_walkFrom_iff accepts root tokens
    refine ⟨_, g.hasPath_walk accepts tokens, ?_⟩
    by_cases hend : (g.walk accepts tokens).stuck = true
    · refine .inl ⟨hstuck.1 hend, ?_⟩
      show Dotted.join (g.segmentsOf (g.walk accepts tokens)) = _
      rw [segmentsOf, if_pos hend]
    · refine .inr ⟨fun hrequired => hend (hstuck.2 hrequired), ?_⟩
      show Dotted.join (g.segmentsOf (g.walk accepts tokens)) = _
      rw [segmentsOf, if_neg hend, List.append_nil]

/-- **The selection is the longest declared walk**, whatever the slots accept. -/
theorem select_longest {g : Grammar C} (h : g.Built) (accepts : Slot → String → Bool)
    (tokens : List String) :
    (∃! ids, g.Longest accepts tokens ids) ∧
      ∀ ids, g.Longest accepts tokens ids →
        g.Selects accepts tokens ids (g.select accepts tokens) := by
  have hlongest := h.grown.longest_iff accepts tokens
  refine ⟨⟨_, (hlongest _).2 rfl, fun ids hids => (hlongest ids).1 hids⟩, fun ids hids => ?_⟩
  rw [(hlongest ids).1 hids]
  exact h.grown.selects_walk accepts tokens

end Grammar

/-! ## A sample -/

namespace Sample

/-- A command with a switch below it, an alias, an alias of the alias, and a step that fails. -/
def voices : Builder String :=
  (BuildStep.runAll [.scope [.start "Voice", .command "show", .permission "voice.use",
    .slot { name := "state", kind := .toggle }, .command "switch"],
    .synonym "v" "voice", .synonym "w" "v", .synonym "V" "voice"] {}).1

theorem built_voices : voices.grammar.Built :=
  ⟨voices, Builder.Reachable.start.runAll _, rfl⟩

/-- What slots accept where no registry holds a name and no message is at hand. -/
def plainly (slot : Slot) (word : String) : Bool :=
  slot.accepts (fun _ => {}) none word

/-- The alias of the alias leads to the command, and the word after it goes no further. -/
theorem select_longest_of_refused :
    voices.grammar.Built ∧
      (∃! ids, voices.grammar.Longest plainly ["W", "maybe"] ids) ∧
      ∀ ids, voices.grammar.Longest plainly ["W", "maybe"] ids →
        voices.grammar.Selects plainly ["W", "maybe"] ids
          (voices.grammar.select plainly ["W", "maybe"]) :=
  ⟨built_voices, Grammar.select_longest built_voices plainly ["W", "maybe"]⟩

example : (voices.grammar.walk plainly ["w", "maybe"]).entered = [1] ∧
    (voices.grammar.select plainly ["w", "maybe"]).command = some "show" ∧
    (voices.grammar.select plainly ["w", "maybe"]).path = "voice.*" := by
  decide +kernel

end Sample

end ChatCommands
