import ChatCommands.Proofs.Grammar.LongestWalk
import ChatCommands.Proofs.Grammar.WellFormed

/-!
# Commands to fall back on

An optional parameter can only be declared below a node that carries a command. That command is meant for
the lines in which the parameter's word is missing or is none that the parameter accepts.

* `next?_last_eq_none`: the word that a walk stops at leads nowhere from there.
* `command_select_of_entered`: the last node entered has the command that is selected, if it has one.

**Theorem (`command_select_of_optional`).** A walk that stops above an optional parameter stops at a node
with a command. It selects this command, unless the node is the root: the root's command is never
selected while something stands below the root, and there it selects none
(`Sample.command_select_bare`).
-/

namespace ChatCommands

variable {C : Type}

namespace Grammar

/-- **The word that a walk stops at leads nowhere.** -/
theorem next?_last_eq_none {g : Grammar C} {accepts : Slot → String → Bool} {id : NodeId}
    {tokens : List String} {token : String}
    (h : tokens[(g.walkFrom accepts id tokens).entered.length]? = some token) :
    g.next? accepts ((g.walkFrom accepts id tokens).entered.getLastD id) token = none := by
  induction tokens generalizing id with
  | nil => cases h
  | cons first tokens ih =>
    cases hnext : g.next? accepts id first with
    | none =>
      have hentered := (walkFrom_cons_of_next?_eq_none hnext tokens).1
      rw [hentered] at h ⊢
      obtain rfl := Option.some.inj h
      exact hnext
    | some next =>
      rw [walkFrom_cons_of_next?_eq_some hnext] at h ⊢
      simp only [Walk.via, List.length_cons, List.getElem?_cons_succ, List.getLastD_cons] at h ⊢
      exact ih h

theorem lastCommand_append_singleton {g : Grammar C} {id : NodeId}
    (h : (g.node id).command ≠ none) (before : List NodeId) :
    g.lastCommand (before ++ [id]) = (g.node id).command := by
  obtain ⟨c, hc⟩ := Option.ne_none_iff_exists'.1 h
  rw [lastCommand, List.foldl_append, List.foldl_cons, List.foldl_nil, hc]
  rfl

section
variable {g : Grammar C} {accepts : Slot → String → Bool} {tokens : List String}

/-- Where a walk enters some node, the last one is not the root. -/
theorem Grown.last_ne_root (h : g.Grown) {before : List NodeId} {id : NodeId}
    (hentered : (g.walk accepts tokens).entered = before ++ [id]) : id ≠ root := by
  rintro rfl
  have hpath := g.hasPath_of_walk accepts tokens hentered
  have hnil := h.hasPath_unique hpath .root
  simp at hnil

/-- **The command of the last node entered is selected**, if there is one. -/
theorem command_select_of_entered {before : List NodeId} {id : NodeId}
    (hentered : (g.walk accepts tokens).entered = before ++ [id])
    (hcommand : (g.node id).command ≠ none) :
    (g.select accepts tokens).command = (g.node id).command := by
  have hbelow : (g.node root).branches ≠ .leaf := by
    intro hleaf
    have hnil : (g.walk accepts tokens).entered = [] := by
      cases tokens <;> simp [walk, walkFrom, hleaf]
    rw [hnil] at hentered
    exact List.append_ne_nil_of_right_ne_nil before (List.cons_ne_nil id []) hentered.symm
  show g.commandOf (g.walk accepts tokens) = _
  rw [commandOf, if_neg hbelow, hentered, lastCommand_append_singleton hcommand]

/-- **An optional parameter falls back on the command above it**, unless that is the root's. The walk
stopped there because no word was left or because the parameter refused the next one. -/
theorem command_select_of_optional (h : g.Built) {id child : NodeId}
    (hid : (g.walk accepts tokens).entered.getLastD root = id)
    (hbranches : (g.node id).branches = .parameter child)
    (hoptional : (g.node child).slot.optional = true) :
    (∀ token, tokens[(g.walk accepts tokens).entered.length]? = some token →
      accepts (g.node child).slot token = false) ∧
      (g.node id).command ≠ none ∧
      (g.select accepts tokens).command = if id = root then none else (g.node id).command := by
  have hchild : g.Child id child := by
    rw [Child, hbranches]
    exact List.mem_singleton_self child
  have hcommand := h.grown.command_ne_none hchild hoptional
  refine ⟨fun token htoken => ?_, hcommand, ?_⟩
  · have hnowhere := next?_last_eq_none htoken
    rw [show (g.walkFrom accepts root tokens).entered.getLastD root = id from hid] at hnowhere
    simpa [next?, hbranches, enterable, hoptional] using hnowhere
  · rcases List.eq_nil_or_concat (g.walk accepts tokens).entered with
      hnil | ⟨before, last, hentered⟩
    · rw [hnil, List.getLastD_nil] at hid
      subst hid
      show g.commandOf (g.walk accepts tokens) = _
      rw [commandOf, hbranches, if_neg (by simp), hnil, if_pos rfl]
      rfl
    · rw [List.concat_eq_append] at hentered
      rw [hentered, List.getLastD_concat] at hid
      subst hid
      rw [if_neg (h.grown.last_ne_root hentered)]
      exact command_select_of_entered hentered hcommand

end

end Grammar

/-! ## Samples -/

namespace Sample

/-- Two optional parameters, one below the other, each below a command. -/
def layered : Builder String :=
  (BuildStep.runAll [.scope [.start "Voice", .command "show",
    .slot { name := "state", optional := true, kind := .toggle }, .command "switch",
    .slot { name := "scope", optional := true, kind := .choice (.ofList ["all"]) }],
    .synonym "v" "voice"] {}).1

/-- The word fits the first parameter and not the second, whose fallback is selected. -/
theorem command_select_layered :
    layered.grammar.Built ∧
      (layered.grammar.walk plainly ["v", "on", "some"]).entered.getLastD root = 2 ∧
      (layered.grammar.node 2).branches = .parameter 3 ∧
      (layered.grammar.node 3).slot.optional = true ∧
      (layered.grammar.select plainly ["v", "on", "some"]).command =
        (layered.grammar.node 2).command := by
  have hbuilt : layered.grammar.Built := ⟨layered, Builder.Reachable.start.runAll _, rfl⟩
  have hid : (layered.grammar.walk plainly ["v", "on", "some"]).entered.getLastD root = 2 := by
    decide +kernel
  have hbranches : (layered.grammar.node 2).branches = .parameter 3 := by decide +kernel
  have hoptional : (layered.grammar.node 3).slot.optional = true := by decide +kernel
  obtain ⟨-, -, hselect⟩ := Grammar.command_select_of_optional hbuilt hid hbranches hoptional
  exact ⟨hbuilt, hid, hbranches, hoptional, hselect.trans (if_neg (by decide))⟩

/-- An optional parameter below the root. -/
def bare : Builder String :=
  (BuildStep.runAll [.command "show",
    .slot { name := "state", optional := true, kind := .toggle }] {}).1

/-- **The root's command is no fallback**, although the parameter was accepted because of it. -/
theorem command_select_bare :
    bare.grammar.Built ∧ (bare.grammar.node root).branches = .parameter 1 ∧
      (bare.grammar.node 1).slot.optional = true ∧
      (bare.grammar.node root).command = some "show" ∧
      (bare.grammar.walk plainly ["maybe"]).entered = [] ∧
      (bare.grammar.select plainly ["maybe"]).command = none ∧
      (bare.grammar.select plainly []).command = none := by
  refine ⟨⟨bare, Builder.Reachable.start.runAll _, rfl⟩, ?_⟩
  decide +kernel

end Sample

end ChatCommands
