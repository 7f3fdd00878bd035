import ChatCommands.Proofs.Grammar.Replay

/-!
# Selections for longer lists of tokens

A walk never looks ahead: which way a token leads does not depend on the tokens after it. So a walk that
stopped stays stopped when more tokens follow, and a walk that took in every token goes on from where it
was.

* `walkFrom_append_of_stopped`, `walkFrom_append_of_consumed`: the two cases.
* `Selection.Within`: one selection goes on from another.

**Theorem (`select_append`).** In every grammar that has grown, and so in every one that is built, the
selection for the first tokens of a list is within the one for the whole list. Where the walk stopped before
the end of these tokens the two are the same.
-/

namespace ChatCommands

variable {C : Type}

/-- What `s` has selected, `s'` has as well, or something further down. -/
structure Selection.Within (s s' : Selection C) : Prop where
  /-- The path goes on, segment by segment. -/
  path : Dotted.segments s.path <+: Dotted.segments s'.path
  permissions : ∀ suffix ∈ s.permissions.stored, suffix ∈ s'.permissions.stored
  /-- There is still a command. -/
  command : s.command ≠ none → s'.command ≠ none

/-- The walk that goes on with `w'` where `w` ended. -/
def Walk.append (w w' : Walk) : Walk :=
  { entered := w.entered ++ w'.entered, stuck := w'.stuck }

namespace Grammar

section
variable {g : Grammar C} {accepts : Slot → String → Bool}

/-! ## Walks -/

/-- A token that leads nowhere stops the walk, whatever follows. -/
theorem walkFrom_cons_congr {id : NodeId} {token : String} (h : g.next? accepts id token = none)
    (tokens tokens' : List String) :
    g.walkFrom accepts id (token :: tokens) = g.walkFrom accepts id (token :: tokens') := by
  obtain ⟨hentered, hstuck⟩ := walkFrom_cons_of_next?_eq_none h tokens
  obtain ⟨hentered', hstuck'⟩ := walkFrom_cons_of_next?_eq_none h tokens'
  have hsame : (g.walkFrom accepts id (token :: tokens)).stuck =
      (g.walkFrom accepts id (token :: tokens')).stuck :=
    Bool.eq_iff_iff.2 (hstuck.trans hstuck'.symm)
  calc g.walkFrom accepts id (token :: tokens)
      = ⟨[], (g.walkFrom accepts id (token :: tokens)).stuck⟩ := by rw [← hentered]
    _ = ⟨[], (g.walkFrom accepts id (token :: tokens')).stuck⟩ := by rw [hsame]
    _ = g.walkFrom accepts id (token :: tokens') := by rw [← hentered']

/-- **A walk that stopped stays stopped.** -/
theorem walkFrom_append_of_stopped {id : NodeId} {tokens : List String}
    (h : (g.walkFrom accepts id tokens).stuck = true ∨
      (g.walkFrom accepts id tokens).length < tokens.length) (more : List String) :
    g.walkFrom accepts id (tokens ++ more) = g.walkFrom accepts id tokens := by
  induction tokens generalizing id with
  | nil =>
    rcases h with hstuck | hlt
    · cases hstuck
    · exact absurd hlt (Nat.not_lt_zero _)
  | cons token tokens ih =>
    rw [List.cons_append]
    cases hnext : g.next? accepts id token with
    | none => exact walkFrom_cons_congr hnext _ _
    | some next =>
      rw [walkFrom_cons_of_next?_eq_some hnext] at h
      rw [length_via, List.length_cons, Nat.succ_lt_succ_iff] at h
      rw [walkFrom_cons_of_next?_eq_some hnext, walkFrom_cons_of_next?_eq_some hnext, ih h]

/-- **A walk that took in every token goes on** from the last node it entered. -/
theorem walkFrom_append_of_consumed {id : NodeId} {tokens : List String}
    (hstuck : (g.walkFrom accepts id tokens).stuck = false)
    (hlength : (g.walkFrom accepts id tokens).length = tokens.length) (more : List String) :
    g.walkFrom accepts id (tokens ++ more) = (g.walkFrom accepts id tokens).append
      (g.walkFrom accepts ((g.walkFrom accepts id tokens).entered.getLastD id) more) := by
  induction tokens generalizing id with
  | nil => rfl
  | cons token tokens ih =>
    rw [List.cons_append]
    cases hnext : g.next? accepts id token with
    | none =>
      rw [Walk.length, (walkFrom_cons_of_next?_eq_none hnext tokens).1, hstuck] at hlength
      cases hlength
    | some next =>
      rw [walkFrom_cons_of_next?_eq_some hnext] at hstuck hlength ⊢
      rw [length_via, List.length_cons, Nat.succ_inj] at hlength
      rw [walkFrom_cons_of_next?_eq_some hnext, ih hstuck hlength]
      simp only [Walk.via, Walk.append, List.cons_append, List.getLastD_cons]

/-- More tokens change nothing, or the walk goes on. -/
theorem walk_append_cases (g : Grammar C) (accepts : Slot → String → Bool)
    (tokens more : List String) :
    g.walk accepts (tokens ++ more) = g.walk accepts tokens ∨
      ((g.walk accepts tokens).stuck = false ∧
        ∃ w, g.walk accepts (tokens ++ more) = (g.walk accepts tokens).append w) := by
  by_cases h : (g.walk accepts tokens).stuck = true ∨
      (g.walk accepts tokens).length < tokens.length
  · exact .inl (walkFrom_append_of_stopped h more)
  · rw [not_or, Bool.not_eq_true, Nat.not_lt] at h
    have hle := g.length_walkFrom_le accepts root tokens
    exact .inr ⟨h.1, _, walkFrom_append_of_consumed h.1 (Nat.le_antisymm hle h.2) more⟩

/-! ## What is read off the walks -/

/-- A walk that is not stuck has the first segments of every walk that goes on from it. -/
theorem segmentsOf_append {w : Walk} (h : w.stuck = false) (w' : Walk) :
    g.segmentsOf (w.append w') = g.segmentsOf w ++ g.segmentsOf w' := by
  have hnot : ¬ w.stuck = true := by simp [h]
  rw [segmentsOf, segmentsOf, segmentsOf, if_neg hnot, List.append_nil, Walk.append, List.map_append,
    List.append_assoc]

theorem lastCommand_append (ids ids' : List NodeId) :
    g.lastCommand (ids ++ ids') = (g.lastCommand ids').or (g.lastCommand ids) := by
  rw [lastCommand_eq, lastCommand_eq, lastCommand_eq, List.reverse_append, List.findSome?_append]

theorem command_append_ne_none {w : Walk} (h : g.commandOf w ≠ none) (w' : Walk) :
    g.commandOf (w.append w') ≠ none := by
  unfold commandOf at h ⊢
  split_ifs at h ⊢ with hleaf
  · exact h
  · show g.lastCommand (w.entered ++ w'.entered) ≠ none
    rw [lastCommand_append, Ne, Option.or_eq_none_iff]
    exact fun hnone => h hnone.2

/-- The segments of a selected path are those that the walk went through. -/
theorem Grown.segments_path_select (h : g.Grown) (tokens : List String) :
    Dotted.segments (g.select accepts tokens).path = g.segmentsOf (g.walk accepts tokens) := by
  obtain ⟨id, hpath⟩ := h.exists_hasPath_segmentsOf accepts tokens
  exact Dotted.segments_join_of_isSegment (hpath.isSegment h)

/-- **A selection only grows with the tokens**, and not at all where the walk has stopped. -/
theorem select_append (h : g.Grown) (accepts : Slot → String → Bool) (tokens more : List String) :
    (g.select accepts tokens).Within (g.select accepts (tokens ++ more)) ∧
      ((g.walk accepts tokens).length < tokens.length →
        g.select accepts (tokens ++ more) = g.select accepts tokens) := by
  have hsame : g.walk accepts (tokens ++ more) = g.walk accepts tokens →
      g.select accepts (tokens ++ more) = g.select accepts tokens := by
    intro hwalk
    rw [select, hwalk, ← select]
  refine ⟨?_, fun hlt => hsame (walkFrom_append_of_stopped (.inr hlt) more)⟩
  rcases g.walk_append_cases accepts tokens more with hwalk | ⟨hstuck, w, hwalk⟩
  · rw [hsame hwalk]
    exact ⟨List.prefix_rfl, fun suffix hsuffix => hsuffix, fun hcommand => hcommand⟩
  · constructor
    · rw [h.segments_path_select, h.segments_path_select, hwalk,
        segmentsOf_append hstuck]
      exact List.prefix_append _ _
    · intro suffix hsuffix
      show suffix ∈ (g.permissionsOf (g.walk accepts (tokens ++ more))).stored
      obtain ⟨id, hid, hmem⟩ := (g.mem_permissionsOf _ suffix).1 hsuffix
      rw [hwalk, mem_permissionsOf]
      exact ⟨id, List.mem_append_left _ hid, hmem⟩
    · intro hcommand
      show g.commandOf (g.walk accepts (tokens ++ more)) ≠ none
      rw [hwalk]
      exact command_append_ne_none hcommand w

end

end Grammar

/-! ## A sample -/

namespace Sample

/-- The walk stops below the switch, one token before the end. -/
theorem select_append_refused :
    voices.grammar.Grown ∧
      (voices.grammar.walk plainly ["w", "on", "maybe"]).length < ["w", "on", "maybe"].length ∧
      (voices.grammar.select plainly ["w", "on", "maybe"]).Within
        (voices.grammar.select plainly (["w", "on", "maybe"] ++ ["now"])) ∧
      voices.grammar.select plainly (["w", "on", "maybe"] ++ ["now"]) =
        voices.grammar.select plainly ["w", "on", "maybe"] := by
  have hlt : (voices.grammar.walk plainly ["w", "on", "maybe"]).length <
      ["w", "on", "maybe"].length := by decide +kernel
  obtain ⟨hwithin, hstopped⟩ :=
    Grammar.select_append built_voices.grown plainly ["w", "on", "maybe"] ["now"]
  exact ⟨built_voices.grown, hlt, hwithin, hstopped hlt⟩

example : (voices.grammar.select plainly ["w"]).path = "voice" ∧
    (voices.grammar.select plainly ["w"]).command = some "show" ∧
    (voices.grammar.select plainly (["w"] ++ ["on"])).path = "voice.*" ∧
    (voices.grammar.select plainly (["w"] ++ ["on"])).command = some "switch" := by
  decide +kernel

end Sample

end ChatCommands
