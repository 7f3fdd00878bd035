import ChatCommands.Proofs.Grammar.Replay

/-!
# Spellings of a keyword

A keyword may be written by its own literal or by any alias, in letters of either case.

* `Spells`: a token is one of these spellings.
* `Respells`: two lists of tokens that differ at most in how the keywords of a walk are spelled.

**Theorem (`select_of_respells`).** Both lists have the same selection and the same arguments.

A token is a spelling of one keyword at most, so the walk goes the same way (`Grown.walkFrom_of_respells`);
and the arguments are the tokens at parameters, which are the same.
-/

namespace ChatCommands

variable {C : Type}

namespace Grammar

/-- The token is a literal of the keyword `next` below `id`, its own or an alias, up to ASCII case. -/
def Spells (g : Grammar C) (id next : NodeId) (token : String) : Prop :=
  ∃ e ∈ (g.node id).branches.edges, e.target = next ∧
    Text.sameUpToAsciiCase e.literal token = true

/-- The lists differ at most in how keywords are spelled that the walk from `id` entered. The `i`-th node
that it entered stands below the `i`-th of `id` and the nodes entered, and took the `i`-th token. -/
structure Respells (g : Grammar C) (id : NodeId) (entered : List NodeId)
    (tokens tokens' : List String) : Prop where
  length_eq : tokens'.length = tokens.length
  spells (i : Nat) : tokens'[i]? = tokens[i]? ∨ ∃ parent next token,
    (id :: entered)[i]? = some parent ∧ entered[i]? = some next ∧ tokens'[i]? = some token ∧
      g.Spells parent next token

section
variable {g : Grammar C} {id next : NodeId} {entered : List NodeId} {token token' : String}
  {tokens tokens' : List String}

/-- Where nothing was entered no token may differ. -/
theorem Respells.eq (h : g.Respells id [] tokens tokens') : tokens' = tokens := by
  refine List.ext_getElem? fun i => ?_
  rcases h.spells i with heq | ⟨parent, next, token, -, hnext, -⟩
  · exact heq
  · cases hnext

theorem Respells.tail (h : g.Respells id (next :: entered) (token :: tokens) (token' :: tokens')) :
    g.Respells next entered tokens tokens' where
  length_eq := Nat.succ.inj h.length_eq
  spells i := by simpa only [List.getElem?_cons_succ] using h.spells (i + 1)

theorem Respells.head (h : g.Respells id (next :: entered) (token :: tokens) (token' :: tokens')) :
    token' = token ∨ g.Spells id next token' := by
  rcases h.spells 0 with heq | ⟨parent, next', token'', hparent, hnext, htoken, hspells⟩
  · exact .inl (Option.some.inj heq)
  · obtain rfl := Option.some.inj hparent
    obtain rfl := Option.some.inj hnext
    obtain rfl := Option.some.inj htoken
    exact .inr hspells

theorem Spells.exists_keywords (h : g.Spells id next token) :
    ∃ es, (g.node id).branches = .keywords es ∧
      ∃ e ∈ es, e.target = next ∧ Text.sameUpToAsciiCase e.literal token = true := by
  obtain ⟨e, he, htarget, hliteral⟩ := h
  cases hbranches : (g.node id).branches with
  | leaf => rw [hbranches] at he; cases he
  | parameter child => rw [hbranches] at he; cases he
  | keywords es =>
    rw [hbranches] at he
    exact ⟨es, rfl, e, he, htarget, hliteral⟩

/-- **All spellings of a keyword lead to it.** -/
theorem Grown.next?_of_spells (h : g.Grown) (accepts : Slot → String → Bool)
    (hspells : g.Spells id next token) : g.next? accepts id token = some next := by
  obtain ⟨es, hbranches, e, he, htarget, hliteral⟩ := hspells.exists_keywords
  exact h.leads_iff.1 (.keyword hbranches he hliteral htarget)

/-- A keyword gives no argument. -/
theorem Spells.argumentAt_eq_none (h : g.Spells id next token) (word : String) :
    g.argumentAt id word = none := by
  obtain ⟨es, hbranches, -⟩ := h.exists_keywords
  rw [argumentAt, hbranches]

end

/-- **The walk goes the same way**, and takes the same arguments. -/
theorem Grown.walkFrom_of_respells {g : Grammar C} (h : g.Grown) (accepts : Slot → String → Bool)
    {id : NodeId} {tokens tokens' : List String}
    (hrespells : g.Respells id (g.walkFrom accepts id tokens).entered tokens tokens') :
    g.walkFrom accepts id tokens' = g.walkFrom accepts id tokens ∧
      g.argumentsAlong id (g.walkFrom accepts id tokens) tokens' =
        g.argumentsAlong id (g.walkFrom accepts id tokens) tokens := by
  induction tokens generalizing id tokens' with
  | nil =>
    obtain rfl := List.length_eq_zero_iff.1 hrespells.length_eq
    exact ⟨rfl, rfl⟩
  | cons token tokens ih =>
    cases hnext : g.next? accepts id token with
    | none =>
      rw [(walkFrom_cons_of_next?_eq_none hnext tokens).1] at hrespells
      rw [hrespells.eq]
      exact ⟨rfl, rfl⟩
    | some next =>
      obtain ⟨token', tokens', rfl⟩ := List.exists_cons_of_length_eq_add_one hrespells.length_eq
      rw [walkFrom_cons_of_next?_eq_some hnext] at hrespells ⊢
      obtain ⟨hwalk, harguments⟩ := ih hrespells.tail
      have hnext' : g.next? accepts id token' = some next := by
        rcases hrespells.head with rfl | hspells
        · exact hnext
        · exact h.next?_of_spells accepts hspells
      have hargument : g.argumentAt id token' = g.argumentAt id token := by
        rcases hrespells.head with rfl | hspells
        · rfl
        · rw [hspells.argumentAt_eq_none, hspells.argumentAt_eq_none]
      rw [walkFrom_cons_of_next?_eq_some hnext', hwalk, argumentsAlong_via, argumentsAlong_via,
        hargument, harguments]
      exact ⟨rfl, rfl⟩

/-- **How keywords are spelled makes no difference**, neither to the selection nor to the arguments. -/
theorem select_of_respells {g : Grammar C} (h : g.Built) (accepts : Slot → String → Bool)
    {tokens tokens' : List String}
    (hrespells : g.Respells root (g.walk accepts tokens).entered tokens tokens') :
    g.select accepts tokens' = g.select accepts tokens ∧
      ∃ arguments, g.capture tokens (g.select accepts tokens).path = .ok arguments ∧
        g.capture tokens' (g.select accepts tokens).path = .ok arguments := by
  obtain ⟨hwalk, harguments⟩ := h.grown.walkFrom_of_respells accepts hrespells
  have hselect : g.select accepts tokens' = g.select accepts tokens := by
    unfold select walk
    rw [hwalk]
  refine ⟨hselect, _, (h.grown.replays accepts tokens).capture, ?_⟩
  rw [← hselect, (h.grown.replays accepts tokens').capture]
  exact congrArg Except.ok (by rw [walk, hwalk, harguments, walk])

end Grammar

/-! ## A sample -/

namespace Sample

/-- The alias of an alias, and the keyword itself in capitals. -/
theorem select_of_respells_capitals :
    voices.grammar.Built ∧
      voices.grammar.Respells root (voices.grammar.walk plainly ["w", "on"]).entered ["w", "on"]
        ["VOICE", "on"] ∧
      voices.grammar.select plainly ["VOICE", "on"] = voices.grammar.select plainly ["w", "on"] ∧
      ∃ arguments,
        voices.grammar.capture ["w", "on"] (voices.grammar.select plainly ["w", "on"]).path =
          .ok arguments ∧
        voices.grammar.capture ["VOICE", "on"] (voices.grammar.select plainly ["w", "on"]).path =
          .ok arguments := by
  have hentered : (voices.grammar.walk plainly ["w", "on"]).entered = [1, 2] := by decide +kernel
  have hedge : Edge.mk "voice" 1 ∈ (voices.grammar.node root).branches.edges := by decide +kernel
  have hliteral : Text.sameUpToAsciiCase "voice" "VOICE" = true := by
    rw [Text.sameUpToAsciiCase_iff, Text.foldAscii, Text.foldAscii, ← String.toList_inj,
      String.toList_map, String.toList_map]
    decide +kernel
  have hspells : voices.grammar.Spells root 1 "VOICE" := ⟨_, hedge, rfl, hliteral⟩
  have hrespells : voices.grammar.Respells root (voices.grammar.walk plainly ["w", "on"]).entered
      ["w", "on"] ["VOICE", "on"] := by
    rw [hentered]
    refine ⟨rfl, fun i => ?_⟩
    cases i with
    | zero => exact .inr ⟨root, 1, "VOICE", rfl, rfl, rfl, hspells⟩
    | succ i => exact .inl (List.getElem?_cons_succ.trans List.getElem?_cons_succ.symm)
  exact ⟨built_voices, hrespells, Grammar.select_of_respells built_voices plainly hrespells⟩

example : (voices.grammar.select plainly ["voice", "on"]).command = some "switch" ∧
    (voices.grammar.select plainly ["w", "on"]).path = "voice.*" := by
  decide +kernel

end Sample

end ChatCommands
