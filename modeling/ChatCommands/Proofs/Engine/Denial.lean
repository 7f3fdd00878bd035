import ChatCommands.Proofs.Engine.Authorization
import ChatCommands.Proofs.Grammar.Places
import ChatCommands.Proofs.Text.Segments

/-!
# Denied commands

A line is authorized by the path of its whole walk, but it calls the last command on that walk, which
may stand further up. So a denial at the place of a command does not bind the lines that go on below
the place, where a rule of its own may permit them.

**Theorem (`exists_allow_below_of_call`).** That is the only way around it: if the rules deny a command
at its place to a chatter who is not an owner, every line of the chatter that calls it goes on below
the place, and a rule there permits it to one of the chatter's groups.
-/

namespace ChatCommands

/-! ## Verdicts further down -/

namespace PermissionTree

variable {t : PermissionTree} {groups : StringSet}

/-- A denial holds for all paths further down, unless a rule in between permits. -/
theorem checkGroups_eq_deny_or_exists_allow {g : String} (hg : g ∈ groups) {q path : String}
    (hq : Dotted.segments q <+: Dotted.segments path) (hdeny : t.checkGroups groups q = .deny) :
    t.checkGroups groups path = .deny ∨
      ∃ group ∈ groups, ∃ r, Dotted.segments (Dotted.below group q) <+: r ∧
        r ≠ Dotted.segments (Dotted.below group q) ∧
        r <+: Dotted.segments (Dotted.below group path) ∧ t.rules r = .allow := by
  obtain ⟨⟨denied, hdenied, hcheck⟩, hub⟩ := isGreatest_checkGroups (t := t) hg q
  obtain ⟨⟨decisive, hdecisive, hverdict⟩, hub'⟩ := isGreatest_checkGroups (t := t) hg path
  have hbelow : ∀ group, Dotted.segments (Dotted.below group q) <+:
      Dotted.segments (Dotted.below group path) := by
    intro group
    rw [Dotted.segments_below, Dotted.segments_below]
    exact (List.prefix_append_right_inj _).2 hq
  simp only [check_eq_nearest] at hcheck hverdict
  cases hv : t.checkGroups groups path with
  | deny => exact .inl rfl
  | allow =>
    rw [hv] at hverdict
    rcases t.rules.nearest_eq_or_exists_below (hbelow decisive) with
      heq | ⟨r, hqr, hne, hr, hrule, -⟩
    · -- Nothing stands in between, so the group was permitted at `q` already.
      have hle := hub ⟨decisive, hdecisive, (check_eq_nearest t _).trans heq.symm⟩
      rw [hverdict, hdeny] at hle
      exact absurd hle (by decide)
    · exact .inr ⟨decisive, hdecisive, r, hqr, hne, hr, hrule.trans hverdict⟩
  | unset =>
    -- The group that was denied at `q` is still denied, or more.
    have hle := hub' ⟨denied, hdenied, rfl⟩
    rw [hv, check_eq_nearest] at hle
    have hunset := le_antisymm hle (Verdict.unset_le _)
    rcases t.rules.nearest_eq_or_exists_below (hbelow denied) with heq | ⟨r, -, -, -, hrule, hset⟩
    · rw [hcheck, hdeny, hunset] at heq
      cases heq
    · exact absurd (hrule.trans hunset) hset

end PermissionTree

/-! ## What a call has passed -/

namespace Engine

variable {C σ : Type}

theorem permits_of_mem_calls {e : Engine C σ} {line chatter : String} {m : Message} {now : Int}
    {call : Call C} (howner : e.isOwner chatter = false)
    (h : call ∈ (e.execute line chatter m now).1.calls) :
    ∃ tokens, e.tokensOf? line = some tokens ∧
      (e.select m tokens).command = some call.command ∧
      e.permits (e.groups.groupsOf chatter) m call.command (e.select m tokens) = true := by
  have hcourse := e.course_execute line chatter m now
  generalize e.execute line chatter m now = result at h hcourse
  cases hcourse with
  | called hpasses _ _ =>
    obtain rfl := List.mem_singleton.1 h
    exact ⟨_, hpasses.tokens_eq, hpasses.command_eq, hpasses.permits howner⟩
  | _ => cases h

theorem verdict_eq_deny {e : Engine C σ} {groups : StringSet} {s : Selection C}
    (h : e.policy.permissions.checkGroups groups s.path = .deny) (command : C) :
    e.verdict groups command s = .deny := by
  rw [verdict, h]

/-- **A denial at a command is lifted only by a permission below it.** The command stands at one node
only, whose path is `q`. -/
theorem exists_allow_below_of_call {grammar : Grammar C} (hgrammar : grammar.Built)
    (behaviour : Behaviour C σ) (state : σ) (ops : List (Int × Operation σ)) {e : Engine C σ}
    (he : (start grammar behaviour state).run ops = e) {command : C} {id : NodeId}
    {q : List String} (hq : grammar.HasPath id q)
    (honly : ∀ id', (grammar.node id').command = some command → id' = id)
    {chatter : String} (howner : e.isOwner chatter = false)
    (hdeny : e.policy.permissions.checkGroups (e.groups.groupsOf chatter) (Dotted.join q) = .deny)
    {line : String} {m : Message} {now : Int} {call : Call C}
    (hcall : call ∈ (e.execute line chatter m now).1.calls) (hcommand : call.command = command) :
    ∃ tokens, e.tokensOf? line = some tokens ∧ q <+: (e.select m tokens).segments ∧
      ∃ group ∈ groupsAfter ops chatter, ∃ r,
        Dotted.segments (Dotted.below group (Dotted.join q)) <+: r ∧
        r ≠ Dotted.segments (Dotted.below group (Dotted.join q)) ∧
        r <+: Dotted.segments (Dotted.below group (e.select m tokens).path) ∧
        rulesAfter ops r = .allow := by
  obtain ⟨tokens, htokens, hselect, hpermits⟩ := permits_of_mem_calls howner hcall
  have hsame : e.grammar = grammar := by
    rw [← he, grammar_run]
    rfl
  -- The selected command stands where the denial is, since it stands nowhere else.
  obtain ⟨id', p, hid', hp, hprefix⟩ := Grammar.exists_hasPath_of_select hselect
  rw [hsame] at hid' hp
  obtain rfl := honly id' (hcommand ▸ hid')
  obtain rfl := hgrammar.grown.hasPath_unique hp hq
  refine ⟨tokens, htokens, hprefix, ?_⟩
  have hsegments : Dotted.segments (Dotted.join p) <+:
      Dotted.segments (e.select m tokens).path := by
    obtain ⟨rest, hrest⟩ := hprefix
    rw [Selection.path, select, ← hrest, Dotted.segments_join, Dotted.segments_join,
      List.flatMap_append]
    exact List.prefix_append _ _
  have heveryone : everyone ∈ e.groups.groupsOf chatter := Groups.mem_groupsOf.2 (.inl rfl)
  rcases PermissionTree.checkGroups_eq_deny_or_exists_allow heveryone hsegments hdeny with
    hstill | ⟨group, hgroup, r, hbelow, hne, hr, hallow⟩
  · rw [permits, verdict_eq_deny hstill] at hpermits
    cases hpermits
  · refine ⟨group, ?_, r, hbelow, hne, hr, ?_⟩
    · rwa [← he, mem_groupsOf_run] at hgroup
    · rwa [← he, rules_run] at hallow

end Engine

/-! ## A denial that is lifted -/

namespace Sample

open Engine

/-- Everyone is denied the command and permitted the keyword below it. -/
def permittedBelow : List (Int × Operation Unit) :=
  [(0, .setRule "everyone.tts" .deny), (1, .setRule "everyone.tts.add" .allow)]

/-- The engine after these operations. -/
def lifted : Engine ScriptedCommand Unit :=
  (start builder.grammar scripted ()).run permittedBelow

theorem built_builder : builder.grammar.Built :=
  ⟨builder, Builder.Reachable.start.runAll _, rfl⟩

theorem hasPath_tts : builder.grammar.HasPath 1 ["tts"] := by
  have hchild : builder.grammar.Child root 1 := by decide +kernel
  have hsegment : (builder.grammar.node 1).segment = "tts" := by decide +kernel
  exact hsegment ▸ Grammar.HasPath.root.child hchild

theorem eq_one_of_command_eq_tts (id : NodeId)
    (h : (builder.grammar.node id).command = some tts) : id = 1 := by
  have hall : ∀ id < builder.grammar.nodes.size,
      (builder.grammar.node id).command = some tts → id = 1 := by decide +kernel
  exact hall id (Grammar.lt_size_of_command h) h

/-- A denial at the one node of a command does not keep the command from being called. -/
theorem exists_call_of_denied :
    builder.grammar.Built ∧ builder.grammar.HasPath 1 ["tts"] ∧
      (builder.grammar.node 1).command = some tts ∧
      (∀ id, (builder.grammar.node id).command = some tts → id = 1) ∧
      lifted.isOwner "7" = false ∧
      lifted.policy.permissions.checkGroups (lifted.groups.groupsOf "7") (Dotted.join ["tts"]) =
        .deny ∧
      ∃ call ∈ (lifted.execute "!tts add" "7" message 2).1.calls, call.command = tts :=
  ⟨built_builder, hasPath_tts, by decide +kernel, eq_one_of_command_eq_tts, by decide +kernel,
    by decide +kernel, by decide +kernel⟩

/-- The permission that lifts the denial stands below it. -/
theorem exists_allow_below_tts :
    lifted.isOwner "7" = false ∧
      lifted.policy.permissions.checkGroups (lifted.groups.groupsOf "7") (Dotted.join ["tts"]) =
        .deny ∧
      ∃ tokens, lifted.tokensOf? "!tts add" = some tokens ∧
        ["tts"] <+: (lifted.select message tokens).segments ∧
        ∃ group ∈ groupsAfter permittedBelow "7", ∃ r,
          Dotted.segments (Dotted.below group (Dotted.join ["tts"])) <+: r ∧
          r ≠ Dotted.segments (Dotted.below group (Dotted.join ["tts"])) ∧
          r <+: Dotted.segments (Dotted.below group (lifted.select message tokens).path) ∧
          rulesAfter permittedBelow r = .allow := by
  have howner : lifted.isOwner "7" = false := by decide +kernel
  have hdeny : lifted.policy.permissions.checkGroups (lifted.groups.groupsOf "7")
      (Dotted.join ["tts"]) = .deny := by decide +kernel
  have hcalls : ∃ call ∈ (lifted.execute "!tts add" "7" message 2).1.calls,
      call.command = tts := by decide +kernel
  obtain ⟨call, hcall, hcommand⟩ := hcalls
  exact ⟨howner, hdeny, exists_allow_below_of_call built_builder scripted () permittedBelow rfl
    hasPath_tts eq_one_of_command_eq_tts howner hdeny hcall hcommand⟩

end Sample

end ChatCommands
