import ChatCommands.Bot
import ChatCommands.Proofs.Grammar.Parameters

/-!
# The grammar of the voice commands

The definition of the voice commands is accepted, and it puts every command below the parameters that it
works with.

* `VoiceCommand.parameters`: the parameters of a command.
* `parametersTo_eq`: those are the parameters on the way to wherever the command stands.
* `nodup_names_of_parametersTo`: their names tell the parameters on one way down apart.
* `Bot.ofVoices`: the bot with the voice commands alone.
-/

namespace ChatCommands

namespace VoiceCommand

/-! ## The grammar -/

/-- The grammar of the voice commands alone. -/
def grammar : Grammar VoiceCommand :=
  (BuildStep.runUntilFailure definition {}).1.grammar

theorem failure_definition : (BuildStep.runUntilFailure definition {}).2.2 = none := by
  decide +kernel

theorem build_definition : Grammar.build [definition] = .ok grammar := by
  have hdefine : Grammar.define {} definition =
      .ok (BuildStep.runUntilFailure definition ({} : Builder VoiceCommand)).1 := by
    have hfailure := failure_definition
    unfold Grammar.define
    rw [show ({} : Builder VoiceCommand).reset = {} from rfl]
    generalize BuildStep.runUntilFailure definition ({} : Builder VoiceCommand) = result at hfailure
    obtain ⟨b, answers, failure⟩ := result
    obtain rfl : failure = none := hfailure
    rfl
  rw [Grammar.build, List.foldlM_cons, hdefine]
  rfl

theorem built_grammar : grammar.Built :=
  Grammar.built_of_build build_definition

/-! ## Parameters -/

/-- The parameters of a command. -/
def parameters : VoiceCommand → List Slot
  | status | current | skip => []
  | enable => [voiceIn VoiceState.availableKey]
  | disable | select => [voiceIn VoiceState.enabledKey]
  | setState => [{ name := stateSlot, kind := .toggle }]
  | selectFor => [voiceIn VoiceState.enabledKey,
      { name := targetSlot, optional := true, kind := .mention }]
  | skipAll => [{ name := scopeSlot, optional := true, kind := .choice (.ofList ["all"]) }]

/-- The parameters of the command at a node; where no command stands there are none on the way. -/
def parametersAt (id : NodeId) : List Slot :=
  ((grammar.node id).command.map parameters).getD []

theorem parametersAt_child : ∀ parent < grammar.nodes.size,
    ∀ child ∈ (grammar.node parent).branches.targets,
      parametersAt child = parametersAt parent ++ grammar.parameterBelow parent := by
  decide +kernel

theorem eq_parametersAt {id : NodeId} {slots : List Slot} (h : grammar.ParametersTo id slots) :
    slots = parametersAt id := by
  induction h with
  | root => decide +kernel
  | child _ hchild ih => rw [ih, parametersAt_child _ hchild.parent_lt _ hchild]

/-- **Every command stands below its parameters**, and below no others. -/
theorem parametersTo_eq {id : NodeId} {slots : List Slot} (h : grammar.ParametersTo id slots)
    {c : VoiceCommand} (hc : (grammar.node id).command = some c) : slots = c.parameters := by
  rw [eq_parametersAt h, parametersAt, hc]
  rfl

theorem nodup_names_parametersAt : ∀ id < grammar.nodes.size,
    ((parametersAt id ++ grammar.parameterBelow id).map Slot.name).Nodup := by
  decide +kernel

/-- **No two parameters on one way down have the same name.** -/
theorem nodup_names_of_parametersTo {id : NodeId} {slots : List Slot}
    (h : grammar.ParametersTo id slots) :
    ((slots ++ grammar.parameterBelow id).map Slot.name).Nodup := by
  rw [eq_parametersAt h]
  rcases Nat.lt_or_ge id grammar.nodes.size with hid | hid
  · exact nodup_names_parametersAt id hid
  · rw [parametersAt, Grammar.parameterBelow, Grammar.node_of_size_le hid]
    exact List.nodup_nil

theorem kind_eq_toggle_iff : ∀ parent < grammar.nodes.size,
    ∀ slot ∈ grammar.parameterBelow parent, slot.kind = .toggle ↔ slot.name = stateSlot := by
  decide +kernel

end VoiceCommand

/-! ## The bot -/

namespace Bot

/-- Whatever definitions its grammar comes from, a bot has the voice commands. -/
theorem behaviour_of_ofDefinitions {definitions : List (Definition VoiceCommand)}
    {settings : Settings} {groups : Groups} {bot : Bot}
    (h : ofDefinitions definitions settings groups = .ok bot) :
    bot.behaviour = VoiceCommand.behaviour := by
  unfold ofDefinitions at h
  cases hgrammar : Grammar.build definitions with
  | error fault =>
    rw [hgrammar] at h
    cases h
  | ok grammar =>
    rw [hgrammar] at h
    exact Except.ok.inj h ▸ rfl

/-- The bot with the voice commands alone. -/
def ofVoices (settings : Settings) (groups : Groups) : Bot where
  grammar := VoiceCommand.grammar
  behaviour := VoiceCommand.behaviour
  state := .ofVoices settings.voices
  commandPrefix := settings.commandPrefix
  owners := settings.ownerIds
  enforceLimits := settings.enforceLimits
  groups := groups

theorem ofDefinitions_eq (settings : Settings) (groups : Groups) :
    ofDefinitions [VoiceCommand.definition] settings groups = .ok (ofVoices settings groups) := by
  rw [ofDefinitions, VoiceCommand.build_definition]
  rfl

end Bot

end ChatCommands
