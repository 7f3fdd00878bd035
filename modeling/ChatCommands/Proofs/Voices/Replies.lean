import ChatCommands.Proofs.Voices.Grammar

/-!
# Replies of the voice commands

The voice commands look up their arguments by name and give up where one is missing. The grammar sees to it
that none is, since it puts every command below its parameters.

* `VoiceCommand.Given`: all parameters of a command have values that it can work with.
* `Bot.Answered`: the report on a line tells of no command that gave up.

**Theorem (`answered_of_ofDefinitions`).** Every report is such. As long as replies can be sent, a line that calls
a command gets one reply, to where it came from, and no other line gets any.
-/

namespace ChatCommands

namespace VoiceCommand

/-! ## Commands that are given what they need -/

/-- All parameters of the command have values, and a value for on or off is one of the words for it. -/
def Given (c : VoiceCommand) (arguments : ArgumentMap) : Prop :=
  ∀ slot ∈ c.parameters, ∃ value, Assoc.get? slot.name arguments = some value ∧
    (slot.kind = .toggle → (Toggle.parse? value).isSome = true)

namespace Given

variable {c : VoiceCommand} {arguments : ArgumentMap}

theorem exists_voice (h : c.Given arguments) {registry : String}
    (hslot : voiceIn registry ∈ c.parameters) : ∃ voice, voice? arguments = .ok voice := by
  obtain ⟨value, hvalue, -⟩ := h _ hslot
  have hvalue : Assoc.get? voiceSlot arguments = some value := hvalue
  exact ⟨Text.lower value, by rw [voice?, hvalue]⟩

theorem exists_state (h : setState.Given arguments) : ∃ on, state? arguments = .ok on := by
  obtain ⟨value, hvalue, htoggle⟩ := h _ List.mem_cons_self
  have hvalue : Assoc.get? stateSlot arguments = some value := hvalue
  obtain ⟨on, hon⟩ := Option.isSome_iff_exists.1 (htoggle rfl)
  exact ⟨on, by rw [state?, hvalue, Option.bind_some, hon]⟩

theorem exists_target (h : selectFor.Given arguments) : ∃ login, target? arguments = .ok login := by
  obtain ⟨value, hvalue, -⟩ := h _ (List.mem_cons_of_mem _ List.mem_cons_self)
  have hvalue : Assoc.get? targetSlot arguments = some value := hvalue
  exact ⟨_, by rw [target?, hvalue]⟩

/-- **A command that is given its parameters does its work.** -/
theorem exists_perform (h : c.Given arguments) (m : Message) (s : VoiceState) :
    ∃ s' text, c.perform arguments m s = .ok (s', text) := by
  cases c with
  | status => exact ⟨_, _, rfl⟩
  | enable =>
    obtain ⟨voice, hvoice⟩ := h.exists_voice List.mem_cons_self
    simp only [perform, hvoice]
    by_cases henabled : s.enabled.contains voice = true
    · exact ⟨_, _, if_pos henabled⟩
    · exact ⟨_, _, if_neg henabled⟩
  | disable =>
    obtain ⟨voice, hvoice⟩ := h.exists_voice List.mem_cons_self
    simp only [perform, hvoice]
    exact ⟨_, _, rfl⟩
  | setState =>
    obtain ⟨on, hon⟩ := h.exists_state
    simp only [perform, hon]
    exact ⟨_, _, rfl⟩
  | current =>
    simp only [perform]
    cases s.voiceOf? m.username <;> exact ⟨_, _, rfl⟩
  | select =>
    obtain ⟨voice, hvoice⟩ := h.exists_voice List.mem_cons_self
    simp only [perform, hvoice]
    exact ⟨_, _, rfl⟩
  | selectFor =>
    obtain ⟨voice, hvoice⟩ := h.exists_voice List.mem_cons_self
    obtain ⟨login, hlogin⟩ := h.exists_target
    simp only [perform, hvoice, hlogin]
    exact ⟨_, _, rfl⟩
  | skip => exact ⟨_, _, rfl⟩
  | skipAll => exact ⟨_, _, rfl⟩

end Given

/-- The run of a command that does its work ends with one reply, or with an error where that cannot be
sent. -/
theorem run_of_perform {c : VoiceCommand} {arguments : ArgumentMap} {m : Message}
    {s s' : VoiceState} {text : String} (h : c.perform arguments m s = .ok (s', text))
    (outboxOpen : Bool) :
    c.run arguments m outboxOpen s =
      if outboxOpen then { state := s', replies := [m.reply text] }
      else { state := s', ending := .error } := by
  rw [run, h]

end VoiceCommand

/-! ## Every call is given what it needs -/

namespace Bot

open VoiceCommand

/-- The bot has the voice commands and their grammar. -/
structure HasVoices (e : Bot) : Prop where
  grammar : e.grammar = VoiceCommand.grammar
  behaviour : e.behaviour = VoiceCommand.behaviour

theorem hasVoices_run (settings : Settings) (groups : Groups)
    (ops : List (Int × Operation VoiceState)) : HasVoices ((ofVoices settings groups).run ops) :=
  ⟨Engine.grammar_run .., Engine.behaviour_run ..⟩

section
variable {e : Bot} (h : e.HasVoices)
include h

/-- **What the grammar promises is what a command needs.** -/
theorem HasVoices.given_of_supplied {m : Message} {call : Call VoiceCommand}
    {arguments : List Argument} (hcall : e.Supplied m call arguments) :
    call.command.Given call.arguments := by
  obtain ⟨harguments, ⟨id, slots, hid, hslots, hgiven⟩, hparameter, haccepted⟩ := hcall
  rw [h.grammar] at hid hslots hparameter
  obtain rfl := parametersTo_eq hslots hid
  intro slot hslot
  obtain ⟨a, ha, rfl⟩ := List.mem_map.1 (hgiven.subset hslot)
  obtain ⟨b, hb, hname, hvalue⟩ := Argument.exists_get?_byName ha
  refine ⟨b.value, harguments ▸ hvalue, fun htoggle => ?_⟩
  -- The value is that of another argument perhaps, but one for on or off as well.
  have hkind : b.slot.kind = .toggle := by
    obtain ⟨parent, ha⟩ := hparameter a ha
    obtain ⟨parent', hb⟩ := hparameter b hb
    rw [kind_eq_toggle_iff _ (Grammar.lt_size_of_mem_parameterBelow hb) _ hb, hname]
    exact (kind_eq_toggle_iff _ (Grammar.lt_size_of_mem_parameterBelow ha) _ ha).1 htoggle
  have haccepts := haccepted b hb
  rwa [Engine.accepts, Slot.accepts, hkind] at haccepts

end

/-! ## What is told of a line -/

/-- The report on a line with this message tells of no command that gave up. -/
structure Answered (e : Bot) (m : Message) (r : Report VoiceCommand) : Prop where
  length_calls : r.calls.length ≤ 1
  calls_ne_nil_iff : r.calls ≠ [] ↔ r.outcome = .success ∨ r.outcome = .executionFailed
  /-- A call does its work, and the text that comes of it is the one reply. -/
  performs (call : Call VoiceCommand) (h : call ∈ r.calls) :
    ∃ s text, call.command.perform call.arguments m e.state = .ok (s, text) ∧
      (e.outboxOpen = true → r.outcome = .success ∧ r.replies = [m.reply text])
  silent (h : r.outcome ≠ .success) : r.replies = []
  closed (h : r.outcome = .executionFailed) : e.outboxOpen = false

/-- Nothing is sent where nothing is called. -/
theorem Answered.of_settled {o : Outcome} (e : Bot) (m : Message) (hsuccess : o ≠ .success)
    (hfailed : o ≠ .executionFailed) : e.Answered m { outcome := o } where
  length_calls := Nat.zero_le 1
  calls_ne_nil_iff := iff_of_false (fun h => h rfl) fun h => h.elim hsuccess hfailed
  performs _ h := nomatch h
  silent _ := rfl
  closed h := absurd h hfailed

section
variable {e e' : Bot} (h : e.HasVoices) {m : Message}
include h

/-- What is told of a call that was given what it needs. -/
theorem HasVoices.answered_of_ran {call : Call VoiceCommand} {r : Report VoiceCommand}
    (hgiven : call.command.Given call.arguments) (hran : e.Ran m call r e') : e.Answered m r := by
  obtain ⟨s, text, hperform⟩ := hgiven.exists_perform m e.state
  have hrun : VoiceCommand.behaviour.run call.command call.arguments m e.outboxOpen e.state = _ :=
    run_of_perform hperform e.outboxOpen
  have houtcome : r.outcome = if e.outboxOpen then .success else .executionFailed := by
    rw [hran.outcome, h.behaviour, hrun]
    cases e.outboxOpen <;> rfl
  have hreplies : r.replies = if e.outboxOpen then [m.reply text] else [] := by
    rw [hran.replies, h.behaviour, hrun]
    cases e.outboxOpen <;> rfl
  refine ⟨?_, ?_, fun call' hcall' => ?_, fun hne => ?_, fun hfailed => ?_⟩
  · rw [hran.calls]
    exact Nat.le_refl 1
  · rw [hran.calls, houtcome]
    cases e.outboxOpen <;> simp
  · rw [hran.calls] at hcall'
    obtain rfl := List.mem_singleton.1 hcall'
    refine ⟨s, text, hperform, fun hopen => ?_⟩
    rw [houtcome, hreplies, if_pos hopen, if_pos hopen]
    exact ⟨rfl, rfl⟩
  · cases hopen : e.outboxOpen with
    | true => exact absurd (houtcome.trans (if_pos hopen)) hne
    | false => rw [hreplies, hopen, if_neg Bool.false_ne_true]
  · cases hopen : e.outboxOpen with
    | true => cases hfailed.symm.trans (houtcome.trans (if_pos hopen))
    | false => rfl

/-- **A line is answered**, whatever becomes of it. -/
theorem HasVoices.answered_execute (line chatter : String) (m : Message) (now : Int) :
    e.Answered m (e.execute line chatter m now).1 := by
  have hgrammar : e.grammar.Built := h.grammar ▸ built_grammar
  have hsupplied : ∀ call ∈ (e.execute line chatter m now).1.calls,
      ∃ arguments, e.Supplied m call arguments :=
    fun _ => Engine.supplied_of_mem_calls hgrammar
  have hcourse := e.course_execute line chatter m now
  generalize e.execute line chatter m now = result at hsupplied hcourse
  cases hcourse with
  | @called tokens command arguments hpasses =>
    obtain ⟨_, hcall⟩ := hsupplied _ (List.mem_singleton_self _)
    exact h.answered_of_ran (h.given_of_supplied hcall) (e.ran_invoke chatter m tokens now _)
  | unrecognized => exact .of_settled e m nofun nofun
  | forbidden => exact .of_settled e m nofun nofun
  | badSyntax => exact .of_settled e m nofun nofun
  | rateLimited => exact .of_settled e m nofun nofun

end

/-- **No voice command ever misses an argument**, whatever was done to the bot before. A call is answered by
one reply as long as replies can be sent, and fails only if they cannot. -/
theorem answered_of_ofDefinitions (settings : Settings) (groups : Groups) :
    ∃ bot, ofDefinitions [VoiceCommand.definition] settings groups = .ok bot ∧
      ∀ (ops : List (Int × Operation VoiceState)) (line chatter : String) (m : Message)
        (now : Int), Answered (bot.run ops) m ((bot.run ops).execute line chatter m now).1 :=
  ⟨ofVoices settings groups, ofDefinitions_eq settings groups, fun ops =>
    (hasVoices_run settings groups ops).answered_execute⟩

/-- The optional mention is refused, so the command above it is called, with the voice alone. -/
example : ((ofVoices {} {}).execute "!voice Amy thanks" "7"
    (.ofContent "twitch" "chan" "7" "alice" "!voice Amy thanks") 0).1 =
      { outcome := .success, calls := [⟨.select, [("voiceName", "Amy")]⟩]
        replies := [⟨"twitch", "chan", "@alice your voice is now amy"⟩] } := by
  decide +kernel

end Bot

end ChatCommands
