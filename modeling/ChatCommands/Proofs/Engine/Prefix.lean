import Mathlib.Data.List.DropRight
import ChatCommands.Files
import ChatCommands.Proofs.Engine.Frame
import ChatCommands.Proofs.Voices.Grammar

/-!
# Command prefixes that a line can begin with

A line loses the blanks at its front before it is compared with the command prefix. So what follows a
prefix is read if the prefix does not begin with a blank, the empty prefix included; and no line names a
command if it does.

A prefix out of the environment has no blanks around it. One out of the file is taken as it stands, and is
replaced only if it is empty.

* `Engine.Reads`: what follows the command prefix is read, whatever it is.
* `Engine.Deaf`: no line names a command.

**Theorem (`reads_or_deaf_of_load`).** An engine with settings that were loaded reads what follows its
command prefix, unless the prefix in the file begins with a blank and the environment holds no other one.
Then it is deaf.
-/

namespace ChatCommands

/-! ## Texts that begin with a blank -/

namespace Text

/-- The text begins with a blank. -/
def startsBlank (cs : List Char) : Bool :=
  cs.head?.any isBlank

theorem startsBlank_trimFront (cs : List Char) : startsBlank (trimFront cs) = false := by
  have hhead := List.head?_dropWhile_not isBlank cs
  rw [startsBlank, trimFront]
  cases h : (cs.dropWhile isBlank).head? with
  | none => rfl
  | some c =>
    rw [h] at hhead
    exact hhead

theorem trimFront_of_not_startsBlank {cs : List Char} (h : startsBlank cs = false) :
    trimFront cs = cs := by
  cases cs with
  | nil => rfl
  | cons c cs =>
    have hc : isBlank c = false := h
    rw [trimFront, List.dropWhile_cons_of_neg (by simp [hc])]

/-- A text begins as a longer one does, if it has anything in it. -/
theorem startsBlank_of_prefix {cs ds : List Char} (hbegins : cs <+: ds)
    (h : startsBlank cs = true) : startsBlank ds = true := by
  obtain ⟨rest, rfl⟩ := hbegins
  cases cs with
  | nil => cases h
  | cons c cs => exact h

theorem startsBlank_trim (s : String) : startsBlank (trim s).toList = false := by
  have hbegins : trimBack (trimFront s.toList) <+: trimFront s.toList :=
    List.rdropWhile_prefix _ _
  rw [trim, String.toList_ofList, Bool.eq_false_iff]
  intro hblank
  have hfront := startsBlank_of_prefix hbegins hblank
  rw [startsBlank_trimFront] at hfront
  cases hfront

end Text

/-- Blanks in front of a line are between no tokens. -/
theorem tokenize_trimFront (line : String) :
    tokenize (String.ofList (Text.trimFront line.toList)) = tokenize line := by
  rw [tokenize, tokenize, String.toList_ofList]
  generalize line.toList = cs
  induction cs with
  | nil => rfl
  | cons c cs ih =>
    by_cases hc : Text.isBlank c = true
    · have hquote : c ≠ '"' := by
        rintro rfl
        revert hc
        decide +kernel
      rw [Text.trimFront, List.dropWhile_cons_of_pos hc, Tokens.scan, if_neg hquote,
        if_pos (by simp [hc])]
      exact ih
    · rw [Text.trimFront, List.dropWhile_cons_of_neg hc]

/-! ## Lines for an engine -/

namespace Engine

variable {C σ : Type}

/-- What follows the command prefix is read, whatever it is. -/
def Reads (e : Engine C σ) : Prop :=
  ∀ text, e.tokensOf? (e.commandPrefix ++ text) = some (tokenize text)

/-- No line names a command, and no line changes anything. -/
def Deaf (e : Engine C σ) : Prop :=
  ∀ line chatter m now, e.execute line chatter m now = ({ outcome := .unrecognized }, e)

variable {e : Engine C σ}

theorem tokensOf?_of_startsBlank (h : Text.startsBlank e.commandPrefix.toList = true)
    (line : String) : e.tokensOf? line = none := by
  rw [tokensOf?, Option.map_eq_none_iff, Option.eq_none_iff_forall_ne_some]
  intro rest hrest
  have hbegins : e.commandPrefix.toList <+: Text.trimFront line.toList :=
    ⟨rest, List.isPrefixOf?_eq_some_iff_append_eq.1 hrest⟩
  have hfront := Text.startsBlank_of_prefix hbegins h
  rw [Text.startsBlank_trimFront] at hfront
  cases hfront

theorem deaf_of_startsBlank (h : Text.startsBlank e.commandPrefix.toList = true) : e.Deaf := by
  intro line chatter m now
  rw [execute, tokensOf?_of_startsBlank h]

/-- **An engine reads what follows its command prefix exactly if that does not begin with a blank.** -/
theorem reads_iff : e.Reads ↔ Text.startsBlank e.commandPrefix.toList = false := by
  constructor
  · intro hreads
    rw [← Bool.not_eq_true]
    intro hblank
    have hnone := tokensOf?_of_startsBlank hblank (e.commandPrefix ++ "")
    rw [hreads] at hnone
    cases hnone
  · intro hblank text
    rw [tokensOf?, String.toList_append]
    cases hbegins : e.commandPrefix.toList with
    | nil => exact congrArg some (tokenize_trimFront text)
    | cons c rest =>
      rw [hbegins] at hblank
      have hline : Text.startsBlank (c :: rest ++ text.toList) = false := hblank
      rw [Text.trimFront_of_not_startsBlank hline, List.isPrefixOf?_eq_some_iff_append_eq.2 rfl,
        Option.map_some, String.ofList_toList]

theorem commandPrefix_perform (e : Engine C σ) (now : Int) {op : Operation σ}
    (hkept : ∀ commandPrefix, op ≠ .setPrefix commandPrefix) :
    (e.perform now op).2.commandPrefix = e.commandPrefix := by
  have hperformed := e.performed now op
  generalize (e.perform now op).2 = e' at hperformed ⊢
  cases hperformed with
  | line text chatter m now => exact (execute_sameSetup e text chatter m now).commandPrefix
  | message m now => exact (execute_sameSetup e m.content m.userId m now).commandPrefix
  | setPrefix commandPrefix => exact absurd rfl (hkept commandPrefix)
  | _ => rfl

/-- A run that does not set the command prefix keeps it. -/
theorem commandPrefix_run (e : Engine C σ) {ops : List (Int × Operation σ)}
    (hkept : ∀ op ∈ ops, ∀ commandPrefix, op.2 ≠ .setPrefix commandPrefix) :
    (e.run ops).commandPrefix = e.commandPrefix := by
  induction ops generalizing e with
  | nil => rfl
  | cons op ops ih =>
    obtain ⟨now, op⟩ := op
    rw [run, ih _ fun op hop => hkept op (List.mem_cons_of_mem _ hop),
      commandPrefix_perform e now (hkept _ List.mem_cons_self)]

end Engine

/-! ## Command prefixes from settings -/

namespace Settings

/-- The environment holds a command prefix that is not blank. -/
def HoldsPrefix (environment : String → Option String) : Prop :=
  ∃ value, environment prefixVariable = some value ∧ Text.trim value ≠ ""

theorem commandPrefix_overrideOwners (s : Settings) (value : String) :
    (s.overrideOwners value).commandPrefix = s.commandPrefix := by
  simp only [overrideOwners]

theorem commandPrefix_overrideEnforcement (s : Settings) (value : String) :
    (s.overrideEnforcement value).commandPrefix = s.commandPrefix := by
  unfold overrideEnforcement
  dsimp only
  split_ifs <;> rfl

theorem commandPrefix_getD_map {s : Settings} {f : String → Settings}
    (hf : ∀ value, (f value).commandPrefix = s.commandPrefix) (value? : Option String) :
    ((value?.map f).getD s).commandPrefix = s.commandPrefix := by
  cases value? with
  | none => rfl
  | some value => exact hf value

/-- The other overrides leave the command prefix alone. -/
theorem commandPrefix_override (s : Settings) (environment : String → Option String) :
    (s.override environment).commandPrefix =
      (((environment prefixVariable).map s.overridePrefix).getD s).commandPrefix := by
  rw [override, commandPrefix_getD_map (commandPrefix_overrideEnforcement _),
    commandPrefix_getD_map (commandPrefix_overrideOwners _)]

/-- Neither the empty prefix nor the one in its place begins with a blank. -/
theorem startsBlank_withPrefix (s : Settings) :
    Text.startsBlank s.withPrefix.commandPrefix.toList =
      Text.startsBlank s.commandPrefix.toList := by
  unfold withPrefix
  split_ifs with hempty
  · rw [hempty]
    change Text.startsBlank "!".toList = Text.startsBlank "".toList
    decide +kernel
  · rfl

/-- **Only the file can bring a prefix that begins with a blank.** -/
theorem startsBlank_override_iff (s : Settings) (environment : String → Option String) :
    Text.startsBlank (s.override environment).commandPrefix.toList = false ↔
      HoldsPrefix environment ∨ Text.startsBlank s.commandPrefix.toList = false := by
  rw [commandPrefix_override, HoldsPrefix]
  cases henvironment : environment prefixVariable with
  | none => simp
  | some value =>
    rw [Option.map_some, Option.getD_some, overridePrefix]
    by_cases hblank : Text.trim value = ""
    · simp [hblank]
    · simp [hblank, Text.startsBlank_trim]

end Settings

/-! ## Engines from settings -/

namespace Engine

variable {C σ : Type}

/-- An engine whose grammar comes from definitions of any commands, set up from settings. -/
def ofDefinitions (behaviour : Behaviour C σ) (state : σ) (definitions : List (Definition C))
    (settings : Settings) (groups : Groups) : Except BuildError (Engine C σ) := do
  let grammar ← Grammar.build definitions
  return {
    grammar, behaviour, state, groups
    commandPrefix := settings.commandPrefix
    owners := settings.ownerIds
    enforceLimits := settings.enforceLimits }

variable {behaviour : Behaviour C σ} {state : σ} {definitions : List (Definition C)}
  {settings : Settings} {groups : Groups} {e : Engine C σ}

theorem commandPrefix_of_ofDefinitions
    (h : ofDefinitions behaviour state definitions settings groups = .ok e) :
    e.commandPrefix = settings.commandPrefix := by
  unfold ofDefinitions at h
  cases hgrammar : Grammar.build definitions with
  | error fault =>
    rw [hgrammar] at h
    cases h
  | ok grammar =>
    rw [hgrammar] at h
    exact Except.ok.inj h ▸ rfl

/-- **An engine with settings that were loaded reads what follows its command prefix, or it is deaf**; it
reads exactly if the environment holds a prefix or the one in the file does not begin with a blank. -/
theorem reads_or_deaf_of_load {file : Option ByteArray} {environment : String → Option String}
    (hload : Settings.load file environment = .ok settings)
    (hbuilt : ofDefinitions behaviour state definitions settings groups = .ok e)
    {ops : List (Int × Operation σ)}
    (hkept : ∀ op ∈ ops, ∀ commandPrefix, op.2 ≠ .setPrefix commandPrefix) :
    ∃ fromFile, Settings.ofFile file = .ok fromFile ∧
      ((e.run ops).Reads ↔ Settings.HoldsPrefix environment ∨
        Text.startsBlank fromFile.commandPrefix.toList = false) ∧
      ((e.run ops).Reads ∨ (e.run ops).Deaf) := by
  have hbegins : (e.run ops).commandPrefix = settings.commandPrefix :=
    (commandPrefix_run e hkept).trans (commandPrefix_of_ofDefinitions hbuilt)
  generalize e.run ops = e at hbegins ⊢
  rw [Settings.load] at hload
  cases hfile : Settings.ofFile file with
  | error fault =>
    rw [hfile] at hload
    cases hload
  | ok fromFile =>
    rw [hfile] at hload
    obtain rfl : (fromFile.override environment).withPrefix = settings := Except.ok.inj hload
    refine ⟨fromFile, rfl, ?_, ?_⟩
    · rw [reads_iff, hbegins, Settings.startsBlank_withPrefix, Settings.startsBlank_override_iff]
    · cases hblank : Text.startsBlank e.commandPrefix.toList with
      | false => exact .inl (reads_iff.2 hblank)
      | true => exact .inr (deaf_of_startsBlank hblank)

end Engine

/-- The bot is such an engine, with the voice commands. -/
theorem Bot.ofDefinitions_eq_engine (definitions : List (Definition VoiceCommand))
    (settings : Settings) (groups : Groups) :
    ofDefinitions definitions settings groups = Engine.ofDefinitions VoiceCommand.behaviour
      (.ofVoices settings.voices) definitions settings groups :=
  rfl

namespace Sample

/-- A settings file whose command prefix begins with a blank. -/
def indented : ByteArray := "command_prefix: \" !\"\n".toUTF8

/-- An environment with another command prefix. -/
def tilde (name : String) : Option String :=
  if name = Settings.prefixVariable then some " ~ " else none

/-- A line for the prefix out of the environment, and a use charged without a line. -/
def asking : List (Int × Operation VoiceState) :=
  [(0, .message (.ofContent "twitch" "chan" "7" "alice" "~voice brian")), (1, .use "7" "everyone")]

theorem reads_of_tilde :
    Settings.load (some indented) tilde = .ok { commandPrefix := "~" } ∧
      ∃ bot, Bot.ofDefinitions [VoiceCommand.definition] { commandPrefix := "~" } {} = .ok bot ∧
        (∀ op ∈ asking, ∀ commandPrefix, op.2 ≠ .setPrefix commandPrefix) ∧
        Engine.Reads (bot.run asking) := by
  have hload : Settings.load (some indented) tilde = .ok { commandPrefix := "~" } := by
    decide +kernel
  have hkept : ∀ op ∈ asking, ∀ commandPrefix, op.2 ≠ .setPrefix commandPrefix := by
    simp [asking]
  have hbot := Bot.ofDefinitions_eq { commandPrefix := "~" } {}
  have hbuilt := (Bot.ofDefinitions_eq_engine ..).symm.trans hbot
  obtain ⟨fromFile, -, hreads, -⟩ := Engine.reads_or_deaf_of_load hload hbuilt hkept
  exact ⟨hload, _, hbot, hkept, hreads.2 (.inl ⟨" ~ ", rfl, by decide +kernel⟩)⟩

/-- **A prefix that begins with a blank is loaded as it stands**, and leaves the bot deaf. -/
theorem deaf_of_indented :
    Settings.load (some indented) (fun _ => none) = .ok { commandPrefix := " !" } ∧
      ∃ bot, Bot.ofDefinitions [VoiceCommand.definition] { commandPrefix := " !" } {} = .ok bot ∧
        ¬ Engine.Reads bot ∧ Engine.Deaf bot := by
  have hblank : Text.startsBlank (Bot.ofVoices { commandPrefix := " !" } {}).commandPrefix.toList =
      true := by
    decide +kernel
  refine ⟨by decide +kernel, _, Bot.ofDefinitions_eq _ {}, ?_, Engine.deaf_of_startsBlank hblank⟩
  rw [Engine.reads_iff, hblank]
  exact Bool.noConfusion

end Sample

end ChatCommands
