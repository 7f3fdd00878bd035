import ChatCommands.Proofs.Engine.Authorization
import ChatCommands.Proofs.Voices.Grammar

/-!
# What chatters of no standing can do

Voices are enabled and disabled, given to others and skipped, and the reading aloud is switched, by
moderators and the broadcaster, or by whom a permission rule allows it.

* `RuleMap.NeverAllows`: there is no such rule.
* `VoiceState.SameButVoicesOf`: the states differ at most in what voices some logins have.
* `Bot.Ordinary`: a message that comes from neither an owner nor a moderator nor the broadcaster.

**Theorem (`execute_sameButVoicesOf`).** Where no rule allows anything, a line with such a message changes
nothing but the voice of the login it was sent from.

**Theorem (`conversation_sameButVoicesOf`).** Any number of such lines changes nothing but the voices of the
logins that they were sent from.
-/

namespace ChatCommands

/-! ## Rules that allow nothing -/

namespace RuleMap

/-- No rule allows anything. -/
def NeverAllows (rules : RuleMap) : Prop :=
  ∀ path, rules path ≠ .allow

variable {rules : RuleMap} {groups suffixes : Set String} {v : Verdict}

theorem NeverAllows.nearest_ne (h : rules.NeverAllows) (path : List String) :
    rules.nearest path ≠ .allow := by
  rcases rules.nearest_spec path with ⟨hunset, -⟩ | ⟨r, -, hr, -, -⟩
  · rw [hunset]
    exact Verdict.noConfusion
  · rw [← hr]
    exact h r

theorem IsVerdict.ne_allow (h : rules.IsVerdict groups suffixes v) (hnever : rules.NeverAllows) :
    v ≠ .allow := by
  obtain ⟨⟨suffix, -, group, -, rfl⟩, -⟩ := h
  exact hnever.nearest_ne _

theorem Decides.ne_allow {custom : Bool} {path : String} {names : NameSet}
    (h : rules.Decides groups custom path names v) (hnever : rules.NeverAllows) : v ≠ .allow := by
  obtain ⟨onPath, hpath, h⟩ := h
  split_ifs at h
  · exact h.ne_allow hnever
  · exact h ▸ hpath.ne_allow hnever

end RuleMap

namespace Engine

variable {C σ : Type} {e : Engine C σ}

/-- Where no rule allows anything, a chatter may use what everyone may use by default. -/
theorem allowedByDefault_of_permits (hnever : e.policy.permissions.rules.NeverAllows)
    {chatter : String} {m : Message} {command : C} {s : Selection C}
    (h : e.permits (e.groups.groupsOf chatter) m command s = true) :
    e.behaviour.allowedByDefault command m = true := by
  have heveryone : everyone ∈ e.groups.groupsOf chatter := Groups.mem_groupsOf.2 (.inl rfl)
  have hne := (decides_verdict e heveryone command s).ne_allow hnever
  unfold permits at h
  cases hverdict : e.verdict (e.groups.groupsOf chatter) command s with
  | allow => exact absurd hverdict hne
  | deny => simp [hverdict] at h
  | unset => simpa [hverdict] using h

/-- A line leaves the state as it is, or does to it what the run of a command does that the chatter may
use. -/
theorem state_execute (e : Engine C σ) (line chatter : String) (m : Message) (now : Int) :
    (e.execute line chatter m now).2.state = e.state ∨
      ∃ tokens command arguments, e.Passes line chatter m tokens command ∧
        (e.execute line chatter m now).2.state =
          (e.behaviour.run command arguments m e.outboxOpen e.state).state := by
  have hcourse := e.course_execute line chatter m now
  generalize e.execute line chatter m now = result at hcourse
  cases hcourse with
  | rateLimited => exact .inl (state_charge ..)
  | @called tokens command arguments hpasses =>
    exact .inr ⟨tokens, command, _, hpasses, (ran_invoke e chatter m tokens now _).state⟩
  | _ => exact .inl rfl

end Engine

/-! ## The voice of one login -/

namespace VoiceState

/-- The states differ at most in the voices of these logins, however those are spelled. -/
structure SameButVoicesOf (logins : Set String) (s s' : VoiceState) : Prop where
  available : s'.available = s.available
  enabled : s'.enabled = s.enabled
  active : s'.active = s.active
  skips : s'.skips = s.skips
  voiceOf? (x : String) (h : ∀ login ∈ logins, Text.lower x ≠ Text.lower login) :
    s'.voiceOf? x = s.voiceOf? x

variable {logins : Set String}

theorem SameButVoicesOf.refl (s : VoiceState) : s.SameButVoicesOf logins s :=
  ⟨rfl, rfl, rfl, rfl, fun _ _ => rfl⟩

theorem SameButVoicesOf.trans {s₁ s₂ s₃ : VoiceState} (h : s₁.SameButVoicesOf logins s₂)
    (h' : s₂.SameButVoicesOf logins s₃) : s₁.SameButVoicesOf logins s₃ where
  available := h'.available.trans h.available
  enabled := h'.enabled.trans h.enabled
  active := h'.active.trans h.active
  skips := h'.skips.trans h.skips
  voiceOf? x hx := (h'.voiceOf? x hx).trans (h.voiceOf? x hx)

theorem SameButVoicesOf.mono {s s' : VoiceState} {logins' : Set String}
    (h : s.SameButVoicesOf logins s') (hsub : logins ⊆ logins') : s.SameButVoicesOf logins' s' :=
  { h with voiceOf? := fun x hx => h.voiceOf? x fun login hlogin => hx login (hsub hlogin) }

theorem voiceOf?_select (s : VoiceState) (login voice x : String) :
    (s.select login voice).voiceOf? x =
      if Text.lower login = Text.lower x then some voice else s.voiceOf? x :=
  Assoc.get?_put _ _ _ _

theorem sameButVoicesOf_select (s : VoiceState) (login voice : String) :
    s.SameButVoicesOf {login} (s.select login voice) where
  available := rfl
  enabled := rfl
  active := rfl
  skips := rfl
  voiceOf? x hx := by
    rw [voiceOf?_select, if_neg (hx login rfl).symm]

end VoiceState

namespace VoiceCommand

/-- A run leaves the state as it is, or brings about what `perform` says. -/
theorem state_run (c : VoiceCommand) (arguments : ArgumentMap) (m : Message) (outboxOpen : Bool)
    (s : VoiceState) :
    (c.run arguments m outboxOpen s).state = s ∨
      ∃ text, c.perform arguments m s = .ok ((c.run arguments m outboxOpen s).state, text) := by
  unfold run
  cases hperform : c.perform arguments m s with
  | error missing => exact .inl rfl
  | ok result =>
    obtain ⟨s', text⟩ := result
    refine .inr ⟨text, ?_⟩
    cases outboxOpen <;> rfl

variable {m : Message}

/-- What is free to all has to do with the sender's voice at most. -/
theorem sameButVoicesOf_perform {c : VoiceCommand} (hfree : c.allowedByDefault m = true)
    (hmod : m.isMod = false) (hbroadcaster : m.isBroadcaster = false) {arguments : ArgumentMap}
    {s s' : VoiceState} {text : String} (h : c.perform arguments m s = .ok (s', text)) :
    s.SameButVoicesOf {m.username} s' := by
  cases c with
  | status =>
    obtain ⟨rfl, -⟩ := Prod.mk.inj (Except.ok.inj h)
    exact .refl s
  | current =>
    simp only [perform] at h
    cases hown : s.voiceOf? m.username with
    | none =>
      rw [hown] at h
      obtain ⟨rfl, -⟩ := Prod.mk.inj (Except.ok.inj h)
      exact .refl s
    | some voice =>
      rw [hown] at h
      obtain ⟨rfl, -⟩ := Prod.mk.inj (Except.ok.inj h)
      exact .refl s
  | select =>
    simp only [perform] at h
    cases hvoice : voice? arguments with
    | error missing =>
      rw [hvoice] at h
      cases h
    | ok voice =>
      rw [hvoice] at h
      obtain ⟨rfl, -⟩ := Prod.mk.inj (Except.ok.inj h)
      exact s.sameButVoicesOf_select m.username voice
  | _ => simp [allowedByDefault, hmod, hbroadcaster] at hfree

theorem sameButVoicesOf_run {c : VoiceCommand} (hfree : c.allowedByDefault m = true)
    (hmod : m.isMod = false) (hbroadcaster : m.isBroadcaster = false) (arguments : ArgumentMap)
    (outboxOpen : Bool) (s : VoiceState) :
    s.SameButVoicesOf {m.username} (c.run arguments m outboxOpen s).state := by
  rcases c.state_run arguments m outboxOpen s with hsame | ⟨text, hperform⟩
  · rw [hsame]
    exact .refl s
  · exact sameButVoicesOf_perform hfree hmod hbroadcaster hperform

end VoiceCommand

/-! ## Lines of ordinary chatters -/

namespace Bot

/-- The message comes from a chatter who is neither an owner nor a moderator nor the broadcaster. -/
structure Ordinary (e : Bot) (chatter : String) (m : Message) : Prop where
  isOwner : e.isOwner chatter = false
  isMod : m.isMod = false
  isBroadcaster : m.isBroadcaster = false

/-- The bot has the voice commands, and no rule allows anything. -/
structure Unpermissive (e : Bot) : Prop where
  behaviour : e.behaviour = VoiceCommand.behaviour
  rules : e.policy.permissions.rules.NeverAllows

/-- **An ordinary line** has to do with the sender's voice at most. -/
theorem Unpermissive.sameButVoicesOf {e : Bot} (h : e.Unpermissive) {chatter : String} {m : Message}
    (hm : e.Ordinary chatter m) (line : String) (now : Int) :
    e.state.SameButVoicesOf {m.username} (e.execute line chatter m now).2.state := by
  rcases e.state_execute line chatter m now with hsame | ⟨tokens, c, arguments, hpasses, hstate⟩
  · rw [hsame]
    exact .refl _
  · have hfree := Engine.allowedByDefault_of_permits h.rules (hpasses.permits hm.isOwner)
    rw [h.behaviour] at hfree hstate
    rw [hstate]
    exact VoiceCommand.sameButVoicesOf_run hfree hm.isMod hm.isBroadcaster arguments _ _

/-- No line gives anyone a right. -/
theorem Unpermissive.execute {e : Bot} (h : e.Unpermissive) (line chatter : String) (m : Message)
    (now : Int) : Unpermissive (e.execute line chatter m now).2 := by
  have hsetup := e.execute_sameSetup line chatter m now
  exact ⟨hsetup.behaviour.trans h.behaviour, hsetup.permissions ▸ h.rules⟩

theorem Ordinary.execute {e : Bot} {chatter : String} {m : Message} (h : e.Ordinary chatter m)
    (line chatter' : String) (m' : Message) (now : Int) :
    Ordinary (e.execute line chatter' m' now).2 chatter m where
  isOwner := by
    rw [Engine.isOwner, (e.execute_sameSetup line chatter' m' now).owners]
    exact h.isOwner
  isMod := h.isMod
  isBroadcaster := h.isBroadcaster

/-- The lines of ordinary chatters have to do with their own voices at most. -/
theorem Unpermissive.run_sameButVoicesOf {e : Bot} (h : e.Unpermissive) {logins : Set String}
    {ops : List (Int × Operation VoiceState)}
    (hops : ∀ op ∈ ops, ∃ line chatter m, op.2 = .line line chatter m ∧ e.Ordinary chatter m ∧
      m.username ∈ logins) :
    e.state.SameButVoicesOf logins (e.run ops).state := by
  induction ops generalizing e with
  | nil => exact .refl _
  | cons op ops ih =>
    obtain ⟨now, op⟩ := op
    obtain ⟨line, chatter, m, hline, hm, hlogin⟩ := hops _ List.mem_cons_self
    obtain rfl : op = .line line chatter m := hline
    have hfirst := (h.sameButVoicesOf hm line now).mono (Set.singleton_subset_iff.2 hlogin)
    refine hfirst.trans (ih (h.execute line chatter m now) fun op hop => ?_)
    obtain ⟨line', chatter', m', hline', hm', hlogin'⟩ := hops op (List.mem_cons_of_mem _ hop)
    exact ⟨line', chatter', m', hline', hm'.execute line chatter m now, hlogin'⟩

/-- Whatever was done to the bot, it gives no rights if that left no rule which allows anything. -/
theorem unpermissive_of_ofDefinitions {definitions : List (Definition VoiceCommand)}
    {settings : Settings} {groups : Groups} {bot : Bot}
    (hbot : ofDefinitions definitions settings groups = .ok bot)
    (ops : List (Int × Operation VoiceState))
    (hrules : (bot.run ops).policy.permissions.rules.NeverAllows) : Unpermissive (bot.run ops) where
  behaviour := by
    rw [Engine.behaviour_run]
    exact behaviour_of_ofDefinitions hbot
  rules := hrules

/-- **Ordinary chatters rule over their own voice only**, whatever was done to the bot before, as long as
it left no rule that allows anything. Logins count as the same that differ in case only. -/
theorem execute_sameButVoicesOf {definitions : List (Definition VoiceCommand)} {settings : Settings}
    {groups : Groups} {bot : Bot} (hbot : ofDefinitions definitions settings groups = .ok bot)
    (ops : List (Int × Operation VoiceState)) {e : Bot} (he : bot.run ops = e)
    (hrules : ∀ path, e.policy.permissions.rules path ≠ .allow) {chatter : String} {m : Message}
    (howner : e.isOwner chatter = false) (hmod : m.isMod = false)
    (hbroadcaster : m.isBroadcaster = false) (line : String) (now : Int) :
    e.state.SameButVoicesOf {m.username} (e.execute line chatter m now).2.state := by
  subst he
  exact (unpermissive_of_ofDefinitions hbot ops hrules).sameButVoicesOf ⟨howner, hmod, hbroadcaster⟩
    line now

/-- **A conversation of ordinary chatters** changes nothing but their own voices, however long it is. -/
theorem conversation_sameButVoicesOf {definitions : List (Definition VoiceCommand)}
    {settings : Settings} {groups : Groups} {bot : Bot}
    (hbot : ofDefinitions definitions settings groups = .ok bot)
    (ops : List (Int × Operation VoiceState)) {e : Bot} (he : bot.run ops = e)
    (hrules : ∀ path, e.policy.permissions.rules path ≠ .allow) {logins : Set String}
    {lines : List (Int × Operation VoiceState)}
    (hlines : ∀ op ∈ lines, ∃ line chatter m, op.2 = .line line chatter m ∧ e.Ordinary chatter m ∧
      m.username ∈ logins) :
    e.state.SameButVoicesOf logins (e.run lines).state := by
  subst he
  exact (unpermissive_of_ofDefinitions hbot ops hrules).run_sameButVoicesOf hlines

end Bot

/-! ## A sample -/

namespace Sample

/-- The bot as it comes. -/
def plain : Bot := Bot.ofVoices {} {}

/-- Limits are enforced, and one of the commands is denied to everyone. -/
def strict : List (Int × Operation VoiceState) :=
  [(0, .enforceLimits true), (1, .setRule "everyone.tts" .deny), (2, .setLimit "everyone" ⟨5, 1000⟩)]

def picksBrian : Message := Message.ofContent "twitch" "chan" "7" "alice" "!voice brian"

theorem neverAllows_plain : plain.policy.permissions.rules.NeverAllows := by
  rw [show plain.policy.permissions.rules = RuleMap.empty from PermissionTree.rules_empty]
  exact fun path => Verdict.noConfusion

theorem neverAllows_strict : (plain.run strict).policy.permissions.rules.NeverAllows := by
  intro path
  rw [Engine.rules_run_from]
  show RuleMap.set plain.policy.permissions.rules (Dotted.segments "everyone.tts") .deny path ≠ _
  unfold RuleMap.set
  split_ifs
  · exact Verdict.noConfusion
  · exact neverAllows_plain path

/-- An ordinary chatter picks a voice, and nothing else comes of it. -/
theorem sameButVoicesOf_picksBrian :
    Bot.ofDefinitions [VoiceCommand.definition] {} {} = .ok plain ∧
      (∀ path, (plain.run strict).policy.permissions.rules path ≠ .allow) ∧
      (plain.run strict).isOwner "7" = false ∧ picksBrian.isMod = false ∧
      picksBrian.isBroadcaster = false ∧
      (plain.run strict).state.SameButVoicesOf {picksBrian.username}
        ((plain.run strict).execute "!voice brian" "7" picksBrian 3).2.state := by
  have hbot : Bot.ofDefinitions [VoiceCommand.definition] {} {} = .ok plain :=
    Bot.ofDefinitions_eq {} {}
  have howner : (plain.run strict).isOwner "7" = false := by decide +kernel
  have hmod : picksBrian.isMod = false := rfl
  have hbroadcaster : picksBrian.isBroadcaster = false := by decide +kernel
  exact ⟨hbot, neverAllows_strict, howner, hmod, hbroadcaster,
    Bot.execute_sameButVoicesOf hbot strict rfl neverAllows_strict howner hmod hbroadcaster
      "!voice brian" 3⟩

/-- The voice is picked for all spellings of the login, so it changes for texts that are not the login in
lowercase. -/
theorem voiceOf?_changes_for_capitals :
    Bot.ofDefinitions [VoiceCommand.definition] {} {} = .ok plain ∧
      (∀ path, plain.policy.permissions.rules path ≠ .allow) ∧ plain.isOwner "7" = false ∧
      picksBrian.isMod = false ∧ picksBrian.isBroadcaster = false ∧
      "Alice" ≠ Text.lower picksBrian.username ∧
      (plain.execute "!voice brian" "7" picksBrian 0).2.state.voiceOf? "Alice" ≠
        plain.state.voiceOf? "Alice" :=
  ⟨Bot.ofDefinitions_eq {} {}, neverAllows_plain, by decide +kernel, rfl, by decide +kernel,
    by decide +kernel, by decide +kernel⟩

end Sample

end ChatCommands
