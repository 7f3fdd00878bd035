import ChatCommands.Proofs.Engine.RateBound
import ChatCommands.Proofs.Voices.Replies

/-!
# Voices stay among those on offer

The voice commands put names into the state without checking them. That no voice gets in which is not on
offer rests on the grammar: it has every voice looked up in the registry that suits the command before
the command is called.

* `VoiceCommand.Suited`: all parameters of a command have values that they accept.
* `Bot.picks`: the voices picked in a run, with those that were enabled at the time.
* `VoiceState.Contained`: all names in the state are voices on offer or logins, in lowercase, and the voice
  of a login is the last one picked for it, from those that were enabled then.

**Theorem (`contained_of_ofDefinitions`).** Lines, events and changes of the settings, in any order, leave
the state contained in what was on offer at the start.
-/

namespace ChatCommands

namespace VoiceCommand

/-! ## Values that parameters accept -/

/-- All parameters of the command have values that they accept. -/
def Suited (c : VoiceCommand) (registries : Registries) (m : Message) (arguments : ArgumentMap) :
    Prop :=
  ∀ slot ∈ c.parameters, ∃ value, Assoc.get? slot.name arguments = some value ∧
    slot.accepts registries (some m) value = true

namespace Suited

variable {c : VoiceCommand} {registries : Registries} {m : Message} {arguments : ArgumentMap}

theorem given (h : c.Suited registries m arguments) : c.Given arguments := by
  intro slot hslot
  obtain ⟨value, hvalue, haccepts⟩ := h slot hslot
  refine ⟨value, hvalue, fun htoggle => ?_⟩
  rwa [Slot.accepts, htoggle] at haccepts

/-- The voice that a command works with is in the registry of its parameter. -/
theorem exists_voice (h : c.Suited registries m arguments) {registry : String}
    (hslot : voiceIn registry ∈ c.parameters) :
    ∃ voice, voice? arguments = .ok voice ∧ voice ∈ (registries registry).stored := by
  obtain ⟨value, hvalue, haccepts⟩ := h _ hslot
  have hvalue : Assoc.get? voiceSlot arguments = some value := hvalue
  have hcontains : (registries registry).contains value = true := haccepts
  exact ⟨Text.lower value, by rw [voice?, hvalue], of_decide_eq_true hcontains⟩

end Suited

end VoiceCommand

/-! ## Voices that are picked -/

/-- A voice picked for a login, and the voices that were enabled at the time. -/
structure VoicePick where
  login : String
  voice : String
  enabled : NameSet
  deriving DecidableEq

/-- What a call picks for a login, if it does. -/
def VoiceCommand.pick? (m : Message) (s : VoiceState) (call : Call VoiceCommand) : Option VoicePick :=
  match call.command with
  | select => (voice? call.arguments).toOption.map fun voice =>
      ⟨Text.lower m.username, voice, s.enabled⟩
  | selectFor => (voice? call.arguments).toOption.bind fun voice =>
      (target? call.arguments).toOption.map fun login => ⟨login, voice, s.enabled⟩
  | _ => none

/-- What is picked in an operation. -/
def Bot.picksIn (e : Bot) (now : Int) (op : Operation VoiceState) : List VoicePick :=
  match op.line? with
  | some (text, chatter, m) =>
    (e.execute text chatter m now).1.calls.filterMap (VoiceCommand.pick? m e.state)
  | none => []

/-- What is picked in a run, in order. -/
def Bot.picks (e : Bot) : List (Int × Operation VoiceState) → List VoicePick
  | [] => []
  | (now, op) :: ops => e.picksIn now op ++ picks (e.perform now op).2 ops

namespace VoiceState

/-- The voices of logins after these picks. -/
def picked (picks : List VoicePick) : List (String × String) :=
  picks.foldl (fun selected p => Assoc.put p.login p.voice selected) []

/-- All voices and logins in the state. -/
def names (s : VoiceState) : List String :=
  s.available.names ++ s.enabled.names ++ s.selected.map Prod.fst ++ s.selected.map Prod.snd

/-- Everything in the state is on offer, and the voices of logins are those picked. -/
structure Contained (s : VoiceState) (offer : NameSet) (picks : List VoicePick) : Prop where
  available_eq : s.available = offer
  enabled_subset (voice : String) (h : voice ∈ s.enabled.stored) : voice ∈ offer.stored
  selected_eq : s.selected = picked picks
  /-- Every voice was enabled when it was picked. -/
  picked_enabled (p : VoicePick) (h : p ∈ picks) : p.voice ∈ p.enabled.stored
  selected_subset (login voice : String) (h : (login, voice) ∈ s.selected) : voice ∈ offer.stored
  lower_eq (name : String) (h : name ∈ s.names) : Text.lower name = name

/-! ## The invariant -/

/-- What makes a state contained, and what every command keeps. -/
structure Kept (s : VoiceState) (offer : NameSet) (picks : List VoicePick) : Prop where
  available_eq : s.available = offer
  lower_offer (voice : String) (h : voice ∈ offer.stored) : Text.lower voice = voice
  enabled_subset (voice : String) (h : voice ∈ s.enabled.stored) : voice ∈ offer.stored
  selected_eq : s.selected = picked picks
  picks (p : VoicePick) (h : p ∈ picks) : p.voice ∈ p.enabled.stored ∧ p.voice ∈ offer.stored ∧
    Text.lower p.login = p.login

variable {s : VoiceState} {offer : NameSet} {picks : List VoicePick}

theorem picked_append_singleton (picks : List VoicePick) (p : VoicePick) :
    picked (picks ++ [p]) = Assoc.put p.login p.voice (picked picks) :=
  List.foldl_concat ..

theorem exists_of_mem_picked {entry : String × String} (h : entry ∈ picked picks) :
    ∃ p ∈ picks, entry = (p.login, p.voice) := by
  induction picks using List.reverseRecOn with
  | nil => cases h
  | append_singleton picks last ih =>
    rw [picked_append_singleton] at h
    rcases Assoc.mem_put h with rfl | h
    · exact ⟨last, List.mem_append_right _ (List.mem_singleton_self last), rfl⟩
    · obtain ⟨p, hp, hentry⟩ := ih h
      exact ⟨p, List.mem_append_left _ hp, hentry⟩

theorem Kept.contained (h : s.Kept offer picks) : s.Contained offer picks := by
  have hentry : ∀ entry ∈ s.selected, entry.2 ∈ offer.stored ∧ Text.lower entry.1 = entry.1 := by
    intro entry hentry
    rw [h.selected_eq] at hentry
    obtain ⟨p, hp, rfl⟩ := exists_of_mem_picked hentry
    exact (h.picks p hp).2
  refine ⟨h.available_eq, h.enabled_subset, h.selected_eq, fun p hp => (h.picks p hp).1,
    fun login voice hmem => (hentry _ hmem).1, fun name hname => ?_⟩
  simp only [names, List.mem_append, List.mem_map] at hname
  rcases hname with ((hname | hname) | ⟨entry, hmem, rfl⟩) | ⟨entry, hmem, rfl⟩
  · exact h.lower_offer name (h.available_eq ▸ hname)
  · exact h.lower_offer name (h.enabled_subset name hname)
  · exact (hentry entry hmem).2
  · exact h.lower_offer _ (hentry entry hmem).1

theorem lower_of_mem_ofList {voices : List String} {voice : String}
    (h : voice ∈ (NameSet.ofList voices).stored) : Text.lower voice = voice := by
  induction voices using List.reverseRecOn with
  | nil => exact absurd h StringSet.not_mem_empty
  | append_singleton voices last ih =>
    rw [NameSet.ofList, List.foldl_concat] at h
    rcases StringSet.mem_insert.1 h with rfl | h
    · exact Text.lower_lower last
    · exact ih h

theorem kept_ofVoices (voices : List String) : (ofVoices voices).Kept (.ofList voices) [] where
  available_eq := rfl
  lower_offer _ := lower_of_mem_ofList
  enabled_subset _ h := h
  selected_eq := rfl
  picks _ h := nomatch h

/-- A voice on offer may be enabled. -/
theorem Kept.enable (h : s.Kept offer picks) {voice : String} (hvoice : voice ∈ offer.stored) :
    Kept { s with enabled := s.enabled.insert voice } offer picks :=
  { h with
    enabled_subset := fun other hother => by
      rcases StringSet.mem_insert.1 hother with rfl | hother
      · rwa [h.lower_offer voice hvoice]
      · exact h.enabled_subset other hother }

theorem Kept.disable (h : s.Kept offer picks) (voice : String) :
    Kept { s with enabled := s.enabled.erase voice } offer picks :=
  { h with
    enabled_subset := fun other hother =>
      h.enabled_subset other (StringSet.mem_erase.1 hother).2 }

/-- An enabled voice may be picked. -/
theorem Kept.pick (h : s.Kept offer picks) {login voice : String} (hlogin : Text.lower login = login)
    (hvoice : voice ∈ s.enabled.stored) :
    Kept { s with selected := Assoc.put login voice s.selected } offer
      (picks ++ [⟨login, voice, s.enabled⟩]) :=
  { h with
    selected_eq := by
      show Assoc.put login voice s.selected = _
      rw [picked_append_singleton, h.selected_eq]
    picks := fun p hp => by
      rcases List.mem_append.1 hp with hp | hp
      · exact h.picks p hp
      · rw [List.mem_singleton.1 hp]
        exact ⟨hvoice, h.enabled_subset voice hvoice, hlogin⟩ }

end VoiceState

/-! ## One command -/

namespace VoiceCommand

theorem lower_of_target? {arguments : ArgumentMap} {login : String}
    (h : target? arguments = .ok login) : Text.lower login = login := by
  unfold target? at h
  split at h
  · obtain rfl := Except.ok.inj h
    exact Text.lower_lower _
  · cases h

/-- **What a command does with values that suit it** leaves the state contained. -/
theorem kept_perform {s s' : VoiceState} {offer : NameSet} {picks : List VoicePick}
    (h : s.Kept offer picks) {c : VoiceCommand} {m : Message} {arguments : ArgumentMap}
    (hsuited : c.Suited s.registries m arguments) {text : String}
    (hperform : c.perform arguments m s = .ok (s', text)) :
    s'.Kept offer (picks ++ (pick? m s ⟨c, arguments⟩).toList) := by
  cases c with
  | status =>
    obtain ⟨rfl, -⟩ := Prod.mk.inj (Except.ok.inj hperform)
    simpa [pick?] using h
  | enable =>
    obtain ⟨voice, hvoice, hmem⟩ := hsuited.exists_voice List.mem_cons_self
    have hoffer : voice ∈ offer.stored := h.available_eq ▸ hmem
    simp only [perform, hvoice, bind, Except.bind] at hperform
    split_ifs at hperform with henabled
    · obtain ⟨rfl, -⟩ := Prod.mk.inj (Except.ok.inj hperform)
      simpa [pick?] using h
    · obtain ⟨rfl, -⟩ := Prod.mk.inj (Except.ok.inj hperform)
      simpa [pick?] using h.enable hoffer
  | disable =>
    obtain ⟨voice, hvoice, -⟩ := hsuited.exists_voice List.mem_cons_self
    simp only [perform, hvoice, bind, Except.bind] at hperform
    obtain ⟨rfl, -⟩ := Prod.mk.inj (Except.ok.inj hperform)
    simpa [pick?] using h.disable voice
  | setState =>
    obtain ⟨on, hon⟩ := hsuited.given.exists_state
    simp only [perform, hon, bind, Except.bind] at hperform
    obtain ⟨rfl, -⟩ := Prod.mk.inj (Except.ok.inj hperform)
    simpa [pick?] using { h with }
  | current =>
    have hsame : s' = s := by
      simp only [perform] at hperform
      cases hown : s.voiceOf? m.username <;> rw [hown] at hperform <;>
        exact (Prod.mk.inj (Except.ok.inj hperform)).1.symm
    simpa [pick?, hsame] using h
  | select =>
    obtain ⟨voice, hvoice, hmem⟩ := hsuited.exists_voice List.mem_cons_self
    simp only [perform, hvoice, bind, Except.bind] at hperform
    obtain ⟨rfl, -⟩ := Prod.mk.inj (Except.ok.inj hperform)
    have hpick : pick? m s ⟨select, arguments⟩ = some ⟨Text.lower m.username, voice, s.enabled⟩ := by
      simp only [pick?, hvoice, Except.toOption, Option.map_some]
    rw [hpick]
    exact h.pick (Text.lower_lower _) hmem
  | selectFor =>
    obtain ⟨voice, hvoice, hmem⟩ := hsuited.exists_voice List.mem_cons_self
    obtain ⟨login, hlogin⟩ := hsuited.given.exists_target
    simp only [perform, hvoice, hlogin, bind, Except.bind] at hperform
    obtain ⟨rfl, -⟩ := Prod.mk.inj (Except.ok.inj hperform)
    have hpick : pick? m s ⟨selectFor, arguments⟩ = some ⟨login, voice, s.enabled⟩ := by
      simp only [pick?, hvoice, hlogin, Except.toOption, Option.bind_some, Option.map_some]
    rw [hpick]
    exact h.pick (lower_of_target? hlogin) hmem
  | skip =>
    obtain ⟨rfl, -⟩ := Prod.mk.inj (Except.ok.inj hperform)
    simpa [pick?] using { h with }
  | skipAll =>
    obtain ⟨rfl, -⟩ := Prod.mk.inj (Except.ok.inj hperform)
    simpa [pick?] using { h with }

end VoiceCommand

/-! ## Lines and other operations -/

namespace Bot

open VoiceCommand

section
variable {e : Bot} (h : e.HasVoices) {m : Message}
include h

/-- **The grammar has every argument looked up** under the name of the parameter that it was accepted
for. -/
theorem HasVoices.suited_of_mem_calls {line chatter : String} {now : Int}
    {call : Call VoiceCommand} (hcall : call ∈ (e.execute line chatter m now).1.calls) :
    call.command.Suited e.state.registries m call.arguments := by
  have hgrammar : e.grammar.Built := h.grammar ▸ built_grammar
  obtain ⟨arguments, hsupplied, last, slots', hlast, hway⟩ :=
    Engine.exists_supplied_way hgrammar hcall
  obtain ⟨harguments, ⟨id, slots, hid, hslots, hgiven⟩, -, haccepted⟩ := hsupplied
  rw [h.grammar] at hid hslots hlast hway
  obtain rfl := parametersTo_eq hslots hid
  have hnodup : (arguments.map fun a => a.slot.name).Nodup := by
    have hnames := (nodup_names_of_parametersTo hlast).sublist (hway.sublist.map Slot.name)
    rwa [List.map_map] at hnames
  intro slot hslot
  obtain ⟨a, ha, rfl⟩ := List.mem_map.1 (hgiven.subset hslot)
  obtain ⟨b, hb, hname, hvalue⟩ := Argument.exists_get?_byName ha
  obtain rfl : b = a := List.inj_on_of_nodup_map hnodup hb ha hname
  refine ⟨b.value, harguments ▸ hvalue, ?_⟩
  have haccepts := haccepted b hb
  rwa [Engine.accepts, h.behaviour] at haccepts

variable {offer : NameSet} {picks : List VoicePick} (hkept : e.state.Kept offer picks)
include hkept

/-- **A line leaves the state contained.** -/
theorem HasVoices.kept_execute (line chatter : String) (now : Int) :
    (e.execute line chatter m now).2.state.Kept offer
      (picks ++ (e.execute line chatter m now).1.calls.filterMap (VoiceCommand.pick? m e.state)) := by
  rcases e.silent_or_ran line chatter m now with ⟨hcalls, hstate⟩ | ⟨call, hran⟩
  · rw [hcalls, hstate, List.filterMap_nil, List.append_nil]
    exact hkept
  · have hcall : call ∈ (e.execute line chatter m now).1.calls := by
      rw [hran.calls]
      exact List.mem_singleton_self call
    have hsuited := h.suited_of_mem_calls hcall
    obtain ⟨s, text, hperform⟩ := hsuited.given.exists_perform m e.state
    have hstate : (e.execute line chatter m now).2.state = s := by
      rw [hran.state, h.behaviour]
      show (call.command.run call.arguments m e.outboxOpen e.state).state = s
      rw [run_of_perform hperform]
      cases e.outboxOpen <;> rfl
    rw [hran.calls, hstate]
    have hkept' := kept_perform hkept hsuited hperform
    cases hpick : VoiceCommand.pick? m e.state call <;>
      simpa [List.filterMap, hpick] using hkept'

end

/-- **Nothing but lines and changes from outside** has to do with the state. -/
theorem state_perform (e : Bot) (now : Int) {op : Operation VoiceState} (hline : op.line? = none)
    (hinside : ∀ change, op ≠ .changeState change) : (e.perform now op).2.state = e.state := by
  have hperformed := e.performed now op
  generalize (e.perform now op).2 = e' at hperformed ⊢
  cases hperformed with
  | line text chatter m now => cases hline
  | message m now => cases hline
  | changeState change => exact absurd rfl (hinside change)
  | _ => rfl

section
variable {e : Bot} (h : e.HasVoices) {offer : NameSet} {picks : List VoicePick}
  (hkept : e.state.Kept offer picks)
include h hkept

theorem HasVoices.kept_perform (now : Int) {op : Operation VoiceState}
    (hinside : ∀ change, op ≠ .changeState change) :
    (e.perform now op).2.state.Kept offer (picks ++ e.picksIn now op) := by
  cases hline : op.line? with
  | none =>
    rw [state_perform e now hline hinside, picksIn, hline, List.append_nil]
    exact hkept
  | some line =>
    cases op with
    | line text chatter m => exact h.kept_execute hkept text chatter now
    | message m => exact h.kept_execute hkept m.content m.userId now
    | _ => cases hline

end

theorem HasVoices.perform {e : Bot} (h : e.HasVoices) (now : Int) (op : Operation VoiceState) :
    HasVoices (e.perform now op).2 :=
  ⟨(congrArg Prod.fst (e.fixed_perform now op)).trans h.grammar,
    (congrArg Prod.snd (e.fixed_perform now op)).trans h.behaviour⟩

/-- **A run leaves the state contained**, if the outside leaves the state alone. -/
theorem HasVoices.kept_run {e : Bot} (h : e.HasVoices) {offer : NameSet} {picks : List VoicePick}
    (hkept : e.state.Kept offer picks) {ops : List (Int × Operation VoiceState)}
    (hinside : ∀ op ∈ ops, ∀ change, op.2 ≠ .changeState change) :
    (e.run ops).state.Kept offer (picks ++ e.picks ops) := by
  induction ops generalizing e picks with
  | nil => rwa [Bot.picks, List.append_nil]
  | cons op ops ih =>
    obtain ⟨now, op⟩ := op
    have hfirst := h.kept_perform hkept now (hinside _ List.mem_cons_self)
    have hrest := ih (h.perform now op) hfirst fun op hop => hinside op (List.mem_cons_of_mem _ hop)
    rwa [List.append_assoc] at hrest

/-- **Voices stay among those on offer**, whatever chatters write and however the settings, groups and
policies are changed. -/
theorem contained_of_ofDefinitions (settings : Settings) (groups : Groups) :
    ∃ bot, ofDefinitions [VoiceCommand.definition] settings groups = .ok bot ∧
      ∀ ops : List (Int × Operation VoiceState),
        (∀ op ∈ ops, ∀ change, op.2 ≠ .changeState change) →
          VoiceState.Contained (bot.run ops).state (.ofList settings.voices) (Bot.picks bot ops) := by
  refine ⟨ofVoices settings groups, ofDefinitions_eq settings groups, fun ops hinside => ?_⟩
  have h : HasVoices (ofVoices settings groups) := hasVoices_run settings groups []
  exact (h.kept_run (VoiceState.kept_ofVoices settings.voices) hinside).contained

end Bot

/-! ## A sample -/

namespace Sample

def offersTwo : Settings := { voices := ["Amy", "brian"] }

def fromAlice (content : String) : Message := .ofContent "twitch" "chan" "7" "Alice" content

def fromModerator (content : String) : Message :=
  { Message.ofContent "twitch" "chan" "1" "mia" content with isMod := true }

/-- A voice is picked, disabled, asked for in vain, and another one is given in its place. -/
def quarrel : List (Int × Operation VoiceState) :=
  [(0, .message (fromAlice "!voice AMY")), (1, .message (fromModerator "!tts del amy")),
    (2, .event (.singlePolicyUpdate ⟨"everyone", "voice", 1, 1000⟩)),
    (3, .message (fromAlice "!voice amy")), (4, .message (fromModerator "!voice Brian @Bob"))]

theorem contained_quarrel :
    (∀ op ∈ quarrel, ∀ change, op.2 ≠ .changeState change) ∧
      ∃ bot, Bot.ofDefinitions [VoiceCommand.definition] offersTwo {} = .ok bot ∧
        Bot.picks bot quarrel = [⟨"alice", "amy", .ofList ["amy", "brian"]⟩,
          ⟨"bob", "brian", .ofList ["brian"]⟩] ∧
        VoiceState.Contained (bot.run quarrel).state (.ofList offersTwo.voices)
          (Bot.picks bot quarrel) := by
  have hinside : ∀ op ∈ quarrel, ∀ change, op.2 ≠ .changeState change := by
    simp [quarrel]
  obtain ⟨bot, hbot, hcontained⟩ := Bot.contained_of_ofDefinitions offersTwo {}
  obtain rfl : Bot.ofVoices offersTwo {} = bot :=
    Except.ok.inj ((Bot.ofDefinitions_eq offersTwo {}).symm.trans hbot)
  have hpicks : Bot.picks (.ofVoices offersTwo {}) quarrel =
      [⟨"alice", "amy", .ofList ["amy", "brian"]⟩, ⟨"bob", "brian", .ofList ["brian"]⟩] := by
    decide +kernel
  exact ⟨hinside, _, hbot, hpicks, hcontained quarrel hinside⟩

end Sample

end ChatCommands
