import ChatCommands.Grammar.Builder
import ChatCommands.Proofs.Engine.History
import ChatCommands.Proofs.Permission.Greatest
import ChatCommands.Scripted

/-!
# Who may use a command

The second stage of the engine decides from the permission tree, in passes that stop early. This file
says what it decides from the history alone.

* `RuleMap.IsVerdict`: the greatest of the nearest rules at some suffixes below some groups.
* `RuleMap.Decides`: the verdict on a selected command, by its path or else by the permission suffixes
  annotated in the grammar.

**Theorem (`execute_eq_forbidden_iff`).** Whatever was done to an engine, a line of a chatter who is
not an owner and for which a command is selected is forbidden exactly when the rules that were left
deny it to the groups that were left, or say nothing and the command's default refuses.
-/

namespace ChatCommands

/-! ## The documented decision -/

namespace RuleMap

/-- `v` is the greatest verdict that the rules give on one of the suffixes below one of the groups. -/
def IsVerdict (rules : RuleMap) (groups suffixes : Set String) (v : Verdict) : Prop :=
  IsGreatest {w | ∃ suffix ∈ suffixes, ∃ group ∈ groups,
    rules.nearest (Dotted.segments (Dotted.below group suffix)) = w} v

/-- `v` is the verdict on a command selected at `path`. Where the rules are silent there, and the
command may be granted by annotated suffixes (`custom`), those decide if there are any. -/
def Decides (rules : RuleMap) (groups : Set String) (custom : Bool) (path : String)
    (suffixes : NameSet) (v : Verdict) : Prop :=
  ∃ onPath, rules.IsVerdict groups {path} onPath ∧
    if onPath = .unset ∧ custom = true ∧ suffixes.names ≠ [] then
      rules.IsVerdict groups {suffix | suffix ∈ suffixes.names} v
    else v = onPath

variable {rules : RuleMap} {groups suffixes : Set String} {v v' : Verdict}

theorem IsVerdict.unique (h : rules.IsVerdict groups suffixes v)
    (h' : rules.IsVerdict groups suffixes v') : v = v' :=
  IsGreatest.unique h h'

/-- The rules leave no choice. -/
theorem Decides.unique {custom : Bool} {path : String} {names : NameSet}
    (h : rules.Decides groups custom path names v) (h' : rules.Decides groups custom path names v') :
    v = v' := by
  obtain ⟨onPath, hpath, h⟩ := h
  obtain ⟨onPath', hpath', h'⟩ := h'
  obtain rfl := hpath.unique hpath'
  split_ifs at h h'
  · exact h.unique h'
  · exact h.trans h'.symm

end RuleMap

namespace PermissionTree

variable {t : PermissionTree} {groups : StringSet} {g : String}

theorem isVerdict_checkGroups (h : g ∈ groups) (path : String) :
    t.rules.IsVerdict {group | group ∈ groups} {path} (t.checkGroups groups path) := by
  have := isGreatest_checkGroups (t := t) h path
  simp only [check_eq_nearest] at this
  simp only [RuleMap.IsVerdict, Set.mem_singleton_iff, exists_eq_left]
  exact this

theorem isVerdict_checkGroupsAny {s : String} {suffixes : List String} (h : g ∈ groups)
    (hs : s ∈ suffixes) :
    t.rules.IsVerdict {group | group ∈ groups} {suffix | suffix ∈ suffixes}
      (t.checkGroupsAny groups suffixes) := by
  have := isGreatest_checkGroupsAny (t := t) h hs
  simp only [check_eq_nearest] at this
  exact this

end PermissionTree

/-! ## What the engine decides -/

namespace Engine

variable {C σ : Type}

/-- The engine's verdict is the documented one. -/
theorem decides_verdict (e : Engine C σ) {groups : StringSet} {g : String} (h : g ∈ groups)
    (command : C) (s : Selection C) :
    e.policy.permissions.rules.Decides {group | group ∈ groups}
      (e.behaviour.acceptsCustomPermission command) s.path s.permissions
      (e.verdict groups command s) := by
  refine ⟨_, PermissionTree.isVerdict_checkGroups h s.path, ?_⟩
  have hempty : s.permissions.isEmpty = false ↔ s.permissions.names ≠ [] := by
    simp [NameSet.isEmpty, StringSet.isEmpty, NameSet.names]
  unfold verdict
  cases hpath : e.policy.permissions.checkGroups groups s.path with
  | deny => simp
  | allow => simp
  | unset =>
    by_cases hcustom : e.behaviour.acceptsCustomPermission command = true ∧
        s.permissions.names ≠ []
    · rw [if_pos ⟨rfl, hcustom⟩]
      obtain ⟨suffix, hsuffix⟩ := List.exists_mem_of_ne_nil _ hcustom.2
      simp only [hcustom.1, hempty.2 hcustom.2, Bool.not_false, Bool.and_self, if_true]
      exact PermissionTree.isVerdict_checkGroupsAny h hsuffix
    · rw [if_neg fun hc => hcustom hc.2]
      simp only [Bool.and_eq_true, Bool.not_eq_true', hempty]
      exact if_neg hcustom

theorem permits_eq_false_iff (e : Engine C σ) (groups : StringSet) (m : Message) (command : C)
    (s : Selection C) :
    e.permits groups m command s = false ↔
      e.verdict groups command s = .deny ∨
        (e.verdict groups command s = .unset ∧ e.behaviour.allowedByDefault command m = false) := by
  unfold permits
  cases e.verdict groups command s <;> simp

/-- The stages after authorization have outcomes of their own. -/
theorem dispatch_eq_forbidden_iff (e : Engine C σ) {chatter : String} (m : Message) (now : Int)
    (tokens : List String) (s : Selection C) (command : C) :
    (e.dispatch chatter m now tokens s command).1.outcome = .forbidden ↔
      e.isOwner chatter = false ∧ e.permits (e.groups.groupsOf chatter) m command s = false := by
  simp only [dispatch]
  split
  · rename_i h
    simpa using h
  · rename_i h
    have hnot : ¬ (e.isOwner chatter = false ∧
        e.permits (e.groups.groupsOf chatter) m command s = false) := by simpa using h
    refine iff_of_false ?_ hnot
    split
    · intro h
      cases h
    · split
      · intro h
        cases h
      · simp only [invoke]
        split <;> intro h <;> cases h

theorem execute_eq_dispatch (e : Engine C σ) {line : String} {tokens : List String}
    (htokens : e.tokensOf? line = some tokens) (hne : tokens ≠ []) {m : Message} {command : C}
    (hcommand : (e.select m tokens).command = some command) (chatter : String) (now : Int) :
    e.execute line chatter m now =
      e.dispatch chatter m now tokens (e.select m tokens) command := by
  obtain ⟨token, tokens, rfl⟩ := List.exists_cons_of_ne_nil hne
  simp only [execute, htokens, hcommand]

/-- **Authorization is the documented rule.** `v` is the verdict of the rules that the operations
`ops` left, for the groups that they left the chatter in, on the path and the suffixes of the
selection. -/
theorem execute_eq_forbidden_iff (grammar : Grammar C) (behaviour : Behaviour C σ) (state : σ)
    (ops : List (Int × Operation σ)) {e : Engine C σ}
    (he : (start grammar behaviour state).run ops = e) {line chatter : String} {m : Message}
    {tokens : List String} {command : C} (htokens : e.tokensOf? line = some tokens)
    (hne : tokens ≠ []) (hcommand : (e.select m tokens).command = some command)
    (howner : e.isOwner chatter = false) (now : Int) :
    ∃ v, (rulesAfter ops).Decides (groupsAfter ops chatter)
        (e.behaviour.acceptsCustomPermission command) (e.select m tokens).path
        (e.select m tokens).permissions v ∧
      ((e.execute line chatter m now).1.outcome = .forbidden ↔
        v = .deny ∨ (v = .unset ∧ e.behaviour.allowedByDefault command m = false)) := by
  have hrules : e.policy.permissions.rules = rulesAfter ops := by
    rw [← he, rules_run]
  have hgroups : {group | group ∈ e.groups.groupsOf chatter} = groupsAfter ops chatter := by
    ext group
    rw [Set.mem_ofPred_eq, ← he, mem_groupsOf_run]
  have heveryone : everyone ∈ e.groups.groupsOf chatter := Groups.mem_groupsOf.2 (.inl rfl)
  refine ⟨e.verdict (e.groups.groupsOf chatter) command (e.select m tokens), ?_, ?_⟩
  · rw [← hrules, ← hgroups]
    exact decides_verdict e heveryone command _
  · rw [execute_eq_dispatch e htokens hne hcommand, dispatch_eq_forbidden_iff,
      permits_eq_false_iff]
    exact and_iff_right howner

end Engine

/-! ## A sample -/

namespace Sample

open Engine

/-- A command that a suffix may grant. -/
def tts : ScriptedCommand := { id := "tts", custom := true }

/-- The command `tts` with a keyword below it that has no command of its own. -/
def builder : Builder ScriptedCommand :=
  (BuildStep.runAll [.start "tts", .permission "tts.use", .command tts, .keyword "add"] {}).1

def scripted : Behaviour ScriptedCommand Unit := ScriptedCommand.behaviour fun _ _ => {}

def message : Message := Message.ofContent "twitch" "chan" "7" "alice" "!tts now"

/-- Everyone is denied the command and moderators are not. A chatter becomes a moderator and, in the
end, is none any more. -/
def joinsAndLeaves : List (Int × Operation Unit) :=
  [(0, .setRule "everyone.tts" .deny), (1, .addMember "Mods" "7"), (2, .setRule "mods.tts" .allow),
    (3, .removeMember "mods" "7")]

/-- The engine after these operations. -/
def left : Engine ScriptedCommand Unit :=
  (start builder.grammar scripted ()).run joinsAndLeaves

/-- The decision for a chatter who was a moderator. -/
theorem execute_eq_forbidden_iff_after_leaving :
    left.tokensOf? "!tts now" = some ["tts", "now"] ∧
      (left.select message ["tts", "now"]).command = some tts ∧ left.isOwner "7" = false ∧
      ∃ v, (rulesAfter joinsAndLeaves).Decides (groupsAfter joinsAndLeaves "7")
          (left.behaviour.acceptsCustomPermission tts) (left.select message ["tts", "now"]).path
          (left.select message ["tts", "now"]).permissions v ∧
        ((left.execute "!tts now" "7" message 4).1.outcome = .forbidden ↔
          v = .deny ∨ (v = .unset ∧ left.behaviour.allowedByDefault tts message = false)) := by
  have htokens : left.tokensOf? "!tts now" = some ["tts", "now"] := by decide +kernel
  have hcommand : (left.select message ["tts", "now"]).command = some tts := by decide +kernel
  have howner : left.isOwner "7" = false := by decide +kernel
  refine ⟨htokens, hcommand, howner, ?_⟩
  exact execute_eq_forbidden_iff builder.grammar scripted () joinsAndLeaves rfl htokens
    (List.cons_ne_nil _ _) hcommand howner 4

example : (left.execute "!tts now" "7" message 4).1.outcome = .forbidden := by decide +kernel

end Sample

end ChatCommands
