import ChatCommands.Proofs.Engine.Authorization
import ChatCommands.Proofs.Policy.Region

/-!
# Policies of other groups

Rules and limits are meant for the members of one group. What keeps those of other groups from a chatter
is only how they are addressed: a group's name and a path, joined with a dot and cut apart again.

* `Engine.reports`: what becomes of a chatter's lines between policy events.
* `Visit.own`: the same visits without the entries of groups that the chatter is not in.

**Theorem (`reports_own`).** Leaving those entries out makes no difference, as long as the names of these
groups and of the chatter's own do not lead on to each other (`GroupTable.Separates`). Names without
dots that are not empty never do (`reports_own_of_isSegment`).

The condition is needed: the entries of a group called `everyone.tts` are those of everyone's command
`tts` (`Sample.reports_dotted`).
-/

namespace ChatCommands

variable {C σ : Type}

/-! ## Engines that differ in their policies -/

namespace Engine

/-- The engine with another policy store. -/
def withPolicy (e : Engine C σ) (policy : PolicyStore) : Engine C σ := { e with policy }

/-- The engines differ in their policy stores only, and these agree on the region of the groups. -/
def AlikeFor (groups : StringSet) (e e' : Engine C σ) : Prop :=
  ∃ policy, e' = e.withPolicy policy ∧ e.policy.AgreeOn (region groups) policy

section
variable {e e' : Engine C σ} {groups : StringSet}

theorem AlikeFor.refl (groups : StringSet) (e : Engine C σ) : e.AlikeFor groups e :=
  ⟨e.policy, rfl, .refl _ _⟩

theorem AlikeFor.groups_eq (h : e.AlikeFor groups e') : e'.groups = e.groups := by
  obtain ⟨policy, rfl, -⟩ := h
  rfl

theorem AlikeFor.permits_eq (h : e.AlikeFor groups e') (m : Message) (command : C)
    (s : Selection C) : e'.permits groups m command s = e.permits groups m command s := by
  obtain ⟨policy, rfl, hagree⟩ := h
  have hrules : ∀ path, (e.withPolicy policy).policy.permissions.checkGroups groups path =
      e.policy.permissions.checkGroups groups path :=
    fun path => (PermissionTree.checkGroups_eq_of_agreeOn hagree.rules path).symm
  have hany : ∀ suffixes, (e.withPolicy policy).policy.permissions.checkGroupsAny groups suffixes =
      e.policy.permissions.checkGroupsAny groups suffixes :=
    fun suffixes => (PermissionTree.checkGroupsAny_eq_of_agreeOn hagree.rules suffixes).symm
  have hverdict : (e.withPolicy policy).verdict groups command s = e.verdict groups command s := by
    rw [verdict, verdict, hrules, hany]
    rfl
  unfold permits
  rw [hverdict]
  rfl

/-- **A charge** ends alike. -/
theorem AlikeFor.charge (h : e.AlikeFor groups e') (chatter path : String) (now : Int) :
    (e'.charge chatter groups path now).1 = (e.charge chatter groups path now).1 ∧
      (e.charge chatter groups path now).2.AlikeFor groups
        (e'.charge chatter groups path now).2 := by
  obtain ⟨policy, rfl, hagree⟩ := h
  obtain ⟨hused, hafter⟩ := UsageTree.agreeOn_tryUseGroups hagree.accounts chatter path now
  unfold Engine.charge
  by_cases hbound : (e.enforceLimits && !e.isOwner chatter) = true
  · have hbound' : ((e.withPolicy policy).enforceLimits &&
        !(e.withPolicy policy).isOwner chatter) = true := hbound
    rw [if_pos hbound, if_pos hbound']
    exact ⟨hused.symm, _, rfl, hagree.groupNames, hagree.rules, hafter⟩
  · have hbound' : ¬ ((e.withPolicy policy).enforceLimits &&
        !(e.withPolicy policy).isOwner chatter) = true := hbound
    rw [if_neg hbound, if_neg hbound']
    exact ⟨rfl, policy, rfl, hagree⟩

theorem AlikeFor.invoke (h : e.AlikeFor groups e') (m : Message) (call : Call C) :
    (e'.invoke m call).1 = (e.invoke m call).1 ∧
      (e.invoke m call).2.AlikeFor groups (e'.invoke m call).2 := by
  obtain ⟨policy, rfl, hagree⟩ := h
  exact ⟨rfl, policy, rfl, hagree⟩

theorem AlikeFor.dispatch {chatter : String} (h : e.AlikeFor (e.groups.groupsOf chatter) e')
    (m : Message) (now : Int) (tokens : List String) (s : Selection C) (command : C) :
    (e'.dispatch chatter m now tokens s command).1 = (e.dispatch chatter m now tokens s command).1 ∧
      (e.dispatch chatter m now tokens s command).2.AlikeFor (e.groups.groupsOf chatter)
        (e'.dispatch chatter m now tokens s command).2 := by
  have howner : e'.isOwner chatter = e.isOwner chatter := by
    obtain ⟨policy, rfl, -⟩ := h
    rfl
  have harguments : e'.arguments? m tokens s.path = e.arguments? m tokens s.path := by
    obtain ⟨policy, rfl, -⟩ := h
    rfl
  simp only [Engine.dispatch]
  rw [h.groups_eq, howner, h.permits_eq, harguments]
  split_ifs
  · exact ⟨rfl, h⟩
  · cases e.arguments? m tokens s.path with
    | none => exact ⟨rfl, h⟩
    | some arguments =>
      obtain ⟨hused, hcharged⟩ := h.charge chatter s.path now
      generalize e.charge chatter (e.groups.groupsOf chatter) s.path now = result at hused hcharged
      generalize e'.charge chatter (e.groups.groupsOf chatter) s.path now = result' at hused hcharged
      obtain ⟨used, charged⟩ := result
      obtain ⟨used', charged'⟩ := result'
      obtain rfl : used' = used := hused
      cases used' with
      | true => exact hcharged.invoke m ⟨command, Argument.byName arguments⟩
      | false => exact ⟨rfl, hcharged⟩

/-- **A line of a member** is reported alike by engines that are alike for the groups. -/
theorem AlikeFor.execute {chatter : String} (h : e.AlikeFor (e.groups.groupsOf chatter) e')
    (line : String) (m : Message) (now : Int) :
    (e'.execute line chatter m now).1 = (e.execute line chatter m now).1 ∧
      (e.execute line chatter m now).2.AlikeFor (e.groups.groupsOf chatter)
        (e'.execute line chatter m now).2 := by
  have htokens : e'.tokensOf? line = e.tokensOf? line := by
    obtain ⟨policy, rfl, -⟩ := h
    rfl
  have hselect : ∀ tokens, e'.select m tokens = e.select m tokens := by
    intro tokens
    obtain ⟨policy, rfl, -⟩ := h
    rfl
  unfold Engine.execute
  rw [htokens]
  split
  · exact ⟨rfl, h⟩
  · exact ⟨rfl, h⟩
  · next tokens _ _ =>
    dsimp only
    rw [hselect]
    cases (e.select m tokens).command with
    | none => exact ⟨rfl, h⟩
    | some command => exact h.dispatch m now tokens _ command

end

end Engine

/-! ## Visits -/

/-- Something that happens while a chatter is around: a line of the chatter, or a policy event. -/
inductive Visit where
  | line (text : String) (message : Message)
  | event (event : PolicyEvent)

namespace Visit

/-- The group table that a snapshot brings. -/
def table? : Visit → Option GroupTable
  | event (.fullSnapshot s) => some s.groupTable
  | _ => none

/-- The visits without the policy entries of all other groups, where `table` is the group table
before. -/
def own (groups : StringSet) (table : GroupTable) : List (Int × Visit) → List (Int × Visit)
  | [] => []
  | (now, line text m) :: visits => (now, line text m) :: own groups table visits
  | (now, event (.fullSnapshot s)) :: visits =>
    (now, event (.fullSnapshot (s.own groups))) :: own groups s.groupTable visits
  | (now, event (.singlePolicyUpdate entry)) :: visits =>
    if table.isForeign groups entry.groupId then own groups table visits
    else (now, event (.singlePolicyUpdate entry)) :: own groups table visits

end Visit

namespace Engine

/-- What becomes of the lines of a chatter. -/
def reports (e : Engine C σ) (chatter : String) : List (Int × Visit) → List (Report C)
  | [] => []
  | (now, .line text m) :: visits =>
    (e.execute text chatter m now).1 :: (e.execute text chatter m now).2.reports chatter visits
  | (_, .event event) :: visits => (e.withPolicy (e.policy.apply event)).reports chatter visits

section
variable {e e' : Engine C σ} {groups : StringSet}

/-- **A snapshot**, for one engine with the entries of other groups and for one without. -/
theorem AlikeFor.snapshot (h : e.AlikeFor groups e') {s : PolicySnapshot}
    (hseparates : s.groupTable.Separates groups) :
    (e.withPolicy (e.policy.apply (.fullSnapshot s))).AlikeFor groups
      (e'.withPolicy (e'.policy.apply (.fullSnapshot (s.own groups)))) := by
  obtain ⟨policy, rfl, -⟩ := h
  exact ⟨_, rfl, PolicySnapshot.agreeOn_own hseparates⟩

/-- **An update** for both engines. -/
theorem AlikeFor.update (h : e.AlikeFor groups e') (entry : UsageEntry) :
    (e.withPolicy (e.policy.apply (.singlePolicyUpdate entry))).AlikeFor groups
      (e'.withPolicy (e'.policy.apply (.singlePolicyUpdate entry))) := by
  obtain ⟨policy, rfl, hagree⟩ := h
  exact ⟨_, rfl, PolicyStore.agreeOn_update hagree entry⟩

/-- **An update for another group**, for the first engine only. -/
theorem AlikeFor.update_left (h : e.AlikeFor groups e')
    (hseparates : e.policy.groupNames.Separates groups) {entry : UsageEntry}
    (hforeign : e.policy.groupNames.isForeign groups entry.groupId = true) :
    (e.withPolicy (e.policy.apply (.singlePolicyUpdate entry))).AlikeFor groups e' := by
  obtain ⟨policy, rfl, hagree⟩ := h
  exact ⟨policy, rfl, PolicyStore.agreeOn_update_left hagree hseparates hforeign⟩

end

/-- Engines that are alike for the chatter's groups give the same reports, without the entries of other
groups as with them. -/
theorem AlikeFor.reports_eq {e e' : Engine C σ} {chatter : String} {groups : StringSet}
    (h : e.AlikeFor groups e') (hgroups : e.groups.groupsOf chatter = groups)
    {visits : List (Int × Visit)} (hseparates : e.policy.groupNames.Separates groups)
    (hvisits : ∀ visit ∈ visits, ∀ table ∈ visit.2.table?, table.Separates groups) :
    e'.reports chatter (Visit.own groups e.policy.groupNames visits) = e.reports chatter visits := by
  induction visits generalizing e e' with
  | nil => rfl
  | cons visit visits ih =>
    obtain ⟨now, visit⟩ := visit
    have hrest : ∀ visit ∈ visits, ∀ table ∈ visit.2.table?, table.Separates groups :=
      fun visit hvisit => hvisits visit (List.mem_cons_of_mem _ hvisit)
    cases visit with
    | line text m =>
      subst hgroups
      obtain ⟨hreport, hafter⟩ := h.execute text m now
      have hsetup := execute_sameSetup e text chatter m now
      have htail := ih hafter (by rw [hsetup.groups]) (by rwa [hsetup.groupNames]) hrest
      rw [hsetup.groupNames] at htail
      rw [Visit.own, reports, reports, hreport, htail]
    | event event =>
      cases event with
      | fullSnapshot s =>
        have htable : s.groupTable.Separates groups :=
          hvisits (now, .event (.fullSnapshot s)) List.mem_cons_self s.groupTable rfl
        exact ih (h.snapshot htable) hgroups htable hrest
      | singlePolicyUpdate entry =>
        have hnames := e.policy.groupNames_apply_update entry
        have htable : (e.policy.apply (.singlePolicyUpdate entry)).groupNames.Separates groups := by
          rwa [hnames]
        rw [Visit.own, reports, ← hnames]
        split_ifs with hforeign
        · rw [hnames] at hforeign
          exact ih (h.update_left hseparates hforeign) hgroups htable hrest
        · exact ih (h.update entry) hgroups htable hrest

/-- **Policies of other groups do not concern a chatter**, if the names of groups do not lead on to each
other. -/
theorem reports_own (e : Engine C σ) (chatter : String) (visits : List (Int × Visit))
    (hseparates : e.policy.groupNames.Separates (e.groups.groupsOf chatter))
    (hvisits : ∀ visit ∈ visits, ∀ table ∈ visit.2.table?,
      table.Separates (e.groups.groupsOf chatter)) :
    e.reports chatter (Visit.own (e.groups.groupsOf chatter) e.policy.groupNames visits) =
      e.reports chatter visits :=
  AlikeFor.reports_eq (.refl _ e) rfl hseparates hvisits

/-- **So it is where no name has a dot**, in the table and in those that snapshots bring. -/
theorem reports_own_of_isSegment (e : Engine C σ) (chatter : String) (visits : List (Int × Visit))
    (hgroups : ∀ group ∈ e.groups.groupsOf chatter, Dotted.IsSegment group)
    (htable : ∀ row ∈ e.policy.groupNames, Dotted.IsSegment row.2)
    (hvisits : ∀ visit ∈ visits, ∀ table ∈ visit.2.table?, ∀ row ∈ table,
      Dotted.IsSegment row.2) :
    e.reports chatter (Visit.own (e.groups.groupsOf chatter) e.policy.groupNames visits) =
      e.reports chatter visits := by
  have hseparates : ∀ table : GroupTable, (∀ row ∈ table, Dotted.IsSegment row.2) →
      table.Separates (e.groups.groupsOf chatter) :=
    fun _ hrows => GroupTable.separates_of_isSegment hrows hgroups
  exact AlikeFor.reports_eq (.refl _ e) rfl (hseparates _ htable)
    fun visit hvisit table hbrought => hseparates table (hvisits visit hvisit table hbrought)

end Engine

/-! ## Samples -/

namespace Sample

open Engine

/-- The command `tts add`. -/
def adding : Engine ScriptedCommand Unit :=
  start (BuildStep.runAll [.start "tts", .keyword "add", .command tts] {}).1.grammar scripted ()

/-- A snapshot denies the command to the group of this name, which has it at this path, and a chatter
runs the command. -/
def deniedTo (name path : String) : List (Int × Visit) :=
  [(0, .event (.fullSnapshot {
      groups := [⟨"1", name⟩], permissions := [⟨"1", path, .deny⟩] })),
    (1, .line "!tts add" message)]

/-- What moderators are denied does not concern a chatter who is none. -/
theorem reports_own_of_denied_mods :
    adding.policy.groupNames.Separates (adding.groups.groupsOf "7") ∧
      (∀ visit ∈ deniedTo "mods" "tts", ∀ table ∈ visit.2.table?,
        table.Separates (adding.groups.groupsOf "7")) ∧
      adding.reports "7" (Visit.own (adding.groups.groupsOf "7") adding.policy.groupNames
        (deniedTo "mods" "tts")) = adding.reports "7" (deniedTo "mods" "tts") := by
  have hseparates : adding.policy.groupNames.Separates (adding.groups.groupsOf "7") := by
    decide +kernel
  have hvisits : ∀ visit ∈ deniedTo "mods" "tts", ∀ table ∈ visit.2.table?,
      table.Separates (adding.groups.groupsOf "7") := by
    decide +kernel
  exact ⟨hseparates, hvisits, reports_own adding "7" (deniedTo "mods" "tts") hseparates hvisits⟩

/-- **What a group with a dot in its name is denied may concern everyone**, without anyone in it. -/
theorem reports_dotted :
    (adding.reports "7" (deniedTo "everyone.tts" "add")).map Report.outcome = [.forbidden] ∧
      (adding.reports "7" (Visit.own (adding.groups.groupsOf "7") adding.policy.groupNames
        (deniedTo "everyone.tts" "add"))).map Report.outcome = [.success] := by
  decide +kernel

end Sample

end ChatCommands
