import ChatCommands.Proofs.Permission.Greatest

/-!
# The verdicts of groups are joined

A chatter is in several groups, and a command may go by several suffixes. The groups are gone through for
one suffix after the other, and the search ends early where one of them is allowed. Neither the order in
which groups and suffixes come up nor how often they do makes a difference.

* `checkInOrder`, `checkAnyInOrder`: the search with the groups in a given order.
* `JoinsGroups`, `JoinsPairs`: the laws of joining verdicts, for one suffix and for several.

**Theorem (`joinsVerdicts`).** The verdict for groups and suffixes is the greatest one of all pairs. So it is
the same in any order, it can be put together from parts of the groups or of the suffixes, and more groups
or suffixes only permit more.
-/

namespace ChatCommands

namespace Verdict

/-- The combined verdict is the least one that no verdict exceeds. -/
theorem combine_le_iff {vs : List Verdict} {v : Verdict} :
    combine vs ≤ v ↔ ∀ w ∈ vs, w ≤ v := by
  obtain ⟨hmem, hub⟩ := isGreatest_settle (by decide : unset ≠ allow) vs
  constructor
  · intro hle w hw
    exact (hub (List.mem_cons_of_mem _ hw)).trans hle
  · intro hall
    rcases List.mem_cons.1 hmem with hunset | hmem
    · exact hunset.trans_le (unset_le v)
    · exact hall _ hmem

theorem foldr_max_le_iff {vs : List Verdict} {v : Verdict} :
    vs.foldr max unset ≤ v ↔ ∀ w ∈ vs, w ≤ v := by
  induction vs with
  | nil => simp [unset_le]
  | cons w vs ih => simp [ih]

/-- **Combining verdicts is taking their maximum.** -/
theorem combine_eq_foldr_max (vs : List Verdict) : combine vs = vs.foldr max unset :=
  eq_of_forall_ge_iff fun _ => combine_le_iff.trans foldr_max_le_iff.symm

end Verdict

namespace PermissionTree

/-! ## The laws -/

/-- The verdict for the suffix when the groups are gone through in this order. -/
def checkInOrder (t : PermissionTree) (order : List String) (suffix : String) : Verdict :=
  Verdict.combine (order.map fun group => t.check (Dotted.below group suffix))

/-- The verdict for the suffixes when the groups are gone through in this order for each of them. -/
def checkAnyInOrder (t : PermissionTree) (order : String → List String) (suffixes : List String) :
    Verdict :=
  Verdict.combine (suffixes.map fun suffix => t.checkInOrder (order suffix) suffix)

/-- The verdicts on all pairs of a group and a suffix. -/
def verdicts (t : PermissionTree) (groups : StringSet) (suffixes : List String) : Set Verdict :=
  {v | ∃ suffix ∈ suffixes, ∃ group ∈ groups, t.check (Dotted.below group suffix) = v}

/-- The verdict for groups and one suffix joins those of the groups. -/
structure JoinsGroups (t : PermissionTree) (suffix : String) : Prop where
  isGreatest (groups : StringSet) : (∃ group, group ∈ groups) →
    IsGreatest {v | ∃ group ∈ groups, t.check (Dotted.below group suffix) = v}
      (t.checkGroups groups suffix)
  eq_unset (groups : StringSet) : (¬ ∃ group, group ∈ groups) → t.checkGroups groups suffix = .unset
  /-- The groups may come in any order and more than once. -/
  inOrder (groups : StringSet) (order : List String) : (∀ group, group ∈ order ↔ group ∈ groups) →
    t.checkInOrder order suffix = t.checkGroups groups suffix
  /-- Parts of the groups may be asked separately. -/
  parts (groups : StringSet) (parts : List StringSet) :
    (∀ group, group ∈ groups ↔ ∃ part ∈ parts, group ∈ part) →
      t.checkGroups groups suffix =
        (parts.map fun part => t.checkGroups part suffix).foldr max .unset
  mono (groups groups' : StringSet) : (∀ group ∈ groups, group ∈ groups') →
    t.checkGroups groups suffix ≤ t.checkGroups groups' suffix

/-- The verdict for groups and suffixes joins those of all pairs. -/
structure JoinsPairs (t : PermissionTree) : Prop where
  isGreatest (groups : StringSet) (suffixes : List String) : (t.verdicts groups suffixes).Nonempty →
    IsGreatest (t.verdicts groups suffixes) (t.checkGroupsAny groups suffixes)
  eq_unset (groups : StringSet) (suffixes : List String) : t.verdicts groups suffixes = ∅ →
    t.checkGroupsAny groups suffixes = .unset
  /-- The groups may come in any order, and in another one for each suffix, and the suffixes in any order,
  all of them more than once. -/
  inOrder (groups : StringSet) (suffixes suffixes' : List String) (order : String → List String) :
    (∀ suffix group, group ∈ order suffix ↔ group ∈ groups) →
      (∀ suffix, suffix ∈ suffixes' ↔ suffix ∈ suffixes) →
        t.checkAnyInOrder order suffixes' = t.checkGroupsAny groups suffixes
  /-- Parts of the groups may be asked separately. -/
  groupParts (groups : StringSet) (suffixes : List String) (parts : List StringSet) :
    (∀ group, group ∈ groups ↔ ∃ part ∈ parts, group ∈ part) →
      t.checkGroupsAny groups suffixes =
        (parts.map fun part => t.checkGroupsAny part suffixes).foldr max .unset
  /-- Parts of the suffixes may be asked for separately. -/
  suffixParts (groups : StringSet) (suffixes : List String) (parts : List (List String)) :
    (∀ suffix, suffix ∈ suffixes ↔ ∃ part ∈ parts, suffix ∈ part) →
      t.checkGroupsAny groups suffixes =
        (parts.map fun part => t.checkGroupsAny groups part).foldr max .unset
  mono (groups groups' : StringSet) (suffixes suffixes' : List String) :
    (∀ group ∈ groups, group ∈ groups') → (∀ suffix ∈ suffixes, suffix ∈ suffixes') →
      t.checkGroupsAny groups suffixes ≤ t.checkGroupsAny groups' suffixes'

/-! ## What bounds a verdict -/

section
variable {t : PermissionTree} {v : Verdict}

theorem checkInOrder_le_iff {order : List String} {suffix : String} :
    t.checkInOrder order suffix ≤ v ↔ ∀ group ∈ order, t.check (Dotted.below group suffix) ≤ v := by
  simp [checkInOrder, Verdict.combine_le_iff]

theorem checkAnyInOrder_le_iff {order : String → List String} {suffixes : List String} :
    t.checkAnyInOrder order suffixes ≤ v ↔
      ∀ suffix ∈ suffixes, ∀ group ∈ order suffix, t.check (Dotted.below group suffix) ≤ v := by
  simp [checkAnyInOrder, Verdict.combine_le_iff, checkInOrder_le_iff]

/-- The groups of a set are gone through as they are listed. -/
theorem checkGroupsAny_eq (t : PermissionTree) (groups : StringSet) (suffixes : List String) :
    t.checkGroupsAny groups suffixes = t.checkAnyInOrder (fun _ => groups.members) suffixes := rfl

/-- **A verdict bounds the joined one exactly if it bounds those of all pairs.** -/
theorem checkGroupsAny_le_iff {groups : StringSet} {suffixes : List String} :
    t.checkGroupsAny groups suffixes ≤ v ↔
      ∀ suffix ∈ suffixes, ∀ group ∈ groups, t.check (Dotted.below group suffix) ≤ v := by
  rw [checkGroupsAny_eq]
  exact checkAnyInOrder_le_iff

end

/-! ## Joins -/

/-- One suffix is a list of suffixes. -/
theorem checkGroups_eq (t : PermissionTree) (groups : StringSet) (suffix : String) :
    t.checkGroups groups suffix = t.checkGroupsAny groups [suffix] := by
  simp [checkGroupsAny, Verdict.combine_eq_foldr_max, Verdict.unset_le]

theorem joinsPairs (t : PermissionTree) : t.JoinsPairs where
  isGreatest groups suffixes := by
    rintro ⟨v, suffix, hsuffix, group, hgroup, -⟩
    exact isGreatest_checkGroupsAny hgroup hsuffix
  eq_unset groups suffixes hnone := by
    refine le_antisymm (checkGroupsAny_le_iff.2 fun suffix hsuffix group hgroup => ?_)
      (Verdict.unset_le _)
    have hmem : t.check (Dotted.below group suffix) ∈ t.verdicts groups suffixes :=
      ⟨suffix, hsuffix, group, hgroup, rfl⟩
    rw [hnone] at hmem
    cases hmem
  inOrder groups suffixes suffixes' order horder hsuffixes := by
    refine eq_of_forall_ge_iff fun v => ?_
    simp only [checkAnyInOrder_le_iff, checkGroupsAny_le_iff, horder, hsuffixes]
  groupParts groups suffixes parts hparts := by
    refine eq_of_forall_ge_iff fun v => ?_
    simp only [checkGroupsAny_le_iff, Verdict.foldr_max_le_iff, List.forall_mem_map, hparts]
    constructor
    · intro h part hpart suffix hsuffix group hgroup
      exact h suffix hsuffix group ⟨part, hpart, hgroup⟩
    · rintro h suffix hsuffix group ⟨part, hpart, hgroup⟩
      exact h part hpart suffix hsuffix group hgroup
  suffixParts groups suffixes parts hparts := by
    refine eq_of_forall_ge_iff fun v => ?_
    simp only [checkGroupsAny_le_iff, Verdict.foldr_max_le_iff, List.forall_mem_map, hparts]
    constructor
    · intro h part hpart suffix hsuffix
      exact h suffix ⟨part, hpart, hsuffix⟩
    · rintro h suffix ⟨part, hpart, hsuffix⟩
      exact h part hpart suffix hsuffix
  mono groups groups' suffixes suffixes' hgroups hsuffixes := by
    refine checkGroupsAny_le_iff.2 fun suffix hsuffix group hgroup => ?_
    exact checkGroupsAny_le_iff.1 le_rfl suffix (hsuffixes suffix hsuffix) group
      (hgroups group hgroup)

/-- For one suffix the laws are those for the list of it. -/
theorem JoinsPairs.joinsGroups {t : PermissionTree} (h : t.JoinsPairs) (suffix : String) :
    t.JoinsGroups suffix where
  isGreatest groups := by
    rintro ⟨group, hgroup⟩
    exact isGreatest_checkGroups hgroup suffix
  eq_unset groups hnone := by
    rw [checkGroups_eq]
    refine h.eq_unset groups [suffix] (Set.eq_empty_of_forall_notMem ?_)
    rintro v ⟨-, -, group, hgroup, -⟩
    exact hnone ⟨group, hgroup⟩
  inOrder groups order horder := by
    rw [checkGroups_eq, ← h.inOrder groups [suffix] [suffix] (fun _ => order) (fun _ => horder)
      fun _ => Iff.rfl]
    simp [checkAnyInOrder, Verdict.combine_eq_foldr_max, Verdict.unset_le]
  parts groups parts hparts := by
    simp only [checkGroups_eq]
    exact h.groupParts groups [suffix] parts hparts
  mono groups groups' hgroups := by
    rw [checkGroups_eq, checkGroups_eq]
    exact h.mono groups groups' [suffix] [suffix] hgroups fun _ hsuffix => hsuffix

/-- **The verdicts of groups are joined**, for one suffix and for several. -/
theorem joinsVerdicts (t : PermissionTree) : (∀ suffix, t.JoinsGroups suffix) ∧ t.JoinsPairs :=
  ⟨t.joinsPairs.joinsGroups, t.joinsPairs⟩

/-- The denial for one group and the permission for the other, whichever comes first. -/
example : (ofRules [("mods.tts", .allow), ("everyone", .deny)]).checkAnyInOrder
    (fun _ => ["mods", "everyone", "mods"]) ["voice", "tts"] = .allow ∧
    (ofRules [("mods.tts", .allow), ("everyone", .deny)]).checkAnyInOrder
      (fun _ => ["everyone", "mods"]) ["voice"] = .deny := by
  decide +kernel

end PermissionTree

end ChatCommands
