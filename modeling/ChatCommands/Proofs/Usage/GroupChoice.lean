import Mathlib.Data.String.Basic
import Mathlib.Order.Bounds.Basic
import ChatCommands.Proofs.Usage.Refusal

/-!
# The group that is charged

A member of several groups may use a command if one of the groups has room. The groups are tried in
order, and those without room leave marks in the ledgers on the way, also in ledgers that later groups
share with them. Since refused uses leave no trace, each group is judged as if it were the only one.

* `UsageTree.roomy`: the groups that have room for a use alone.

**Theorem (`tryUseGroups_least`).** The use is granted if and only if some group has room. Then it cannot
be told from a use by a member of just one group, the least of those with room.
-/

namespace ChatCommands

namespace UsageTree

/-- The groups, among those named, through which alone the use would be granted. -/
def roomy (t : UsageTree) (key suffix : String) (now : Int) (names : List String) : Set String :=
  {group | group ∈ names ∧ (t.tryUse key (Dotted.below group suffix) now).1 = true}

/-- The first of the groups through which alone the use would be granted. -/
def firstRoomy? (t : UsageTree) (key suffix : String) (now : Int) (names : List String) :
    Option String :=
  names.find? fun group => (t.tryUse key (Dotted.below group suffix) now).1

variable {t t' : UsageTree} {key suffix : String} {now : Int}

/-! ## Trying one group after the other -/

theorem firstRoomy?_eq_none_iff {names : List String} :
    t.firstRoomy? key suffix now names = none ↔ ∀ group, group ∉ t.roomy key suffix now names := by
  rw [firstRoomy?, List.find?_eq_none]
  constructor
  · exact fun h group hgroup => h group hgroup.1 hgroup.2
  · exact fun h group hmem hroom => h group ⟨hmem, hroom⟩

/-- In an increasing list the first is the least. -/
theorem isLeast_of_firstRoomy? {names : List String} (hnames : names.Pairwise (· < ·))
    {group : String} (h : t.firstRoomy? key suffix now names = some group) :
    IsLeast (t.roomy key suffix now names) group := by
  obtain ⟨hroom, earlier, later, rfl, hearlier⟩ := List.find?_eq_some_iff_append.1 h
  refine ⟨⟨List.mem_append_right _ List.mem_cons_self, hroom⟩, fun other hother => ?_⟩
  obtain ⟨hmem, hother⟩ := hother
  rcases List.mem_append.1 hmem with hmem | hmem
  · exact absurd hother (by simpa using hearlier other hmem)
  · rcases List.mem_cons.1 hmem with rfl | hmem
    · exact le_refl _
    · have hpairs := (List.pairwise_append.1 hnames).2.1
      exact ((List.pairwise_cons.1 hpairs).1 other hmem).le

/-- **The groups before the first one with room leave no trace.** The second tree is one that missed some
refused uses already. -/
theorem alike_tryUseInOrder (h : Accounts.Alike Set.univ now t.accounts t'.accounts)
    (ht : t.accounts.Ordered now) (ht' : t'.accounts.Ordered now) (key suffix : String)
    (names : List String) :
    match t.firstRoomy? key suffix now names with
    | none => (t'.tryUseInOrder key suffix now names).1 = false
    | some group => (t'.tryUseInOrder key suffix now names).1 = true ∧
        Accounts.Alike Set.univ now (t.tryUse key (Dotted.below group suffix) now).2.accounts
          (t'.tryUseInOrder key suffix now names).2.accounts := by
  induction names generalizing t' with
  | nil => rfl
  | cons group names ih =>
    -- Alone, the group is tried on `t`, but by now the tree is `t'`.
    have hop : (UsageOperation.use key (Dotted.below group suffix) now).instant? = some now := rfl
    obtain ⟨hanswer, halike⟩ := alike_perform hop h ht ht'
    have hrefused := alike_perform_of_refused hop ht'
    have hordered := (keptAt_ordered now).use ht' key (Dotted.below group suffix)
    simp only [perform] at hanswer halike hrefused
    rw [firstRoomy?, List.find?_cons, hanswer, tryUseInOrder]
    generalize t'.tryUse key (Dotted.below group suffix) now = result at *
    obtain ⟨used, t''⟩ := result
    cases used with
    | true => exact ⟨rfl, halike⟩
    | false => exact ih (h.trans (hrefused rfl)) hordered

/-! ## What follows -/

theorem length_answers (t : UsageTree) (run : List UsageOperation) :
    (t.answers run).length = run.length := by
  induction run generalizing t with
  | nil => rfl
  | cons op run ih => rw [answers, List.length_cons, List.length_cons, ih]

/-- Nothing need be left out. -/
theorem thinned_self (run : List (UsageOperation × Bool)) : Thinned run run := by
  induction run with
  | nil => exact .nil
  | cons entry run ih => exact .keep entry.1 entry.2 ih

/-- **Trees that count alike answer all uses alike.** -/
theorem answers_eq_of_alike {run : List UsageOperation}
    (h : Accounts.Alike Set.univ now t.accounts t'.accounts) (ht : t.accounts.Ordered now)
    (ht' : t'.accounts.Ordered now) (huses : ∀ op ∈ run, op.instant?.isSome)
    (hsorted : (now :: run.filterMap UsageOperation.instant?).Pairwise (· ≤ ·)) :
    t'.answers run = t.answers run := by
  have hlength := t.length_answers run
  have hanswers := answers_of_alike h ht ht' huses hsorted (thinned_self _)
  rwa [List.map_fst_zip hlength.ge, List.map_snd_zip hlength.le] at hanswers

/-- **A use by a member of several groups** is one by a member of the least group that has room, in
whatever order the groups are named, and is refused if there is none. -/
theorem tryUseGroups_least {before : List UsageOperation} {now : Int}
    (hbefore : (before.filterMap UsageOperation.instant? ++ [now]).Pairwise (· ≤ ·))
    (key suffix : String) (names : List String) :
    (((after before).tryUseGroups key (.ofList names) suffix now).1 = true ↔
      ∃ group ∈ names, ((after before).tryUse key (Dotted.below group suffix) now).1 = true) ∧
    (((after before).tryUseGroups key (.ofList names) suffix now).1 = true →
      ∃ group, IsLeast ((after before).roomy key suffix now names) group ∧
        ∀ later : List UsageOperation, (∀ op ∈ later, op.instant?.isSome) →
          (now :: later.filterMap UsageOperation.instant?).Pairwise (· ≤ ·) →
          ((after before).tryUseGroups key (.ofList names) suffix now).2.answers later =
            ((after before).tryUse key (Dotted.below group suffix) now).2.answers later) := by
  have ht := ordered_after hbefore
  generalize after before = t at ht
  have hroomy : t.roomy key suffix now (StringSet.ofList names).members =
      t.roomy key suffix now names := by
    ext group
    exact and_congr_left fun _ => StringSet.mem_ofList
  have hfirst := alike_tryUseInOrder (.refl t.accounts) ht ht key suffix
    (StringSet.ofList names).members
  rw [← tryUseGroups] at hfirst
  cases hchoice : t.firstRoomy? key suffix now (StringSet.ofList names).members with
  | none =>
    rw [hchoice] at hfirst
    have hnone := firstRoomy?_eq_none_iff.1 hchoice
    rw [hroomy] at hnone
    refine ⟨iff_of_false (by simp [hfirst]) ?_, fun hgranted => ?_⟩
    · rintro ⟨group, hmem, hroom⟩
      exact hnone group ⟨hmem, hroom⟩
    · cases hfirst.symm.trans hgranted
  | some group =>
    rw [hchoice] at hfirst
    obtain ⟨hgranted, halike⟩ := hfirst
    have hleast := isLeast_of_firstRoomy? (StringSet.ofList names).sorted hchoice
    rw [hroomy] at hleast
    refine ⟨iff_of_true hgranted ⟨group, hleast.1⟩, fun _ => ⟨group, hleast, ?_⟩⟩
    have hordered := (keptAt_ordered now).use ht key (Dotted.below group suffix)
    have hordered' := ordered_tryUseGroups ht key (.ofList names) suffix
    exact fun later huses hlater => answers_eq_of_alike halike hordered hordered' huses hlater

end UsageTree

namespace Sample

open UsageTree

/-- The limits of two nodes, one above the other, have been used up. -/
def eager : List UsageOperation :=
  [.change (.set "everyone" ⟨1, 10⟩), .change (.set "everyone.tts" ⟨1, 10⟩),
    .change (.set "mods" ⟨2, 10⟩), .change (.set "vips" ⟨1, 10⟩), .use "7" "everyone.tts.add" 0,
    .use "7" "everyone.tts.add" 1]

/-- Two groups that share a node are tried in vain before the one that is charged. -/
theorem tryUseGroups_eager :
    let names := ["vips", "mods", "everyone.tts", "everyone"]
    let later : List UsageOperation :=
      [.use "7" "mods.add" 2, .use "7" "mods.add" 9, .useGroups "7" (.ofList names) "add" 11]
    (eager.filterMap UsageOperation.instant? ++ [2]).Pairwise (· ≤ ·) ∧
      ((after eager).tryUseGroups "7" (.ofList names) "add" 2).1 = true ∧
      (∀ op ∈ later, op.instant?.isSome) ∧
      (2 :: later.filterMap UsageOperation.instant?).Pairwise (· ≤ ·) ∧
      IsLeast ((after eager).roomy "7" "add" 2 names) "mods" ∧
      ((after eager).tryUseGroups "7" (.ofList names) "add" 2).2.answers later =
        ((after eager).tryUse "7" "mods.add" 2).2.answers later := by
  intro names later
  have hbefore : (eager.filterMap UsageOperation.instant? ++ [2]).Pairwise (· ≤ ·) := by
    decide +kernel
  have hgranted : ((after eager).tryUseGroups "7" (.ofList names) "add" 2).1 = true := by
    decide +kernel
  have huses : ∀ op ∈ later, op.instant?.isSome := by decide +kernel
  have hlater : (2 :: later.filterMap UsageOperation.instant?).Pairwise (· ≤ ·) := by
    decide +kernel
  have hmods : IsLeast ((after eager).roomy "7" "add" 2 names) "mods" := by
    have hroom : ((after eager).tryUse "7" (Dotted.below "mods" "add") 2).1 = true := by
      decide +kernel
    have hleast : ∀ other ∈ names,
        ((after eager).tryUse "7" (Dotted.below other "add") 2).1 = true → "mods" ≤ other := by
      decide +kernel
    exact ⟨⟨by decide, hroom⟩, fun other hother => hleast other hother.1 hother.2⟩
  obtain ⟨group, hgroup, hfollows⟩ := (tryUseGroups_least hbefore "7" "add" names).2 hgranted
  obtain rfl : group = "mods" := hgroup.unique hmods
  exact ⟨hbefore, hgranted, huses, hlater, hmods, hfollows later huses hlater⟩

end Sample

end ChatCommands
