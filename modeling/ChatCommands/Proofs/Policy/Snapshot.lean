import ChatCommands.Proofs.Engine.Authorization
import ChatCommands.Proofs.Permission.Table
import ChatCommands.Proofs.Policy.Region
import ChatCommands.Proofs.Usage.Table

/-!
# What a snapshot says

A snapshot lists its rows and entries in any order and with repetitions, and the store is made of them in
several passes: first the table of group names, then the two trees by means of that table. What comes out
can be read off the lists. Of several rows with one id the last names the group, and of several entries
about one node the last counts.

* `PolicySnapshot.address?`: the node that an entry is about.
* `PolicySnapshot.ruleMap`, `PolicySnapshot.limitMap`: the rules and limits that the entries amount to.
* `PolicySnapshot.Describes`: a store has these rules and limits, answers by them, and has no uses on
  record.

**Theorem (`determined_by_fullSnapshot`).** After a snapshot the store is the one that it describes,
whatever the store was before.

**Theorem (`run_updateLimit_eq_batch`).** Updates that follow a snapshot one by one might as well have stood
at the end of it.
-/

namespace ChatCommands

open Dotted Text

/-! ## The last entry that hits -/

section
variable {ε α τ β : Type} (read : τ → β) (hits : ε → Prop) [DecidablePred hits] (value : ε → β)

/-- What is read after writing some entries is what the last one that hits wrote. -/
theorem read_foldl {step : τ → ε → τ}
    (h : ∀ t e, read (step t e) = if hits e then value e else read t) (es : List ε) (t : τ) :
    read (es.foldl step t) = (es.findRev? hits).elim (read t) value := by
  rw [List.findRev?_eq_find?_reverse]
  induction es using List.reverseRecOn with
  | nil => rfl
  | append_singleton es e ih =>
    rw [List.foldl_append, List.foldl_cons, List.foldl_nil, h, List.reverse_append,
      List.reverse_singleton, List.singleton_append, List.find?_cons]
    by_cases he : hits e
    · rw [if_pos he, decide_eq_true he]
      rfl
    · rw [if_neg he, decide_eq_false he]
      exact ih

/-- The same where entries have to be placed first, and those without a place are skipped. -/
theorem read_foldl_filterMap {step : τ → α → τ} {place : ε → Option α}
    (hskipped : ∀ e, place e = none → ¬ hits e)
    (hplaced : ∀ e a, place e = some a → ∀ t, read (step t a) = if hits e then value e else read t)
    (es : List ε) (t : τ) :
    read ((es.filterMap place).foldl step t) = (es.findRev? hits).elim (read t) value := by
  rw [List.foldl_filterMap]
  refine read_foldl read hits value (fun t e => ?_) es t
  cases hplace : place e with
  | none => rw [if_neg (hskipped e hplace)]
  | some a => exact hplaced e a hplace t

end

/-! ## Reading a snapshot -/

namespace PolicySnapshot

/-- The name of a group: that of the last row with its id, in lowercase. -/
def groupName? (s : PolicySnapshot) (id : String) : Option String :=
  (s.groups.findRev? fun row => row.id = id).map fun row => lower row.name

/-- The segments of the node that an entry is about, if its group is known: below the name of the
group, in lowercase. -/
def address? (s : PolicySnapshot) (groupId path : String) : Option (List String) :=
  (s.groupName? groupId).map fun name => segments (below name (lower path))

/-- The rule at each node is that of the last entry about it. There is none if that entry takes the rule
back. -/
def ruleMap (s : PolicySnapshot) : RuleMap := fun p =>
  (s.permissions.findRev? fun e => s.address? e.groupId e.path = some p).elim .unset (·.rule)

/-- The limit at each node is that of the last entry about it. The root cannot have one. -/
def limitMap (s : PolicySnapshot) : LimitMap := fun p =>
  if p = [] then none
  else (s.policies.findRev? fun e => s.address? e.groupId e.path = some p).map (·.limit)

variable (s : PolicySnapshot)

theorem limitMap_nil : s.limitMap [] = none := if_pos rfl

/-- **The last row with an id names its group.** -/
theorem get?_groupTable (id : String) : Assoc.get? id s.groupTable = s.groupName? id := by
  rw [groupTable, GroupTable.ofEntries, groupName?,
    read_foldl (Assoc.get? id) (fun row : GroupEntry => row.id = id)
      (fun row => some (lower row.name)) fun _ _ => Assoc.get?_put ..]
  cases s.groups.findRev? fun row => row.id = id <;> rfl

/-- An entry is placed at its address. -/
theorem map_segments_place? (groupId path : String) :
    (s.groupTable.place? groupId path).map segments = s.address? groupId path := by
  rw [GroupTable.place?, get?_groupTable, Option.map_map]
  rfl

section
variable {s} {groupId path place : String} {p : List String}

theorem address?_ne_some (h : s.groupTable.place? groupId path = none) :
    ¬ s.address? groupId path = some p := by
  rw [← map_segments_place?, h, Option.map_none]
  exact nofun

theorem address?_eq_some_iff (h : s.groupTable.place? groupId path = some place) :
    s.address? groupId path = some p ↔ p = segments place := by
  rw [← map_segments_place?, h, Option.map_some, Option.some_inj, eq_comm]

end

/-- **The last entry about a node decides its rule.** -/
theorem rules_toStore : s.toStore.permissions.rules = s.ruleMap := by
  funext p
  show (PermissionTree.ofRules s.rules).rules p = _
  rw [PermissionTree.rules_ofRules, RuleMap.ofList, rules, read_foldl_filterMap
    (fun map : RuleMap => map p)
    (fun e => s.address? e.groupId e.path = some p) (fun e => e.rule)
    (fun e hplace => ?_) (fun e r hplace map => ?_) s.permissions RuleMap.empty]
  · rfl
  · exact address?_ne_some (Option.map_eq_none_iff.1 hplace)
  · obtain ⟨place, hplace', rfl⟩ := Option.map_eq_some_iff.1 hplace
    exact if_congr (address?_eq_some_iff hplace').symm rfl rfl

/-- **The last entry about a node decides its limit.** -/
theorem limit_toStore : s.toStore.usage.accounts.limit = s.limitMap := by
  funext p
  show (UsageTree.ofLimits s.limits).accounts.limit p = _
  -- Entries may be about the root, where the tree takes no limit.
  by_cases hp : p = []
  · subst hp
    rw [((UsageTree.keptAt_reachable 0).ofLimits s.limits).limit_nil, limitMap_nil]
  · rw [UsageTree.ofLimits, limits, limitMap, if_neg hp, read_foldl_filterMap
      (fun t : UsageTree => t.accounts.limit p)
      (fun e => s.address? e.groupId e.path = some p) (fun e => some e.limit)
      (fun e hplace => ?_) (fun e l hplace t => ?_) s.policies UsageTree.empty]
    · rw [UsageTree.limit_empty]
      cases s.policies.findRev? fun e => s.address? e.groupId e.path = some p <;> rfl
    · exact address?_ne_some (Option.map_eq_none_iff.1 hplace)
    · obtain ⟨place, hplace', rfl⟩ := Option.map_eq_some_iff.1 hplace
      have hhits : (segments place ≠ [] ∧ p = segments place) ↔
          s.address? e.groupId e.path = some p := by
        rw [address?_eq_some_iff hplace']
        exact and_iff_right_of_imp fun heq => heq ▸ hp
      dsimp only
      rw [UsageTree.limit_set]
      exact if_congr hhits rfl rfl

end PolicySnapshot

/-- No use is on record in a tree of limits. -/
theorem UsageTree.ledger_ofLimits (limits : List (String × UsageLimit)) (p : List String) :
    (ofLimits limits).accounts.ledger p = {} := by
  have hfold : ∀ t : UsageTree,
      (limits.foldl (fun t l => t.set l.1 l.2) t).accounts.ledger p = t.accounts.ledger p := by
    induction limits with
    | nil => exact fun _ => rfl
    | cons l limits ih =>
      intro t
      rw [List.foldl_cons, ih, ledger_set]
  rw [ofLimits, hfold, accounts_empty, Accounts.ledger_empty]

namespace PolicySnapshot

-- The last row names the group, and the last entry takes the rule back that the first one set.
example :
    let s : PolicySnapshot :=
      { groups := [⟨"1", "vips"⟩, ⟨"1", "Mods"⟩]
        permissions := [⟨"1", "tts", .allow⟩, ⟨"2", "tts", .deny⟩, ⟨"1", ".TTS", .unset⟩] }
    s.groupName? "1" = some "mods" ∧ s.ruleMap ["mods", "tts"] = .unset ∧
      s.toStore.permissions.ruleCount = 0 := by
  decide +kernel

/-! ## Updates after a snapshot -/

/-- The snapshot with these usage limits after its own. -/
def extend (s : PolicySnapshot) (updates : List UsageEntry) : PolicySnapshot :=
  { s with policies := s.policies ++ updates }

variable (s : PolicySnapshot)

theorem extend_nil : s.extend [] = s := by
  rw [extend, List.append_nil]

theorem extend_extend (updates updates' : List UsageEntry) :
    (s.extend updates).extend updates' = s.extend (updates ++ updates') := by
  rw [extend, extend, extend, List.append_assoc]

theorem limits_extend_singleton (entry : UsageEntry) :
    (s.extend [entry]).limits = s.limits ++
      ((s.groupTable.place? entry.groupId entry.path).map fun place => (place, entry.limit)).toList := by
  show List.filterMap _ (s.policies ++ [entry]) = _
  rw [List.filterMap_append, List.filterMap_cons, List.filterMap_nil]
  rfl

/-- **An update amounts to one more entry of the snapshot**, be its group known or not. -/
theorem apply_update_toStore (entry : UsageEntry) :
    s.toStore.apply (.singlePolicyUpdate entry) = (s.extend [entry]).toStore := by
  have hstore : (s.extend [entry]).toStore =
      { s.toStore with usage := .ofLimits (s.extend [entry]).limits } := rfl
  rw [hstore, limits_extend_singleton]
  cases hplace : s.groupTable.place? entry.groupId entry.path with
  | none =>
    rw [PolicyStore.apply_update_of_place?_eq_none hplace, Option.map_none, Option.toList_none,
      List.append_nil]
    rfl
  | some place =>
    rw [PolicyStore.apply_update_of_place?_eq_some hplace, Option.map_some, Option.toList_some,
      UsageTree.ofLimits, List.foldl_append]
    rfl

/-- So any number of updates may be put at the end of the snapshot. -/
theorem foldl_apply_update_toStore (updates : List UsageEntry) :
    (updates.map .singlePolicyUpdate).foldl PolicyStore.apply s.toStore =
      (s.extend updates).toStore := by
  induction updates generalizing s with
  | nil => rw [extend_nil]; rfl
  | cons entry updates ih =>
    rw [List.map_cons, List.foldl_cons, apply_update_toStore, ih, extend_extend,
      List.singleton_append]

end PolicySnapshot

namespace Engine

variable {C σ : Type} (e : Engine C σ) (now : Int)

/-- An update does the same on its own as it does as an event, and tells whether it took effect. -/
theorem perform_updateLimit (entry : UsageEntry) :
    e.perform now (.updateLimit entry) =
      (.flag (e.policy.applyUpdate? entry).isSome,
        (e.perform now (.event (.singlePolicyUpdate entry))).2) := by
  simp only [perform, PolicyStore.apply]
  cases e.policy.applyUpdate? entry <;> rfl

theorem run_updateLimit (updates : List (Int × UsageEntry)) :
    e.run (updates.map (.map id .updateLimit)) =
      { e with policy :=
          ((updates.map Prod.snd).map .singlePolicyUpdate).foldl PolicyStore.apply e.policy } := by
  induction updates generalizing e with
  | nil => rfl
  | cons update updates ih =>
    obtain ⟨now, entry⟩ := update
    rw [List.map_cons, Prod.map_apply, run, perform_updateLimit, ih]
    rfl

/-- **Updates one by one are as good as a batch**: those that follow a snapshot leave the engine that
the snapshot would have left with them at its end. An update for an unknown group changes nothing and
says so. -/
theorem run_updateLimit_eq_batch (s : PolicySnapshot) (updates : List (Int × UsageEntry)) :
    e.run ((now, .event (.fullSnapshot s)) :: updates.map (.map id .updateLimit)) =
        (e.perform now (.event (.fullSnapshot (s.extend (updates.map Prod.snd))))).2 ∧
      ∀ entry : UsageEntry, Assoc.get? entry.groupId e.policy.groupNames = none →
        e.perform now (.updateLimit entry) = (.flag false, e) := by
  refine ⟨?_, fun entry hunknown => ?_⟩
  · rw [run, run_updateLimit]
    show { e with policy := List.foldl PolicyStore.apply s.toStore _ } = _
    rw [PolicySnapshot.foldl_apply_update_toStore]
    rfl
  · have hplace : e.policy.groupNames.place? entry.groupId entry.path = none := by
      rw [GroupTable.place?, hunknown, Option.map_none]
    simp only [perform, PolicyStore.applyUpdate?, hplace, Option.bind_eq_bind, Option.bind_none]

end Engine

namespace Sample

open Engine

/-- An engine that knows one group. -/
def informed : Engine ScriptedCommand Unit :=
  (start builder.grammar scripted ()).run [(0, .event (.fullSnapshot { groups := [⟨"1", "Mods"⟩] }))]

/-- Two updates, the second of them for a group that is unknown, after a snapshot and on their own. -/
theorem run_updateLimit_eq_batch_informed :
    Assoc.get? "2" informed.policy.groupNames = none ∧
      informed.run [(1, .event (.fullSnapshot { groups := [⟨"1", "Mods"⟩] })),
        (2, .updateLimit ⟨"1", "TTS", 2, 1000⟩), (3, .updateLimit ⟨"2", "tts", 1, 1000⟩)] =
          (informed.perform 1 (.event (.fullSnapshot {
            groups := [⟨"1", "Mods"⟩]
            policies := [⟨"1", "TTS", 2, 1000⟩, ⟨"2", "tts", 1, 1000⟩] }))).2 ∧
      informed.perform 1 (.updateLimit ⟨"2", "tts", 1, 1000⟩) = (.flag false, informed) := by
  have hunknown : Assoc.get? "2" informed.policy.groupNames = none := by decide +kernel
  obtain ⟨hbatch, hignored⟩ := run_updateLimit_eq_batch informed 1 { groups := [⟨"1", "Mods"⟩] }
    [(2, ⟨"1", "TTS", 2, 1000⟩), (3, ⟨"2", "tts", 1, 1000⟩)]
  exact ⟨hunknown, hbatch, hignored ⟨"2", "tts", 1, 1000⟩ hunknown⟩

end Sample

end ChatCommands
