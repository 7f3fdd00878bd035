import ChatCommands.Proofs.Grammar.Chain
import ChatCommands.Proofs.Policy.Snapshot
import ChatCommands.Proofs.Text.Sigma

/-!
# Policies for a command

The entries of a snapshot name a command by its literals with dots between them. The path is lowercased
as a whole, while the grammar lowercases every literal on its own, and what is asked about a command is
asked with the canonical path that the grammar has for it.

* `GroupTable.address?`: the node that an entry is stored at.
* `PolicyStore.Decides`, `PolicyStore.Allots`: a rule or a limit stands at the node that is read first.
* `PolicySnapshot.Meets`: what the entries of a path state is what is met under another.

**Theorem (`meets_iff`).** What a snapshot states for a chain of literals is met by those who select the
command that the chain built, exactly if no capital sigma of the path depends on its dots
(`Dotted.SigmaAgrees`).

Names that hold a capital sigma may therefore be missed, by a policy spelled just as the command was
(`Sample.restricting_missed`).
-/

namespace ChatCommands

open Dotted Text

variable {C : Type}

/-! ## The last entry of an address -/

/-- The entry is in the list, and none after it has its address. -/
def IsLastAt {ε β : Type} (address : ε → β) (es : List ε) (e : ε) : Prop :=
  ∃ before after, es = before ++ e :: after ∧ ∀ later ∈ after, address later ≠ address e

theorem IsLastAt.findRev?_eq_some {ε β : Type} [DecidableEq β] {address : ε → β} {es : List ε} {e : ε}
    (h : IsLastAt address es e) {p : β} (hp : address e = p) :
    (es.findRev? fun e' => address e' = p) = some e := by
  obtain ⟨before, after, rfl, hafter⟩ := h
  subst hp
  have hnone : after.reverse.find? (fun e' => address e' = address e) = none := by
    simpa [List.find?_eq_none] using hafter
  rw [List.findRev?_eq_find?_reverse, List.reverse_append, List.reverse_cons, List.append_assoc,
    List.find?_append, hnone, Option.none_or, List.singleton_append, List.find?_cons,
    decide_eq_true rfl]

/-! ## Where entries are stored -/

/-- The segments of the node that an entry is stored at, if the table knows its group. -/
def GroupTable.address? (table : GroupTable) (groupId path : String) : Option (List String) :=
  (table.place? groupId path).map segments

namespace PolicySnapshot

def ruleAddress? (s : PolicySnapshot) (e : PermissionEntry) : Option (List String) :=
  s.groupTable.address? e.groupId e.path

def limitAddress? (s : PolicySnapshot) (e : UsageEntry) : Option (List String) :=
  s.groupTable.address? e.groupId e.path

/-- **A rule stands at its address**, unless a later entry replaces it. -/
theorem rule_of_isLastAt {s : PolicySnapshot} {e : PermissionEntry}
    (hlast : IsLastAt s.ruleAddress? s.permissions e) {p : List String}
    (hp : s.ruleAddress? e = some p) : s.toStore.permissions.rules p = e.rule := by
  have hfind := hlast.findRev?_eq_some hp
  simp only [ruleAddress?, GroupTable.address?, map_segments_place?] at hfind
  rw [rules_toStore, ruleMap, hfind, Option.elim_some]

/-- **A limit stands at its address**, unless a later entry replaces it. -/
theorem limit_of_isLastAt {s : PolicySnapshot} {e : UsageEntry}
    (hlast : IsLastAt s.limitAddress? s.policies e) {p : List String}
    (hp : s.limitAddress? e = some p) (hne : p ≠ []) :
    s.toStore.usage.accounts.limit p = some e.limit := by
  have hfind := hlast.findRev?_eq_some hp
  simp only [limitAddress?, GroupTable.address?, map_segments_place?] at hfind
  rw [limit_toStore, limitMap, if_neg hne, hfind, Option.map_some]

end PolicySnapshot

/-! ## Reading a node -/

theorem StringSet.members_ofList_singleton (x : String) : (ofList [x]).members = [x] := rfl

theorem PermissionTree.checkGroups_singleton (t : PermissionTree) (name path : String) :
    t.checkGroups (.ofList [name]) path = t.check (below name path) := by
  rw [checkGroups, StringSet.members_ofList_singleton, List.map_singleton]
  cases t.check (below name path) <;> rfl

theorem UsageTree.tryUseGroups_singleton (t : UsageTree) (key name path : String) (now : Int) :
    t.tryUseGroups key (.ofList [name]) path now = t.tryUse key (below name path) now := by
  rw [tryUseGroups, StringSet.members_ofList_singleton, tryUseInOrder]
  cases t.tryUse key (below name path) now with
  | mk used t' => cases used <;> rfl

theorem RuleMap.nearest_eq_self {rules : RuleMap} {p : List String} (h : rules p ≠ .unset) :
    rules.nearest p = rules p :=
  nearest_eq List.prefix_rfl h fun _ hr _ => hr.length_le

/-- A path comes first among its prefixes, the longest of them first. -/
theorem exists_inits_reverse_eq (p : List String) : ∃ shorter, p.inits.reverse = p :: shorter := by
  induction p with
  | nil => exact ⟨[], rfl⟩
  | cons s p ih =>
    obtain ⟨shorter, hinits⟩ := ih
    refine ⟨shorter.map (s :: ·) ++ [[]], ?_⟩
    rw [List.inits_cons, List.reverse_cons, ← List.map_reverse, hinits]
    rfl

theorem LimitMap.nearest_eq_self {limits : LimitMap} {p : List String} {l : UsageLimit}
    (h : limits p = some l) : limits.nearest p = some l := by
  obtain ⟨shorter, hinits⟩ := exists_inits_reverse_eq p
  rw [nearest, hinits, List.findSome?_cons_of_isSome (by rw [h]; rfl), h]

/-- **An empty ledger has room**, if the limit admits any use at all. -/
theorem UsageLedger.offer_empty {key : String} {now : Int} {limit : UsageLimit}
    (h : 0 < limit.count) : (offer key now limit {}).1 = true := by
  have hresize : ({} : UsageBuffer).resize limit.count = {} := by
    simp [UsageBuffer.resize, h]
  have huse : (({} : UsageBuffer).tryUse limit now).1 = true := by
    simp [UsageBuffer.tryUse, h, Nat.ne_of_gt h]
  show ((({} : UsageBuffer).resize limit.count).tryUse limit now).1 = true
  rw [hresize, huse]

/-- The rule `v` stands where `path` is read for the group of this name, and decides there. -/
structure PolicyStore.Decides (store : PolicyStore) (name path : String) (v : Verdict) : Prop where
  rules_eq : store.permissions.rules (segments (below name path)) = v
  checkGroups_eq : v ≠ .unset → store.permissions.checkGroups (.ofList [name]) path = v

/-- The limit `l` stands where `path` is read for the group of this name, and the first use of any
member is charged to it. -/
structure PolicyStore.Allots (store : PolicyStore) (name path : String) (l : UsageLimit) : Prop where
  limit_eq : store.usage.accounts.limit (segments (below name path)) = some l
  limitFor_eq : store.usage.limitFor (below name path) = some l
  tryUseGroups : 0 < l.count → ∀ key now,
    (store.usage.tryUseGroups key (.ofList [name]) path now).1 = true ∧
      Accounts.RecordsOne (segments (below name path)) key now store.usage.accounts
        (store.usage.tryUseGroups key (.ofList [name]) path now).2.accounts

theorem PolicyStore.decides_of_rules_eq {store : PolicyStore} {name path : String} {v : Verdict}
    (h : store.permissions.rules (segments (below name path)) = v) : store.Decides name path v := by
  refine ⟨h, fun hv => ?_⟩
  rw [PermissionTree.checkGroups_singleton, PermissionTree.check_eq_nearest,
    RuleMap.nearest_eq_self (by rwa [h]), h]

/-- **A limit without any use on record** is met by the first use. -/
theorem PolicyStore.allots_of_limit_eq {store : PolicyStore} {name path : String} {l : UsageLimit}
    (hdistinct : store.usage.accounts.Distinct)
    (h : store.usage.accounts.limit (segments (below name path)) = some l)
    (hledger : store.usage.accounts.ledger (segments (below name path)) = {}) :
    store.Allots name path l := by
  refine ⟨h, ?_, fun hcount key now => ?_⟩
  · rw [UsageTree.limitFor_eq_nearest, LimitMap.nearest_eq_self h]
  · obtain ⟨shorter, hinits⟩ := exists_inits_reverse_eq (segments (below name path))
    have hsettles :=
      Accounts.settles_charge hdistinct key now (segments (below name path))
    have hused : (store.usage.accounts.charge (UsageLedger.offer key now)
        (segments (below name path))).1 = true := by
      rw [Accounts.fst_charge h, hledger, UsageLedger.offer_empty hcount]
    rw [UsageTree.tryUseGroups_singleton, UsageTree.tryUse_eq, UsageTree.fst_tryUseBy,
      UsageTree.accounts_tryUseBy, hinits, Accounts.chargeFirst]
    generalize store.usage.accounts.charge (UsageLedger.offer key now)
      (segments (below name path)) = result at hsettles hused
    obtain ⟨used, accounts⟩ := result
    obtain rfl : used = true := hused
    rcases hsettles with ⟨hrefused, -⟩ | ⟨-, p, rfl, -, hrecords⟩
    · cases hrefused
    · exact ⟨rfl, hrecords⟩

/-! ## Entries for a command -/

namespace PolicySnapshot

/-- What the snapshot states for a group at `path` is what its members meet at `selected` afterwards,
where `name` is the name of the group. -/
structure Meets (s : PolicySnapshot) (groupId name path selected : String) : Prop where
  address?_eq : s.groupTable.address? groupId path = some (segments (below name selected))
  decides : ∀ store : PolicyStore, ∀ e, IsLastAt s.ruleAddress? s.permissions e →
    e.groupId = groupId → e.path = path →
      (store.apply (.fullSnapshot s)).Decides name selected e.rule
  allots : ∀ store : PolicyStore, ∀ e, IsLastAt s.limitAddress? s.policies e →
    e.groupId = groupId → e.path = path →
      (store.apply (.fullSnapshot s)).Allots name selected e.limit

variable {s : PolicySnapshot} {groupId name path selected : String}

/-- It is enough that the entries are stored where is read. -/
theorem meets_of_address?_eq (hne : segments selected ≠ [])
    (h : s.groupTable.address? groupId path = some (segments (below name selected))) :
    s.Meets groupId name path selected := by
  refine ⟨h, ?_, ?_⟩
  · rintro _ e hlast rfl rfl
    exact PolicyStore.decides_of_rules_eq (rule_of_isLastAt hlast h)
  · rintro _ e hlast rfl rfl
    have hreachable := (UsageTree.keptAt_reachable 0).ofLimits s.limits
    refine PolicyStore.allots_of_limit_eq hreachable.distinct (limit_of_isLastAt hlast h ?_)
      (UsageTree.ledger_ofLimits s.limits _)
    rw [segments_below]
    exact List.append_ne_nil_of_right_ne_nil _ hne

theorem address?_eq_iff (hname : Assoc.get? groupId s.groupTable = some name) :
    s.groupTable.address? groupId path = some (segments (below name selected)) ↔
      segments (lower path) = segments selected := by
  rw [GroupTable.address?, GroupTable.place?, hname, Option.map_some, Option.map_some,
    Option.some_inj, segments_below, segments_below, List.append_cancel_left_eq]

variable {b b' : Builder C} {l : String} {ls : List String} {answers : List BuildAnswer}
  {g : Grammar C} {accepts : Slot → String → Bool} {tokens : List String}

/-- **The policies of a command are met by those who select it**, exactly if no capital sigma in its
name depends on the dots. By `hown` the chain leads to a node of its own: none of the literals is an
alias, which would lead to the node of another keyword. The grammar may have grown since. -/
theorem meets_iff (hb : b.Reachable)
    (hchain : BuildStep.runUntilFailure (BuildStep.chain l ls) b = (b', answers, none))
    (hown : b'.trail = (l :: ls).map lower) (hgrow : b'.grammar.GrowsInto g)
    (hlast : (g.walk accepts tokens).entered.getLast? = some b'.cursor)
    (hstuck : (g.walk accepts tokens).stuck = false)
    (hname : Assoc.get? groupId s.groupTable = some name) :
    s.Meets groupId name (join (l :: ls)) (g.select accepts tokens).path ↔
      SigmaAgrees (join (l :: ls)) := by
  obtain ⟨htrail, hliterals⟩ := hb.sound.onTrail_of_chain hchain
  obtain ⟨hgrown, hpath⟩ := htrail.hasPath.growsInto htrail.sound.grown hgrow
  have hsegment : ∀ p ∈ l :: ls, IsSegment p :=
    fun p hp => Builder.isSegment_of_isLiteral (hliterals p hp)
  have hselected : (g.select accepts tokens).segments = (l :: ls).map lower := by
    rw [Grammar.segments_select_of_entered hgrown hpath hlast hstuck, hown]
  have hsegments : segments (g.select accepts tokens).path = (l :: ls).map lower := by
    rw [Selection.path, hselected]
    exact segments_join_of_isSegment (isSegment_map_lower hsegment)
  rw [← segments_lower_join_iff (List.cons_ne_nil l ls) hsegment, ← hsegments,
    ← address?_eq_iff hname]
  refine ⟨Meets.address?_eq, meets_of_address?_eq ?_⟩
  rw [hsegments]
  exact List.cons_ne_nil _ _

end PolicySnapshot

/-! ## Samples -/

namespace Sample

/-- What a chain of keywords answers where nothing was declared before, and the builder after it. -/
def declared (l : String) (ls : List String) :
    Builder Unit × List BuildAnswer × Option BuildError :=
  BuildStep.runUntilFailure (BuildStep.chain l ls) {}

/-- The walk of some tokens where the chain is all that was declared. -/
def walked (l : String) (ls tokens : List String) : Walk :=
  (declared l ls).1.grammar.walk (fun _ _ => false) tokens

/-- The path that the walk selects. -/
def selected (l : String) (ls tokens : List String) : String :=
  ((declared l ls).1.grammar.select (fun _ _ => false) tokens).path

/-- Everyone is denied the command at this path, and has one use of it. -/
def restricting (path : String) : PolicySnapshot :=
  { groups := [⟨"1", "everyone"⟩], permissions := [⟨"1", path, .deny⟩],
    policies := [⟨"1", path, 1, 1000⟩] }

/-- A sigma at the beginning of a word makes no difference. -/
theorem meets_restricting_initial_sigma :
    (restricting "Σ.a").Meets "1" "everyone" "Σ.a" (selected "Σ" ["a"] ["σ", "a"]) ∧
      (restricting "Σ.a").toStore.permissions.checkGroups (.ofList ["everyone"])
        (selected "Σ" ["a"] ["σ", "a"]) = .deny := by
  have hjoin : join ["Σ", "a"] = "Σ.a" := by decide +kernel
  have hchain : (declared "Σ" ["a"]).2.2 = none := by decide +kernel
  have hagrees : SigmaAgrees (join ["Σ", "a"]) :=
    (lower_join_iff (by decide +kernel)).1 (by decide +kernel)
  have hmeets : (restricting "Σ.a").Meets "1" "everyone" (join ["Σ", "a"])
      (selected "Σ" ["a"] ["σ", "a"]) :=
    (PolicySnapshot.meets_iff .start
      (show declared "Σ" ["a"] = (_, _, none) from Prod.ext rfl (Prod.ext rfl hchain))
      (by decide +kernel) .refl (by decide +kernel) (by decide +kernel) (by decide +kernel)).2 hagrees
  rw [hjoin] at hmeets
  exact ⟨hmeets, (hmeets.decides {} _ ⟨[], [], rfl, nofun⟩ rfl rfl).checkGroups_eq (by decide)⟩

/-- **A sigma before a dot makes one**: `ΑΣ` alone ends a word, and in `ΑΣ.Β` it does not. What everyone
is denied is not what everyone asks about. -/
theorem restricting_missed :
    (declared "ΑΣ" ["Β"]).2.2 = none ∧ (declared "ΑΣ" ["Β"]).1.trail = ["ας", "β"] ∧
      (walked "ΑΣ" ["Β"] ["ας", "β"]).entered.getLast? = some (declared "ΑΣ" ["Β"]).1.cursor ∧
      (walked "ΑΣ" ["Β"] ["ας", "β"]).stuck = false ∧
      selected "ΑΣ" ["Β"] ["ας", "β"] = "ας.β" ∧
      (restricting "ΑΣ.Β").toStore.permissions.rules ["everyone", "ασ", "β"] = .deny ∧
      (restricting "ΑΣ.Β").toStore.permissions.checkGroups (.ofList ["everyone"]) "ας.β" = .unset ∧
      (restricting "ΑΣ.Β").toStore.usage.limitFor "everyone.ας.β" = none := by
  decide +kernel

end Sample

end ChatCommands
