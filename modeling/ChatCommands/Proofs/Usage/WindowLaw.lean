import ChatCommands.Proofs.Usage.Configuration
import ChatCommands.Proofs.Usage.Forgetting

/-!
# The law of the window

Ring buffers that grow lazily, ledgers that drop idle chatters and limits that pass a use on to the
limits above them come down to a simple law. Keep a log of all charges. A node has room for a use if
fewer than `count` of its charges with uses by the same chatter are still in its window. A use is
granted exactly if some node on its path has room, and it is charged to the deepest such node.

* `Lawful`: the answers to a list of uses that the law gives, as a relation.
* `Accounts.Follow`: the invariant that ties a usage tree to the log.

**Theorem (`lawful_useAll`).** However a usage tree was configured, its answers to uses in order of
time are the lawful ones, which are the only ones (`Lawful.unique`).
-/

namespace ChatCommands

/-- A use of a path by a chatter. -/
structure Use where
  key : String
  path : String
  instant : Int

/-- A use that a node was charged with. -/
structure Charge where
  node : List String
  key : String
  instant : Int

/-! ## The law -/

/-- The node has a limit, and fewer than `count` of its charges with uses by `key` are still in the
window at `now`. -/
def HasRoom (limits : LimitMap) (log : List Charge) (key : String) (now : Int)
    (node : List String) : Prop :=
  ∃ limit, limits node = some limit ∧
    (log.countP fun c => decide (c.node = node ∧ c.key = key ∧ now - c.instant < limit.window)) <
      limit.count

/-- The node lies on the path of the use, below the root, and has room for it. -/
structure Grants (limits : LimitMap) (log : List Charge) (u : Use) (node : List String) : Prop where
  onPath : node <+: Dotted.segments u.path
  ne_root : node ≠ []
  hasRoom : HasRoom limits log u.key u.instant node

/-- The answers that the law gives to uses, one after the other, where `log` holds the charges
before. -/
inductive Lawful (limits : LimitMap) : List Charge → List Use → List Bool → Prop
  | nil (log : List Charge) : Lawful limits log [] []
  /-- The deepest node that has room is charged. -/
  | granted {log : List Charge} {u : Use} {us : List Use} {answers : List Bool}
      {node : List String} (hnode : Grants limits log u node)
      (hdeepest : ∀ node', Grants limits log u node' → node' <+: node)
      (h : Lawful limits (log ++ [⟨node, u.key, u.instant⟩]) us answers) :
      Lawful limits log (u :: us) (true :: answers)
  | refused {log : List Charge} {u : Use} {us : List Use} {answers : List Bool}
      (hnone : ∀ node, ¬ Grants limits log u node) (h : Lawful limits log us answers) :
      Lawful limits log (u :: us) (false :: answers)

/-- The law leaves no choice. -/
theorem Lawful.unique {limits : LimitMap} {log : List Charge} {us : List Use}
    {answers answers' : List Bool} (h : Lawful limits log us answers)
    (h' : Lawful limits log us answers') : answers = answers' := by
  induction h generalizing answers' with
  | nil => cases h'; rfl
  | @granted log u us answers node hnode hdeepest _ ih =>
    cases h' with
    | @granted _ _ _ _ node' hnode' hdeepest' h' =>
      have hle := hdeepest node' hnode'
      obtain rfl : node' = node := hle.eq_of_length_le (hdeepest' node hnode).length_le
      rw [ih h']
    | refused hnone => exact absurd hnode (hnone node)
  | refused hnone _ ih =>
    cases h' with
    | granted hnode' => exact absurd hnode' (hnone _)
    | refused _ h' => rw [ih h']

/-! ## The log by nodes and chatters -/

/-- The instants of the charges of a node with uses by `key`. -/
def instantsOf (log : List Charge) (node : List String) (key : String) : List Int :=
  (log.filter fun c => decide (c.node = node ∧ c.key = key)).map Charge.instant

theorem liveUses_instantsOf (log : List Charge) (node : List String) (key : String)
    (now window : Int) :
    liveUses now window (instantsOf log node key) =
      log.countP fun c => decide (c.node = node ∧ c.key = key ∧ now - c.instant < window) := by
  rw [liveUses, instantsOf, List.countP_map, List.countP_filter]
  congr 1
  funext c
  simp only [Function.comp_apply, ← Bool.decide_and, decide_eq_decide]
  tauto

theorem hasRoom_iff {limits : LimitMap} {log : List Charge} {key : String} {now : Int}
    {node : List String} {limit : UsageLimit} (h : limits node = some limit) :
    HasRoom limits log key now node ↔
      liveUses now limit.window (instantsOf log node key) < limit.count := by
  rw [liveUses_instantsOf]
  constructor
  · rintro ⟨limit', h', hroom⟩
    obtain rfl := Option.some.inj (h.symm.trans h')
    exact hroom
  · exact fun hroom => ⟨limit, h, hroom⟩

theorem instantsOf_concat_self (log : List Charge) (node : List String) (key : String)
    (now : Int) :
    instantsOf (log ++ [⟨node, key, now⟩]) node =
      Function.update (instantsOf log node) key (instantsOf log node key ++ [now]) := by
  funext key'
  by_cases h : key' = key
  · subst h
    simp [instantsOf]
  · simp [instantsOf, h, Ne.symm h]

theorem instantsOf_concat_of_ne (log : List Charge) {node node' : List String} (h : node' ≠ node)
    (key : String) (now : Int) :
    instantsOf (log ++ [⟨node, key, now⟩]) node' = instantsOf log node' := by
  funext key'
  simp [instantsOf, Ne.symm h]

/-! ## Accounts follow the log -/

namespace Accounts

/-- The accounts have these limits, and their ledgers hold what is left of the log at `now`. -/
structure Follow (as : Accounts) (limits : LimitMap) (log : List Charge) (now : Int) : Prop where
  limit_eq : as.limit = limits
  records {p : List String} {limit : UsageLimit} (h : limits p = some limit) :
    (as.ledger p).Records (instantsOf log p) now limit.window
  length_le {p : List String} {limit : UsageLimit} (h : limits p = some limit) (key : String) :
    ((as.ledger p).buffer key).uses.length ≤ limit.count

variable {as : Accounts} {limits : LimitMap} {log : List Charge} {now : Int}

theorem Follow.later (h : as.Follow limits log now) {now' : Int} (hnow : now ≤ now') :
    as.Follow limits log now' where
  limit_eq := h.limit_eq
  records hlimit := (h.records hlimit).later hnow (Int.le_refl _)
  length_le := h.length_le

/-- Nothing is to be followed where nothing is recorded. -/
theorem follow_nil (hlimit : as.limit = limits) (hledger : ∀ p, as.ledger p = {}) (now : Int) :
    as.Follow limits [] now where
  limit_eq := hlimit
  records {p limit} _ := by
    rw [hledger]
    exact UsageLedger.records_empty now limit.window
  length_le {p limit} _ key := by
    rw [hledger]
    exact Nat.zero_le _

/-! ## One node -/

section
variable {l : UsageLedger} {history : String → List Int} {limit : UsageLimit}
  (h : l.Records history now limit.window) (hlen : ∀ key, (l.buffer key).uses.length ≤ limit.count)
include h hlen

theorem length_uses_prune_le (key : String) :
    ((l.prune now limit.window).buffer key).uses.length ≤ limit.count := by
  rcases UsageLedger.buffer_prune h.nodup now limit.window key with heq | ⟨heq, -⟩
  · rw [heq]
    exact hlen key
  · rw [heq]
    exact Nat.zero_le _

/-- What a ledger holds of each history fits the limit after a use, if it did before. -/
theorem length_uses_tryUse_le (key key' : String) :
    ((l.tryUse limit key now).2.buffer key').uses.length ≤ limit.count := by
  rw [UsageLedger.tryUse_eq]
  by_cases hkey : key = key'
  · subst hkey
    rw [h.prune.uses_tryUseUnpruned]
    exact length_grant_le ..
  · rw [UsageLedger.buffer_tryUseUnpruned, if_neg hkey]
    exact length_uses_prune_le h hlen key'

/-- A ledger decides on a use by the number of charges in the window, and keeps track of them. -/
theorem records_tryUse (key : String) :
    (l.tryUse limit key now).1 =
        decide (liveUses now limit.window (history key) < limit.count) ∧
      (l.tryUse limit key now).2.Records
        (Function.update history key
          (if liveUses now limit.window (history key) < limit.count then history key ++ [now]
          else history key))
        now limit.window := by
  obtain ⟨hanswer, hforgets⟩ :=
    (h.prune.forgets key).grant_of_length_le (length_uses_prune_le h hlen key) (h.sorted key)
  rw [UsageLedger.tryUse_eq, h.prune.tryUseUnpruned_fst]
  refine ⟨hanswer, h.prune.tryUseUnpruned key ?_ hforgets⟩
  split_ifs
  · exact List.Sublist.refl _
  · exact List.sublist_append_left _ _

end

/-- **A use at one node**: it is charged if the node has room. -/
theorem Follow.charge (h : as.Follow limits log now) (key : String) (p : List String) :
    (HasRoom limits log key now p ∧
      (as.charge (UsageLedger.offer key now) p).1 = true ∧
      (as.charge (UsageLedger.offer key now) p).2.Follow limits
        (log ++ [⟨p, key, now⟩]) now) ∨
    (¬ HasRoom limits log key now p ∧
      (as.charge (UsageLedger.offer key now) p).1 = false ∧
      (as.charge (UsageLedger.offer key now) p).2.Follow limits log now) := by
  cases hlimit : limits p with
  | none =>
    have hroom : ¬ HasRoom limits log key now p := by
      rintro ⟨limit, hsome, -⟩
      rw [hlimit] at hsome
      cases hsome
    have has : as.limit p = none := by rw [h.limit_eq, hlimit]
    rw [charge_of_limit_eq_none has]
    exact .inr ⟨hroom, rfl, h⟩
  | some limit =>
    have has : as.limit p = some limit := by rw [h.limit_eq, hlimit]
    have hlen := h.length_le hlimit
    obtain ⟨hanswer, hrecords⟩ := records_tryUse (h.records hlimit) hlen key
    -- The other ledgers are not touched, whatever the log says of this node.
    have hfollow : ∀ log', (as.ledger p |>.tryUse limit key now).2.Records (instantsOf log' p) now
          limit.window →
        (∀ q, q ≠ p → instantsOf log' q = instantsOf log q) →
        (as.charge (UsageLedger.offer key now) p).2.Follow limits log' now := by
      intro log' hself hother
      refine ⟨(limit_charge as p).trans h.limit_eq, fun {q} {l} hq => ?_, fun {q} {l} hq key' => ?_⟩
      · by_cases hqp : q = p
        · subst hqp
          obtain rfl := Option.some.inj (hlimit.symm.trans hq)
          rw [ledger_charge_self has]
          exact hself
        · rw [ledger_charge_of_ne has hqp, hother q hqp]
          exact h.records hq
      · by_cases hqp : q = p
        · subst hqp
          obtain rfl := Option.some.inj (hlimit.symm.trans hq)
          rw [ledger_charge_self has]
          exact length_uses_tryUse_le (h.records hlimit) hlen key key'
        · rw [ledger_charge_of_ne has hqp]
          exact h.length_le hq key'
    rw [fst_charge has, UsageLedger.offer, hanswer, hasRoom_iff hlimit]
    by_cases hroom : liveUses now limit.window (instantsOf log p key) < limit.count
    · rw [if_pos hroom, ← instantsOf_concat_self] at hrecords
      exact .inl ⟨hroom, decide_eq_true hroom,
        hfollow _ hrecords fun q hq => instantsOf_concat_of_ne log hq key now⟩
    · rw [if_neg hroom, Function.update_eq_self] at hrecords
      exact .inr ⟨hroom, decide_eq_false hroom, hfollow _ hrecords fun q _ => rfl⟩

/-- **A use at several nodes, one after the other**: the first that has room is charged. -/
theorem Follow.chargeFirst (h : as.Follow limits log now) (key : String)
    (ps : List (List String)) :
    (∃ before p after, ps = before ++ p :: after ∧ HasRoom limits log key now p ∧
      (∀ q ∈ before, ¬ HasRoom limits log key now q) ∧
      (as.chargeFirst (UsageLedger.offer key now) ps).1 = true ∧
      (as.chargeFirst (UsageLedger.offer key now) ps).2.Follow limits
        (log ++ [⟨p, key, now⟩]) now) ∨
    ((∀ q ∈ ps, ¬ HasRoom limits log key now q) ∧
      (as.chargeFirst (UsageLedger.offer key now) ps).1 = false ∧
      (as.chargeFirst (UsageLedger.offer key now) ps).2.Follow limits log
        now) := by
  induction ps generalizing as with
  | nil => exact .inr ⟨fun q hq => absurd hq List.not_mem_nil, rfl, h⟩
  | cons p ps ih =>
    rw [Accounts.chargeFirst]
    have hcharge := h.charge key p
    cases hstep : as.charge (UsageLedger.offer key now) p with
    | mk used as' =>
      rw [hstep] at hcharge
      rcases hcharge with ⟨hroom, rfl, hfollow⟩ | ⟨hroom, rfl, hfollow⟩
      · exact .inl ⟨[], p, ps, rfl, hroom, fun q hq => absurd hq List.not_mem_nil, rfl, hfollow⟩
      · rcases ih hfollow with ⟨before, p', after, rfl, hroom', hbefore, hrest⟩ | ⟨hnone, hrest⟩
        · refine .inl ⟨p :: before, p', after, rfl, hroom', fun q hq => ?_, hrest⟩
          rcases List.mem_cons.1 hq with rfl | hq
          · exact hroom
          · exact hbefore q hq
        · refine .inr ⟨fun q hq => ?_, hrest⟩
          rcases List.mem_cons.1 hq with rfl | hq
          · exact hroom
          · exact hnone q hq

end Accounts

/-! ## Runs -/

/-- The prefixes of a path, the longest first. -/
theorem pairwise_inits_reverse (p : List String) :
    p.inits.reverse.Pairwise fun q q' => q' <+: q := by
  rw [List.pairwise_reverse]
  induction p with
  | nil => exact List.pairwise_singleton _ _
  | cons s p ih =>
    rw [List.inits_cons, List.pairwise_cons]
    refine ⟨fun q _ => List.nil_prefix, List.pairwise_map.2 (ih.imp fun h => ?_)⟩
    exact (List.prefix_cons_inj s).2 h

namespace UsageTree

/-- The answers to uses, one after the other. -/
def useAll (t : UsageTree) : List Use → List Bool
  | [] => []
  | u :: us =>
    let (used, t) := t.tryUse u.key u.path u.instant
    used :: t.useAll us

theorem useAll_cons (t : UsageTree) (u : Use) (us : List Use) :
    t.useAll (u :: us) =
      (t.tryUse u.key u.path u.instant).1 :: (t.tryUse u.key u.path u.instant).2.useAll us := rfl

/-- Trees that follow the log answer as the law does. -/
theorem lawful_of_follow {limits : LimitMap} (hroot : limits [] = none) {us : List Use}
    (hsorted : us.Pairwise fun u u' => u.instant ≤ u'.instant) {t : UsageTree}
    {log : List Charge} (h : ∀ u ∈ us, t.accounts.Follow limits log u.instant) :
    Lawful limits log us (t.useAll us) := by
  induction us generalizing t log with
  | nil => exact .nil log
  | cons u us ih =>
    obtain ⟨hfirst, hsorted⟩ := List.pairwise_cons.1 hsorted
    have hne : ∀ {node}, HasRoom limits log u.key u.instant node → node ≠ [] := by
      rintro node ⟨limit, hlimit, -⟩ rfl
      rw [hroot] at hlimit
      cases hlimit
    have hmem : ∀ {node}, node <+: Dotted.segments u.path →
        node ∈ (Dotted.segments u.path).inits.reverse := by
      intro node hnode
      rwa [List.mem_reverse, List.mem_inits]
    have hstep := (h u List.mem_cons_self).chargeFirst u.key (Dotted.segments u.path).inits.reverse
    rw [← fst_tryUseBy, ← accounts_tryUseBy, ← tryUse_eq] at hstep
    rw [useAll_cons]
    rcases hstep with ⟨before, node, after, hps, hroom, hbefore, hused, hfollow⟩ |
      ⟨hnone, hused, hfollow⟩
    · have hpairwise := pairwise_inits_reverse (Dotted.segments u.path)
      rw [hps] at hpairwise
      have hnode : node <+: Dotted.segments u.path := by
        rw [← List.mem_inits, ← List.mem_reverse, hps]
        exact List.mem_append_right _ List.mem_cons_self
      rw [hused]
      refine .granted ⟨hnode, hne hroom, hroom⟩ (fun node' hgrants => ?_)
        (ih hsorted fun u' hu' => hfollow.later (hfirst u' hu'))
      -- No node before has room, and those after are further up.
      have hnode' := hmem hgrants.onPath
      rw [hps] at hnode'
      rcases List.mem_append.1 hnode' with hnode' | hnode'
      · exact absurd hgrants.hasRoom (hbefore node' hnode')
      · rcases List.mem_cons.1 hnode' with rfl | hnode'
        · exact List.prefix_rfl
        · exact (List.pairwise_cons.1 (List.pairwise_append.1 hpairwise).2.1).1 node' hnode'
    · rw [hused]
      exact .refused (fun node hgrants => hnone node (hmem hgrants.onPath) hgrants.hasRoom)
        (ih hsorted fun u' hu' => hfollow.later (hfirst u' hu'))

/-- **The answers are those of the law**, for any limits and any uses in order of time. -/
theorem lawful_useAll (changes : List LimitChange) {us : List Use}
    (hsorted : us.Pairwise fun u u' => u.instant ≤ u'.instant) :
    Lawful (LimitMap.after changes) [] us ((configured changes).useAll us) :=
  lawful_of_follow (LimitMap.after_nil changes) hsorted fun u _ =>
    Accounts.follow_nil (limit_configured changes) (ledger_configured changes) u.instant

end UsageTree

/-! ## A run with an exhausted node -/

namespace Sample

open UsageTree

/-- One use a second for a command, and one more for its group. -/
def nested : List LimitChange :=
  [.set "mods.tts" ⟨1, 1000⟩, .set "mods" ⟨1, 5000⟩]

/-- The first use is charged to the command and the second to the group, the third finds no room, and
the last comes when the command has room again. -/
def insistent : List Use :=
  [⟨"7", "mods.tts", 0⟩, ⟨"7", "mods.tts", 0⟩, ⟨"7", "mods.tts", 999⟩, ⟨"7", "mods.tts", 1000⟩]

theorem lawful_insistent :
    (insistent.Pairwise fun u u' => u.instant ≤ u'.instant) ∧
      Lawful (LimitMap.after nested) [] insistent [true, true, false, true] := by
  have hsorted : insistent.Pairwise fun u u' => u.instant ≤ u'.instant := by decide
  have hanswers : (configured nested).useAll insistent = [true, true, false, true] := by
    decide +kernel
  refine ⟨hsorted, ?_⟩
  rw [← hanswers]
  exact lawful_useAll nested hsorted

end Sample

end ChatCommands
