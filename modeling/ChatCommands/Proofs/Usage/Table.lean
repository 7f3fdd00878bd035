import ChatCommands.Proofs.Usage.Count
import ChatCommands.Proofs.Usage.Pruning
import ChatCommands.Proofs.Usage.Recording
import ChatCommands.Proofs.Usage.WindowLaw

/-!
# The usage tree as a table

One tree holds nodes, limits and histories, and every operation has to keep two of the three. To its
users it is a table of nodes and limits, in which the longest configured prefix of a path counts, and
the histories come and go with the nodes.

* `LimitTable`: the tables, on which every operation is one line. Uses do not show in them.
* `UsageTree.Shows`: a tree has the nodes and limits of a table.
* `Shows.perform`: an operation does to the tree what it does to the table.

**Theorem (`maintains_after`).** After any operations the tree has the table that they make and answers
as the table says. Setting a limit touches no history, not even that of a node which had a limit before.
Removal takes out the histories at and below its path, and no others.
-/

namespace ChatCommands

/-! ## Tables -/

namespace LimitMap

/-- `l` is the limit of the longest prefix of `p` that has one, and `none` if none has. The root does
not count. -/
def Governs (limits : LimitMap) (p : List String) (l : Option UsageLimit) : Prop :=
  (l = none ∧ ∀ r, r ≠ [] → r <+: p → limits r = none) ∨
    ∃ r, r ≠ [] ∧ r <+: p ∧ limits r = l ∧ r ∈ limits.configured ∧
      ∀ r', r' <+: p → r' ∈ limits.configured → r'.length ≤ r.length

/-- The limit of the longest prefix of `p` that has one. -/
def nearest (limits : LimitMap) (p : List String) : Option UsageLimit :=
  p.inits.reverse.findSome? limits

variable {limits : LimitMap} {p : List String}

/-- The limits below the first segment come before that of the root. -/
theorem nearest_cons (limits : LimitMap) (s : String) (p : List String) :
    limits.nearest (s :: p) = (nearest (fun q => limits (s :: q)) p <|> limits []) := by
  have hinits : (s :: p).inits.reverse = p.inits.reverse.map (s :: ·) ++ [[]] := by
    simp [List.map_reverse]
  rw [nearest, hinits, List.findSome?_append, List.findSome?_map]
  cases h : limits [] <;> simp [h, nearest, Function.comp_def]

theorem nearest_eq_none_iff : limits.nearest p = none ↔ ∀ r, r <+: p → limits r = none := by
  simp [nearest]

theorem governs_nearest (hroot : limits [] = none) : limits.Governs p (limits.nearest p) := by
  cases h : limits.nearest p with
  | none => exact .inl ⟨rfl, fun r _ => nearest_eq_none_iff.1 h r⟩
  | some l =>
    obtain ⟨longer, r, shorter, hsplit, hr, hlonger⟩ := List.findSome?_eq_some_iff.1 h
    have hmem : ∀ r', r' <+: p ↔ r' ∈ longer ++ r :: shorter := by
      intro r'
      rw [← hsplit, List.mem_reverse, List.mem_inits]
    have hpairwise := pairwise_inits_reverse p
    rw [hsplit] at hpairwise
    have hshorter := (List.pairwise_cons.1 (List.pairwise_append.1 hpairwise).2.1).1
    refine .inr ⟨r, ?_, (hmem r).2 (by simp), hr, ?_, fun r' hr' hset => ?_⟩
    · rintro rfl
      rw [hroot] at hr
      cases hr
    · rw [mem_configured, hr]
      rfl
    · rcases List.mem_append.1 ((hmem r').1 hr') with hr' | hr'
      · rw [mem_configured, hlonger r' hr'] at hset
        cases hset
      · rcases List.mem_cons.1 hr' with rfl | hr'
        · exact le_rfl
        · exact (hshorter r' hr').length_le

end LimitMap

/-- The nodes that exist, the root aside, and the limits at them, by the segments that lead there. -/
@[ext]
structure LimitTable where
  nodes : Set (List String)
  limits : LimitMap
  nil_not_mem : [] ∉ nodes
  mem_of_prefix : ∀ {p q}, q ∈ nodes → p ≠ [] → p <+: q → p ∈ nodes
  mem_of_configured : ∀ {p}, p ∈ limits.configured → p ∈ nodes

namespace LimitTable

/-- **The root never carries a limit.** -/
theorem limits_nil (T : LimitTable) : T.limits [] = none := by
  by_contra h
  exact T.nil_not_mem (T.mem_of_configured (Option.isSome_iff_ne_none.2 h))

/-- The table without nodes. -/
def empty : LimitTable where
  nodes := ∅
  limits := .empty
  nil_not_mem h := h
  mem_of_prefix h := nomatch h
  mem_of_configured h := nomatch h

/-- The table with the node that `path` leads to, what leads there, and the limit at that node. -/
def set (T : LimitTable) (path : String) (l : UsageLimit) : LimitTable where
  nodes := {q | q ∈ T.nodes ∨ (q ≠ [] ∧ q <+: Dotted.segments path)}
  limits := T.limits.change (.set path l)
  nil_not_mem h := h.elim T.nil_not_mem fun h => h.1 rfl
  mem_of_prefix hq hne hp := hq.imp (T.mem_of_prefix · hne hp) fun h => ⟨hne, hp.trans h.2⟩
  mem_of_configured {q} hq := by
    rw [LimitMap.mem_configured, LimitMap.change] at hq
    dsimp only at hq
    split_ifs at hq with h
    · right
      rw [h.2]
      exact ⟨h.1, List.prefix_rfl⟩
    · exact .inl (T.mem_of_configured hq)

/-- The table without the node that `path` leads to and all below it. -/
def remove (T : LimitTable) (path : String) : LimitTable where
  nodes := {q | q ∈ T.nodes ∧ ¬ (Dotted.segments path ≠ [] ∧ Dotted.segments path <+: q)}
  limits := T.limits.change (.remove path)
  nil_not_mem h := T.nil_not_mem h.1
  mem_of_prefix hq hne hr := ⟨T.mem_of_prefix hq.1 hne hr, fun h => hq.2 ⟨h.1, h.2.trans hr⟩⟩
  mem_of_configured {q} hq := by
    rw [LimitMap.mem_configured, LimitMap.change] at hq
    dsimp only at hq
    split_ifs at hq with h
    · cases hq
    · exact ⟨T.mem_of_configured hq, h⟩

/-- The table after an operation. -/
def perform (T : LimitTable) : UsageOperation → LimitTable
  | .change (.set path l) => T.set path l
  | .change (.remove path) => T.remove path
  | .clear => empty
  | .use .. | .useGroups .. => T

/-- The table that a list of operations makes. -/
def after (ops : List UsageOperation) : LimitTable := ops.foldl perform empty

theorem limits_perform (T : LimitTable) (op : UsageOperation) :
    (T.perform op).limits = op.onLimits T.limits := by
  cases op with
  | change c => cases c <;> rfl
  | _ => rfl

end LimitTable

/-! ## Nodes -/

namespace Accounts

/-- The paths that lead to a node. -/
def nodes (as : Accounts) : Set (List String) := {p | (as p).isSome}

theorem mem_nodes {as : Accounts} {p : List String} : p ∈ as.nodes ↔ (as p).isSome := Iff.rfl

theorem mem_nodes_of_configured {as : Accounts} {p : List String}
    (h : p ∈ LimitMap.configured as.limit) : p ∈ as.nodes :=
  Option.isSome_of_isSome_bind h

theorem ledger_of_not_mem_nodes {as : Accounts} {p : List String} (h : p ∉ as.nodes) :
    as.ledger p = {} := by
  have hnone : as p = none := by simpa [mem_nodes] using h
  rw [ledger, hnone]
  rfl

theorem mem_nodes_empty {p : List String} : p ∈ empty.nodes ↔ p = [] := by
  rw [mem_nodes, empty]
  split_ifs with h <;> simp [h]

theorem mem_nodes_set (as : Accounts) (p q : List String) (l : UsageLimit) :
    q ∈ (as.set p l).nodes ↔ q ∈ as.nodes ∨ q <+: p := by
  rw [mem_nodes, mem_nodes, set]
  split_ifs with heq hway
  · simp [heq]
  · simp [hway]
  · simp [hway]

theorem mem_nodes_remove (as : Accounts) (p q : List String) :
    q ∈ (as.remove p).nodes ↔ q ∈ as.nodes ∧ ¬ (p ≠ [] ∧ p <+: q) := by
  rw [mem_nodes, mem_nodes, remove]
  split_ifs with h <;> simp [h]

variable {take : UsageLimit → UsageLedger → Bool × UsageLedger}

/-- A use is charged to a node that is there. -/
theorem nodes_charge (as : Accounts) (p : List String) :
    (as.charge take p).2.nodes = as.nodes := by
  cases h : as.limit p with
  | none => rw [charge_of_limit_eq_none h]
  | some limit =>
    have hp : (as p).isSome :=
      mem_nodes_of_configured (by rw [LimitMap.mem_configured, h]; rfl)
    ext q
    rw [charge, h, mem_nodes, mem_nodes]
    by_cases hq : q = p
    · subst hq
      simpa using hp
    · simp [hq]

theorem nodes_chargeFirst (as : Accounts) (ps : List (List String)) :
    (as.chargeFirst take ps).2.nodes = as.nodes := by
  induction ps generalizing as with
  | nil => rfl
  | cons p ps ih =>
    have hnodes : (as.charge take p).2.nodes = as.nodes := nodes_charge as p
    rw [chargeFirst]
    cases hstep : as.charge take p with
    | mk used as' =>
      rw [hstep] at hnodes
      cases used with
      | true => exact hnodes
      | false => exact (ih as').trans hnodes

end Accounts

namespace UsageNode

/-- **The search along the segments finds the limit of the longest prefix that has one.** -/
theorem limitFor_eq_nearest (p : List String) (n : UsageNode) :
    n.limitFor p = LimitMap.nearest n.accounts.limit p := by
  induction p generalizing n with
  | nil => simp [limitFor, LimitMap.nearest, Accounts.limit, accounts_nil]
  | cons s p ih =>
    have hnil : n.accounts.limit [] = n.limit := rfl
    rw [limitFor, LimitMap.nearest_cons, hnil]
    simp only [limit_cons]
    cases hs : Assoc.get? s n.children with
    | none =>
      have hnone : LimitMap.nearest (fun _ => none) p = none := by
        rw [LimitMap.nearest_eq_none_iff]
        intro r _
        rfl
      simp [hnone]
    | some child =>
      dsimp only [Option.bind_some]
      rw [ih]

end UsageNode

/-! ## The table of a tree -/

namespace UsageTree

theorem nodes_tryUse (t : UsageTree) (key path : String) (now : Int) :
    (t.tryUse key path now).2.accounts.nodes = t.accounts.nodes := by
  rw [tryUse_eq, accounts_tryUseBy, Accounts.nodes_chargeFirst]

theorem nodes_tryUseInOrder (t : UsageTree) (key suffix : String) (now : Int)
    (groups : List String) :
    (t.tryUseInOrder key suffix now groups).2.accounts.nodes = t.accounts.nodes := by
  induction groups generalizing t with
  | nil => rfl
  | cons group groups ih =>
    have hnodes := t.nodes_tryUse key (Dotted.below group suffix) now
    rw [tryUseInOrder]
    cases hstep : t.tryUse key (Dotted.below group suffix) now with
    | mk used t' =>
      rw [hstep] at hnodes
      cases used with
      | true => exact hnodes
      | false => exact (ih t').trans hnodes

/-- The tree has the nodes and the limits of the table. -/
structure Shows (t : UsageTree) (T : LimitTable) : Prop where
  mem_nodes : ∀ p, p ∈ T.nodes ↔ p ≠ [] ∧ p ∈ t.accounts.nodes
  limits_eq : T.limits = t.accounts.limit

theorem shows_empty : empty.Shows .empty where
  mem_nodes p := by
    rw [accounts_empty, Accounts.mem_nodes_empty]
    exact iff_of_false id fun h => h.1 h.2
  limits_eq := limit_empty.symm

theorem Shows.mem_nodes_change {t : UsageTree} {T : LimitTable} (h : t.Shows T) (c : LimitChange)
    (q : List String) :
    q ∈ (T.perform (.change c)).nodes ↔ q ≠ [] ∧ q ∈ (t.change c).2.accounts.nodes := by
  rw [accounts_change_snd]
  cases c with
  | set path l =>
    show (q ∈ T.nodes ∨ (q ≠ [] ∧ q <+: Dotted.segments path)) ↔ _
    rw [h.mem_nodes, ← and_or_left]
    apply and_congr_right
    intro hq
    by_cases hroot : Dotted.segments path = []
    · simp [Accounts.change, hroot, hq]
    · simpa [Accounts.change, hroot] using (Accounts.mem_nodes_set t.accounts _ q l).symm
  | remove path =>
    show (q ∈ T.nodes ∧ ¬ (Dotted.segments path ≠ [] ∧ Dotted.segments path <+: q)) ↔ _
    rw [h.mem_nodes, Accounts.change_remove, Accounts.mem_nodes_remove, and_assoc]

/-- **An operation does to the tree what it does to the table**; uses do nothing to it. -/
theorem Shows.perform {t : UsageTree} {T : LimitTable} (h : t.Shows T) (op : UsageOperation) :
    (t.perform op).2.Shows (T.perform op) where
  mem_nodes p := by
    cases op with
    | change c => exact h.mem_nodes_change c p
    | clear => exact shows_empty.mem_nodes p
    | use key path now =>
      show _ ↔ _ ∧ p ∈ (t.tryUse key path now).2.accounts.nodes
      rw [nodes_tryUse]
      exact h.mem_nodes p
    | useGroups key groups suffix now =>
      show _ ↔ _ ∧ p ∈ (t.tryUseInOrder key suffix now groups.members).2.accounts.nodes
      rw [nodes_tryUseInOrder]
      exact h.mem_nodes p
  limits_eq := by rw [LimitTable.limits_perform, limit_perform, h.limits_eq]

/-- The tree that a list of operations leaves. -/
def after (ops : List UsageOperation) : UsageTree := ops.foldl (fun t op => (t.perform op).2) empty

theorem shows_after (ops : List UsageOperation) : (after ops).Shows (.after ops) := by
  have hfold : ∀ (t : UsageTree) (T : LimitTable), t.Shows T →
      (ops.foldl (fun t op => (t.perform op).2) t).Shows (ops.foldl LimitTable.perform T) := by
    induction ops with
    | nil => exact fun _ _ h => h
    | cons op ops ih => exact fun _ _ h => ih _ _ (h.perform op)
  exact hfold empty .empty shows_empty

theorem wellKeyed_tryUseInOrder {t : UsageTree} (h : t.root.WellKeyed) (key suffix : String)
    (now : Int) (groups : List String) :
    (t.tryUseInOrder key suffix now groups).2.root.WellKeyed := by
  induction groups generalizing t with
  | nil => exact h
  | cons group groups ih =>
    have huse : (t.tryUse key (Dotted.below group suffix) now).2.root.WellKeyed :=
      h.tryUse key now _
    rw [tryUseInOrder]
    cases hstep : t.tryUse key (Dotted.below group suffix) now with
    | mk used t' =>
      rw [hstep] at huse
      cases used with
      | true => exact huse
      | false => exact ih huse

theorem wellKeyed_perform {t : UsageTree} (h : t.root.WellKeyed) (op : UsageOperation) :
    (t.perform op).2.root.WellKeyed := by
  cases op with
  | change c =>
    cases c with
    | set path l =>
      simp only [perform, change, set?]
      split_ifs
      · exact h
      · exact h.set l _
    | remove path =>
      rw [perform]
      cases hroot : t.root.remove? (Dotted.segments path) with
      | none =>
        rw [change_remove_of_eq_none t path hroot]
        exact h
      | some n =>
        rw [change_remove_of_eq_some t path hroot]
        exact h.remove? hroot
  | clear => exact .empty
  | use key path now => exact h.tryUse key now _
  | useGroups key groups suffix now => exact wellKeyed_tryUseInOrder h key suffix now groups.members

theorem wellKeyed_after (ops : List UsageOperation) : (after ops).root.WellKeyed := by
  have hfold : ∀ t : UsageTree, t.root.WellKeyed →
      (ops.foldl (fun t op => (t.perform op).2) t).root.WellKeyed := by
    induction ops with
    | nil => exact fun _ h => h
    | cons op ops ih => exact fun t h => ih _ (wellKeyed_perform h op)
  exact hfold empty .empty

/-! ## What the tree answers and keeps -/

theorem limitFor_eq_nearest (t : UsageTree) (path : String) :
    t.limitFor path = LimitMap.nearest t.accounts.limit (Dotted.segments path) :=
  UsageNode.limitFor_eq_nearest ..

/-- **No use of a path is granted where no limit governs it.** -/
theorem tryUse_of_limitFor_eq_none {t : UsageTree} {path : String} (h : t.limitFor path = none)
    (key : String) (now : Int) : (t.tryUse key path now).1 = false := by
  rw [limitFor_eq_nearest, LimitMap.nearest_eq_none_iff] at h
  have hall : ∀ p ∈ (Dotted.segments path).inits.reverse, t.accounts.limit p = none := by
    intro p hp
    rw [List.mem_reverse, List.mem_inits] at hp
    exact h p hp
  rw [tryUse_eq, fst_tryUseBy, Accounts.chargeFirst_of_limit_eq_none hall]

/-- Setting a limit is refused where the path has no segment, and nowhere else. -/
theorem perform_set_eq_false_iff {t : UsageTree} {path : String} {l : UsageLimit} :
    (t.perform (.change (.set path l))).1 = false ↔ Dotted.segments path = [] := by
  show (t.change (.set path l)).1 = false ↔ _
  rw [fst_change, Accounts.change]
  split_ifs with h <;> simp [h]

theorem perform_set_of_segments_eq_nil {t : UsageTree} {path : String} (l : UsageLimit)
    (h : Dotted.segments path = []) : t.perform (.change (.set path l)) = (false, t) := by
  simp [perform, change, set?, h]

/-- There is something to remove where the path leads to a node. -/
theorem Shows.perform_remove_eq_true_iff {t : UsageTree} {T : LimitTable} (h : t.Shows T)
    (path : String) :
    (t.perform (.change (.remove path))).1 = true ↔ Dotted.segments path ∈ T.nodes := by
  show (t.change (.remove path)).1 = true ↔ _
  rw [fst_change, Accounts.change_remove, h.mem_nodes, Accounts.mem_nodes]
  simp

theorem ledger_perform_set (t : UsageTree) (path : String) (l : UsageLimit) (q : List String) :
    (t.perform (.change (.set path l))).2.accounts.ledger q = t.accounts.ledger q := by
  show (t.change (.set path l)).2.accounts.ledger q = _
  rw [snd_change_set, ledger_set]

theorem ledger_perform_remove (t : UsageTree) (path : String) (q : List String) :
    (t.perform (.change (.remove path))).2.accounts.ledger q =
      if Dotted.segments path ≠ [] ∧ Dotted.segments path <+: q then {}
      else t.accounts.ledger q := by
  show (t.change (.remove path)).2.accounts.ledger q = _
  rw [accounts_change_snd, Accounts.change_remove, Accounts.ledger_remove]

/-- The tree has the nodes and limits of the table, answers as the table says, and keeps its histories
with the nodes. What an operation does to nodes and limits is in the table after it. -/
structure Maintains (t : UsageTree) (T : LimitTable) : Prop where
  shows_table : t.Shows T
  governs_limitFor : ∀ path, T.limits.Governs (Dotted.segments path) (t.limitFor path)
  finite_configured : T.limits.configured.Finite
  limitCount_eq : t.limitCount = T.limits.configured.ncard
  shows_perform : ∀ op, (t.perform op).2.Shows (T.perform op)
  /-- Only the root refuses a limit, and then nothing changes at all. -/
  set_eq_false : ∀ path l,
    (t.perform (.change (.set path l))).1 = false ↔ Dotted.segments path = []
  set_unchanged : ∀ path l, Dotted.segments path = [] →
    (t.perform (.change (.set path l))).2 = t
  /-- Setting a limit keeps all histories, those at its own node included. -/
  ledger_set : ∀ path l q,
    (t.perform (.change (.set path l))).2.accounts.ledger q = t.accounts.ledger q
  remove_eq_true : ∀ path,
    (t.perform (.change (.remove path))).1 = true ↔ Dotted.segments path ∈ T.nodes
  /-- Removal loses the histories at its node and below, and no others. -/
  ledger_remove : ∀ path q, (t.perform (.change (.remove path))).2.accounts.ledger q =
    if Dotted.segments path ≠ [] ∧ Dotted.segments path <+: q then {} else t.accounts.ledger q
  /-- A node that is taken out and made again starts without a history. -/
  ledger_remove_set : ∀ path l, Dotted.segments path ≠ [] →
    ((t.perform (.change (.remove path))).2.perform (.change (.set path l))).2.accounts.ledger
      (Dotted.segments path) = {}
  /-- There is no history without a node. -/
  ledger_eq_empty : ∀ q, q ≠ [] → q ∉ T.nodes → t.accounts.ledger q = {}
  tryUse_eq_false : ∀ key path now, t.limitFor path = none → (t.tryUse key path now).1 = false

/-- **The usage tree is a table of limits in which the longest prefix counts, and its histories follow
the nodes**, whatever was done to it. -/
theorem maintains_after (ops : List UsageOperation) :
    (after ops).Maintains (LimitTable.after ops) := by
  have hshows := shows_after ops
  have hcount := UsageNode.ncard_configured (wellKeyed_after ops)
  generalize after ops = t at hshows hcount
  generalize LimitTable.after ops = T at hshows
  rw [UsageNode.configured, ← accounts, ← hshows.limits_eq] at hcount
  refine ⟨hshows, fun path => ?_, hcount.1, hcount.2.symm, hshows.perform,
    fun _ _ => perform_set_eq_false_iff, fun path l hnil => ?_, t.ledger_perform_set,
    hshows.perform_remove_eq_true_iff, t.ledger_perform_remove, fun path l hne => ?_,
    fun q hq hnode => ?_, fun key path now h => tryUse_of_limitFor_eq_none h key now⟩
  · rw [limitFor_eq_nearest, ← hshows.limits_eq]
    exact LimitMap.governs_nearest T.limits_nil
  · rw [perform_set_of_segments_eq_nil l hnil]
  · rw [ledger_perform_set, ledger_perform_remove, if_pos ⟨hne, List.prefix_rfl⟩]
  · apply Accounts.ledger_of_not_mem_nodes
    intro hmem
    exact hnode ((hshows.mem_nodes q).2 ⟨hq, hmem⟩)

-- A path that runs past the nodes, and a node on the way to a limit that has none itself.
example :
    let t := after [.change (.set "mods.tts.add" ⟨1, 1000⟩), .change (.set "mods" ⟨2, 1000⟩),
      .use "7" "mods.tts.add" 0, .use "7" "mods.tts.add" 0]
    t.limitFor "mods.tts.now" = some ⟨2, 1000⟩ ∧ t.limitCount = 2 ∧
      t.accounts.uses ["mods"] "7" = [0] ∧ (t.remove? "mods.tts").isSome := by
  decide +kernel

end UsageTree

end ChatCommands
