import ChatCommands.Proofs.Usage.Accounts

/-!
# Configuring a usage tree

Which limits a usage tree has is told by the changes that were made to it, and so is which histories
are lost: those of the nodes that are taken out, and no others.

* `LimitChange`: setting and removing limits.
* `LimitMap.change`: what a change does to the limits.
* `accounts_change`: a change does to the tree what it does to the map of accounts.
-/

namespace ChatCommands

/-- A change of the configuration. -/
inductive LimitChange where
  | set (path : String) (limit : UsageLimit)
  | remove (path : String)

/-- The limits by the segments of their nodes. -/
abbrev LimitMap := List String → Option UsageLimit

namespace LimitMap

/-- The map without limits. -/
def empty : LimitMap := fun _ => none

/-- The limits after a change. The root gets none and is never taken out. -/
def change (limits : LimitMap) : LimitChange → LimitMap
  | .set path limit => fun q =>
    if Dotted.segments path ≠ [] ∧ q = Dotted.segments path then some limit else limits q
  | .remove path => fun q =>
    if Dotted.segments path ≠ [] ∧ Dotted.segments path <+: q then none else limits q

/-- The change does not raise the window of a node that has a limit already. -/
def Narrows (limits : LimitMap) : LimitChange → Prop
  | .set path limit => ∀ old ∈ limits (Dotted.segments path), limit.window ≤ old.window
  | .remove _ => True

instance (limits : LimitMap) : (c : LimitChange) → Decidable (limits.Narrows c)
  | .set path limit =>
    inferInstanceAs (Decidable (∀ old ∈ limits (Dotted.segments path), limit.window ≤ old.window))
  | .remove _ => inferInstanceAs (Decidable True)

/-- The limits that a list of changes leaves. -/
def after (changes : List LimitChange) : LimitMap := changes.foldl change empty

end LimitMap

/-! ## Changes of the accounts -/

namespace Accounts

theorem limit_set (as : Accounts) (p q : List String) (l : UsageLimit) :
    (as.set p l).limit q = if q = p then some l else as.limit q := by
  unfold limit set
  split_ifs with h hprefix
  · rfl
  · cases as q <;> rfl
  · rfl

/-- Setting a limit touches no history. -/
theorem ledger_set (as : Accounts) (p q : List String) (l : UsageLimit) :
    (as.set p l).ledger q = as.ledger q := by
  unfold set
  by_cases h : q = p
  · subst h
    simp [ledger]
  · by_cases hprefix : q <+: p
    · cases hq : as q <;> simp [ledger, h, hprefix, hq]
    · simp [ledger, h, hprefix]

theorem limit_remove (as : Accounts) (p q : List String) :
    (as.remove p).limit q = if p ≠ [] ∧ p <+: q then none else as.limit q := by
  unfold limit remove
  split_ifs <;> rfl

theorem ledger_remove (as : Accounts) (p q : List String) :
    (as.remove p).ledger q = if p ≠ [] ∧ p <+: q then {} else as.ledger q := by
  unfold ledger remove
  split_ifs <;> rfl

theorem limit_empty (p : List String) : empty.limit p = none := by
  unfold limit empty
  split_ifs <;> rfl

theorem ledger_empty (p : List String) : empty.ledger p = {} := by
  unfold ledger empty
  split_ifs <;> rfl

/-- What a change answers, and the accounts after it. -/
def change (as : Accounts) : LimitChange → Bool × Accounts
  | .set path limit =>
    if Dotted.segments path = [] then (false, as) else (true, as.set (Dotted.segments path) limit)
  | .remove path =>
    (!(Dotted.segments path).isEmpty && (as (Dotted.segments path)).isSome,
      as.remove (Dotted.segments path))

theorem change_remove (as : Accounts) (path : String) :
    as.change (.remove path) =
      (!(Dotted.segments path).isEmpty && (as (Dotted.segments path)).isSome,
        as.remove (Dotted.segments path)) := rfl

theorem limit_change (as : Accounts) (c : LimitChange) :
    (as.change c).2.limit = LimitMap.change as.limit c := by
  funext q
  cases c with
  | set path limit =>
    by_cases h : Dotted.segments path = []
    · simp [change, LimitMap.change, h]
    · simp [change, LimitMap.change, h, limit_set]
  | remove path =>
    rw [change_remove, limit_remove]
    rfl

/-- A change leaves a history alone or loses it with its node. -/
theorem ledger_change (as : Accounts) (c : LimitChange) (q : List String) :
    (as.change c).2.ledger q = as.ledger q ∨
      ((as.change c).2.ledger q = {} ∧ (as.change c).2.limit q = none) := by
  cases c with
  | set path limit =>
    left
    by_cases h : Dotted.segments path = []
    · simp [change, h]
    · simp [change, h, ledger_set]
  | remove path =>
    rw [change_remove, ledger_remove, limit_remove]
    split_ifs
    · exact .inr ⟨rfl, rfl⟩
    · exact .inl rfl

end Accounts

/-! ## The accounts of a tree -/

namespace UsageTree

/-- The accounts of a tree. -/
def accounts (t : UsageTree) : Accounts := t.root.accounts

theorem accounts_empty : empty.accounts = Accounts.empty := UsageNode.accounts_empty

theorem limit_empty : empty.accounts.limit = LimitMap.empty := by
  rw [accounts_empty]
  funext p
  exact Accounts.limit_empty p

/-- Offers a use to the limits along the path, the deepest first, up to the first that takes it. -/
def tryUseBy (take : UsageLimit → UsageLedger → Bool × UsageLedger) (t : UsageTree)
    (path : String) : Bool × UsageTree :=
  let (used, node) := t.root.tryUseBy take (Dotted.segments path)
  (used, ⟨node⟩)

theorem tryUse_eq (t : UsageTree) (key path : String) (now : Int) :
    t.tryUse key path now = t.tryUseBy (UsageLedger.offer key now) path := by
  rw [tryUse, UsageNode.tryUse_eq, tryUseBy]

theorem fst_tryUseBy (take : UsageLimit → UsageLedger → Bool × UsageLedger) (t : UsageTree)
    (path : String) :
    (t.tryUseBy take path).1 =
      (t.accounts.chargeFirst take (Dotted.segments path).inits.reverse).1 := by
  unfold tryUseBy accounts
  rw [← UsageNode.accounts_tryUseBy]

theorem accounts_tryUseBy (take : UsageLimit → UsageLedger → Bool × UsageLedger) (t : UsageTree)
    (path : String) :
    (t.tryUseBy take path).2.accounts =
      (t.accounts.chargeFirst take (Dotted.segments path).inits.reverse).2 := by
  unfold tryUseBy accounts
  rw [← UsageNode.accounts_tryUseBy]

/-- Uses leave the limits as they are. -/
theorem limit_tryUse (t : UsageTree) (key path : String) (now : Int) :
    (t.tryUse key path now).2.accounts.limit = t.accounts.limit := by
  rw [tryUse_eq, accounts_tryUseBy, Accounts.limit_chargeFirst]

/-! ## Changes -/

/-- Makes a change, and tells whether there was anything to change. -/
def change (t : UsageTree) : LimitChange → Bool × UsageTree
  | .set path limit =>
    match t.set? path limit with
    | some t => (true, t)
    | none => (false, t)
  | .remove path =>
    match t.remove? path with
    | some t => (true, t)
    | none => (false, t)

section
variable (t : UsageTree) (path : String)

theorem change_remove_of_eq_none (h : t.root.remove? (Dotted.segments path) = none) :
    t.change (.remove path) = (false, t) := by
  simp only [change, remove?, h, Option.map_none]

theorem change_remove_of_eq_some {n : UsageNode}
    (h : t.root.remove? (Dotted.segments path) = some n) :
    t.change (.remove path) = (true, ⟨n⟩) := by
  simp only [change, remove?, h, Option.map_some]

theorem accounts_change_remove :
    ((t.change (.remove path)).1, (t.change (.remove path)).2.accounts) =
      t.accounts.change (.remove path) := by
  have haccounts := UsageNode.accounts_remove? (Dotted.segments path) t.root
  have hsome := UsageNode.isSome_remove? (Dotted.segments path) t.root
  rw [Accounts.change_remove]
  cases hroot : t.root.remove? (Dotted.segments path) with
  | none =>
    rw [change_remove_of_eq_none t path hroot]
    rw [hroot] at haccounts hsome
    rw [accounts, ← hsome, ← haccounts]
    rfl
  | some n =>
    rw [change_remove_of_eq_some t path hroot]
    rw [hroot] at haccounts hsome
    rw [accounts, accounts, ← hsome, ← haccounts]
    rfl

end

/-- **A change does to the tree what it does to the accounts.** -/
theorem accounts_change (t : UsageTree) (c : LimitChange) :
    ((t.change c).1, (t.change c).2.accounts) = t.accounts.change c := by
  cases c with
  | set path limit =>
    unfold change set? Accounts.change
    by_cases h : Dotted.segments path = []
    · simp [h]
    · have := UsageNode.accounts_set limit (Dotted.segments path) t.root
      simp [h, accounts, this]
  | remove path => exact accounts_change_remove t path

theorem fst_change (t : UsageTree) (c : LimitChange) :
    (t.change c).1 = (t.accounts.change c).1 := by
  rw [← accounts_change]

theorem accounts_change_snd (t : UsageTree) (c : LimitChange) :
    (t.change c).2.accounts = (t.accounts.change c).2 := by
  rw [← accounts_change]

theorem snd_change_set (t : UsageTree) (path : String) (l : UsageLimit) :
    (t.change (.set path l)).2 = t.set path l := by
  rw [change, set]
  cases t.set? path l <;> rfl

theorem limit_set (t : UsageTree) (path : String) (l : UsageLimit) :
    (t.set path l).accounts.limit = LimitMap.change t.accounts.limit (.set path l) := by
  rw [← snd_change_set, accounts_change_snd, Accounts.limit_change]

/-- Setting a limit keeps all histories. -/
theorem ledger_set (t : UsageTree) (path : String) (l : UsageLimit) (q : List String) :
    (t.set path l).accounts.ledger q = t.accounts.ledger q := by
  rw [← snd_change_set, accounts_change_snd, Accounts.change]
  split_ifs
  · rfl
  · exact Accounts.ledger_set ..

/-- The tree that a list of changes leaves. -/
def configured (changes : List LimitChange) : UsageTree :=
  changes.foldl (fun t c => (t.change c).2) empty

theorem limit_configured (changes : List LimitChange) :
    (configured changes).accounts.limit = LimitMap.after changes := by
  have hfold : ∀ t : UsageTree,
      (changes.foldl (fun t c => (t.change c).2) t).accounts.limit =
        changes.foldl LimitMap.change t.accounts.limit := by
    induction changes with
    | nil => exact fun _ => rfl
    | cons c changes ih =>
      intro t
      rw [List.foldl_cons, ih, accounts_change_snd, Accounts.limit_change, List.foldl_cons]
  rw [configured, hfold, limit_empty, LimitMap.after]

/-- Nothing is recorded before the first use. -/
theorem ledger_configured (changes : List LimitChange) (p : List String) :
    (configured changes).accounts.ledger p = {} := by
  have hfold : ∀ t : UsageTree, (∀ p, t.accounts.ledger p = {}) →
      (changes.foldl (fun t c => (t.change c).2) t).accounts.ledger p = {} := by
    induction changes with
    | nil => exact fun t h => h p
    | cons c changes ih =>
      intro t h
      refine ih _ fun q => ?_
      rw [accounts_change_snd]
      rcases t.accounts.ledger_change c q with heq | ⟨heq, -⟩
      · exact heq.trans (h q)
      · exact heq
  exact hfold empty fun p => by rw [accounts_empty, Accounts.ledger_empty]

end UsageTree

/-- The root never gets a limit. -/
theorem LimitMap.change_nil {limits : LimitMap} (h : limits [] = none) (c : LimitChange) :
    limits.change c [] = none := by
  cases c with
  | set path limit =>
    refine (if_neg ?_).trans h
    rintro ⟨hne, heq⟩
    exact hne heq.symm
  | remove path =>
    unfold change
    dsimp only
    split_ifs
    · rfl
    · exact h

theorem LimitMap.after_nil (changes : List LimitChange) : after changes [] = none := by
  have hfold : ∀ limits : LimitMap, limits [] = none → changes.foldl change limits [] = none := by
    induction changes with
    | nil => exact fun _ h => h
    | cons c changes ih => exact fun limits h => ih _ (change_nil h c)
  exact hfold empty rfl

end ChatCommands
