import Mathlib.Data.List.Infix
import Mathlib.Logic.Function.Basic
import ChatCommands.Usage.Tree

/-!
# The accounts of a usage tree

A usage tree is a map from paths, as lists of segments, to accounts: the limit of a node, if it has
one, and its ledger. On this map the operations are what they should be:

* `accounts_set`, `accounts_remove?`: a limit is set at one path, with nodes on the way there; removal
  takes out all that lies at a path and below;
* `accounts_tryUseBy`: a use is offered to the prefixes of its path, the longest first, up to the first
  that takes it.

How a ledger takes a use is left open (`take`), since pruning does not matter to the tree.
-/

namespace ChatCommands

/-- How a ledger takes a use by `key` at `now`. -/
def UsageLedger.offer (key : String) (now : Int) (limit : UsageLimit) (l : UsageLedger) :
    Bool × UsageLedger :=
  l.tryUse limit key now

/-- What stands at a node of a usage tree. -/
structure Account where
  limit : Option UsageLimit := none
  ledger : UsageLedger := {}

/-- The accounts by the segments of their nodes, `none` where there is no node. -/
abbrev Accounts := List String → Option Account

namespace Accounts

/-- The accounts of the root alone. -/
def empty : Accounts := fun p => if p = [] then some {} else none

def limit (as : Accounts) (p : List String) : Option UsageLimit := (as p).bind Account.limit

/-- The ledger at `p`, empty where there is no node. -/
def ledger (as : Accounts) (p : List String) : UsageLedger := ((as p).map Account.ledger).getD {}

/-- The accounts with a limit set at `p`. The nodes above `p` come about with it. -/
def set (as : Accounts) (p : List String) (l : UsageLimit) : Accounts := fun q =>
  if q = p then some ⟨some l, as.ledger p⟩
  else if q <+: p then some ((as q).getD {})
  else as q

/-- The accounts without those at `p` and below. The root cannot be taken out. -/
def remove (as : Accounts) (p : List String) : Accounts := fun q =>
  if p ≠ [] ∧ p <+: q then none else as q

/-- Offers a use to the limit at `p`, where there is one. -/
def charge (take : UsageLimit → UsageLedger → Bool × UsageLedger) (p : List String)
    (as : Accounts) : Bool × Accounts :=
  match as.limit p with
  | none => (false, as)
  | some limit =>
    let (used, ledger) := take limit (as.ledger p)
    (used, Function.update as p (some ⟨some limit, ledger⟩))

/-- Offers a use to the limits at these paths, up to the first that takes it. -/
def chargeFirst (take : UsageLimit → UsageLedger → Bool × UsageLedger) :
    List (List String) → Accounts → Bool × Accounts
  | [], as => (false, as)
  | p :: ps, as =>
    match as.charge take p with
    | (true, as) => (true, as)
    | (false, as) => chargeFirst take ps as

variable {take : UsageLimit → UsageLedger → Bool × UsageLedger}

theorem charge_of_limit_eq_none {as : Accounts} {p : List String} (h : as.limit p = none) :
    as.charge take p = (false, as) := by
  rw [charge, h]

section
variable {as : Accounts} {p : List String} {limit : UsageLimit} (h : as.limit p = some limit)
include h

theorem fst_charge : (as.charge take p).1 = (take limit (as.ledger p)).1 := by
  rw [charge, h]

theorem ledger_charge_self : (as.charge take p).2.ledger p = (take limit (as.ledger p)).2 := by
  rw [charge, h]
  simp [ledger]

theorem ledger_charge_of_ne {q : List String} (hq : q ≠ p) :
    (as.charge take p).2.ledger q = as.ledger q := by
  rw [charge, h]
  simp [ledger, hq]

end

/-- Uses leave the limits as they are. -/
theorem limit_charge (as : Accounts) (p : List String) : (as.charge take p).2.limit = as.limit := by
  cases h : as.limit p with
  | none => rw [charge_of_limit_eq_none h]
  | some limit =>
    funext q
    rw [charge, h]
    by_cases hq : q = p
    · subst hq
      simpa [Accounts.limit] using h.symm
    · simp [Accounts.limit, hq]

theorem limit_chargeFirst (as : Accounts) (ps : List (List String)) :
    (as.chargeFirst take ps).2.limit = as.limit := by
  induction ps generalizing as with
  | nil => rfl
  | cons p ps ih =>
    have hlimit : (as.charge take p).2.limit = as.limit := limit_charge as p
    rw [chargeFirst]
    cases hstep : as.charge take p with
    | mk used as' =>
      rw [hstep] at hlimit
      cases used with
      | true => exact hlimit
      | false => exact (ih as').trans hlimit

/-- Offering a use to more paths goes on where the first ones refused. -/
theorem chargeFirst_append (ps qs : List (List String)) (as : Accounts) :
    as.chargeFirst take (ps ++ qs) =
      if (as.chargeFirst take ps).1 then as.chargeFirst take ps
      else (as.chargeFirst take ps).2.chargeFirst take qs := by
  induction ps generalizing as with
  | nil => rfl
  | cons p ps ih =>
    rw [List.cons_append, chargeFirst, chargeFirst]
    cases as.charge take p with
    | mk used as =>
      cases used with
      | true => rfl
      | false => exact ih as

/-! ## Subtrees -/

/-- The accounts below the segment `s`. -/
def below (as : Accounts) (s : String) : Accounts := fun q => as (s :: q)

/-- The accounts with those below `s` replaced. -/
def graft (as : Accounts) (s : String) (bs : Accounts) : Accounts
  | [] => as []
  | s' :: q => if s = s' then bs q else as (s' :: q)

theorem graft_below (as : Accounts) (s : String) : as.graft s (as.below s) = as := by
  funext q
  cases q with
  | nil => rfl
  | cons s' q =>
    by_cases h : s = s'
    · subst h
      exact if_pos rfl
    · exact if_neg h

theorem below_graft (as bs : Accounts) (s : String) : (as.graft s bs).below s = bs := by
  funext q
  exact if_pos rfl

theorem graft_graft (as bs cs : Accounts) (s : String) :
    (as.graft s bs).graft s cs = as.graft s cs := by
  funext q
  cases q with
  | nil => rfl
  | cons s' q =>
    simp only [graft]
    split <;> rfl

theorem graft_update (as : Accounts) (s : String) (p : List String) (a : Option Account) :
    as.graft s (Function.update (as.below s) p a) = Function.update as (s :: p) a := by
  funext q
  cases q with
  | nil => rw [Function.update_of_ne (List.cons_ne_nil _ _).symm]; rfl
  | cons s' q =>
    by_cases h : s = s'
    · subst h
      by_cases hq : q = p <;> simp [graft, hq, below]
    · simp [graft, h, Ne.symm h]

theorem charge_cons (as : Accounts) (s : String) (p : List String) :
    as.charge take (s :: p) =
      (((as.below s).charge take p).1, as.graft s ((as.below s).charge take p).2) := by
  have hlimit : (as.below s).limit p = as.limit (s :: p) := rfl
  have hledger : (as.below s).ledger p = as.ledger (s :: p) := rfl
  unfold charge
  rw [hlimit, hledger]
  cases as.limit (s :: p) with
  | none => rw [graft_below]
  | some limit => rw [graft_update]

/-- Paths below one segment only concern the accounts there. -/
theorem chargeFirst_map_cons (as : Accounts) (s : String) (ps : List (List String)) :
    as.chargeFirst take (ps.map (s :: ·)) =
      (((as.below s).chargeFirst take ps).1, as.graft s ((as.below s).chargeFirst take ps).2) := by
  induction ps generalizing as with
  | nil => rw [chargeFirst, graft_below]; rfl
  | cons p ps ih =>
    rw [List.map_cons, chargeFirst, charge_cons, chargeFirst]
    cases (as.below s).charge take p with
    | mk used bs =>
      cases used with
      | true => rfl
      | false =>
        dsimp only
        rw [ih, below_graft, graft_graft]

theorem chargeFirst_of_limit_eq_none {as : Accounts} {ps : List (List String)}
    (h : ∀ p ∈ ps, as.limit p = none) : as.chargeFirst take ps = (false, as) := by
  induction ps with
  | nil => rfl
  | cons p ps ih =>
    rw [chargeFirst, charge_of_limit_eq_none (h p List.mem_cons_self)]
    exact ih fun q hq => h q (List.mem_cons_of_mem _ hq)

end Accounts

/-! ## The accounts of a node -/

namespace UsageNode

/-- The account of the node that the segments lead to. -/
def account? : List String → UsageNode → Option Account
  | [], n => some ⟨n.limit, n.ledger⟩
  | s :: rest, n =>
    match Assoc.get? s n.children with
    | none => none
    | some child => account? rest child

/-- The accounts at and below a node. -/
def accounts (n : UsageNode) : Accounts := fun p => n.account? p

theorem accounts_nil (n : UsageNode) : n.accounts [] = some ⟨n.limit, n.ledger⟩ := rfl

theorem accounts_cons (n : UsageNode) (s : String) (p : List String) :
    n.accounts (s :: p) = (Assoc.get? s n.children).bind fun child => child.accounts p := by
  show n.account? (s :: p) = _
  rw [account?]
  cases Assoc.get? s n.children <;> rfl

theorem accounts_empty : empty.accounts = Accounts.empty := by
  funext p
  cases p <;> rfl

section
variable (limit : Option UsageLimit) (ledger : UsageLedger) (s s' : String) (q : List String)

theorem accounts_put (child n : UsageNode) :
    (mk limit ledger (Assoc.put s child n.children)).accounts (s' :: q) =
      if s = s' then child.accounts q else n.accounts (s' :: q) := by
  rw [accounts_cons, accounts_cons, children_mk, Assoc.get?_put]
  split_ifs <;> rfl

theorem accounts_erase (n : UsageNode) :
    (mk limit ledger (Assoc.erase s n.children)).accounts (s' :: q) =
      if s = s' then none else n.accounts (s' :: q) := by
  rw [accounts_cons, accounts_cons, children_mk, Assoc.get?_erase]
  split_ifs <;> rfl

end

theorem below_accounts {n child : UsageNode} {s : String}
    (h : Assoc.get? s n.children = some child) : n.accounts.below s = child.accounts := by
  funext q
  exact (accounts_cons n s q).trans (by rw [h]; rfl)

theorem accounts_set (l : UsageLimit) (p : List String) (n : UsageNode) :
    (n.set l p).accounts = n.accounts.set p l := by
  induction p generalizing n with
  | nil =>
    funext q
    cases q with
    | nil => rfl
    | cons s q =>
      rw [set, accounts_cons, children_mk, ← accounts_cons]
      simp [Accounts.set]
  | cons s p ih =>
    funext q
    cases q with
    | nil => simp [Accounts.set, set, accounts_nil]
    | cons s' q =>
      rw [set, accounts_put, ih]
      by_cases h : s = s'
      · subst h
        simp only [if_true, Accounts.set, List.cons.injEq, true_and, List.prefix_cons_inj]
        cases hs : Assoc.get? s n.children with
        | some child =>
          have hbelow : ∀ q, n.accounts (s :: q) = child.accounts q :=
            fun q => congrFun (below_accounts hs) q
          simp only [Option.getD_some, Accounts.ledger, hbelow]
        | none =>
          -- The new nodes have no history, as if there had been empty ones before.
          have hnone : ∀ q, n.accounts (s :: q) = none := fun q => by rw [accounts_cons, hs]; rfl
          simp only [Option.getD_none, accounts_empty, Accounts.ledger, hnone]
          cases q with
          | nil => cases p <;> simp [Accounts.empty]
          | cons s' q => cases p <;> simp [Accounts.empty]
      · simp [Accounts.set, h, Ne.symm h]

theorem accounts_remove? (p : List String) (n : UsageNode) :
    ((remove? p n).getD n).accounts = n.accounts.remove p := by
  induction p generalizing n with
  | nil => funext q; rw [Accounts.remove, if_neg fun h => h.1 rfl]; rfl
  | cons s p ih =>
    funext q
    cases hs : Assoc.get? s n.children with
    | none =>
      rw [remove?, hs, Accounts.remove, Option.getD_none]
      split_ifs with h
      · obtain ⟨t, rfl⟩ := h.2
        rw [List.cons_append, accounts_cons, hs, Option.bind_none]
      · rfl
    | some child =>
      by_cases hp : p = []
      · subst hp
        have hrem : (remove? [s] n).getD n = mk n.limit n.ledger (Assoc.erase s n.children) := by
          simp [remove?, hs]
        rw [hrem]
        cases q with
        | nil => simp [Accounts.remove, accounts_nil]
        | cons s' q => simp [accounts_erase, Accounts.remove]
      · have hrem : (remove? (s :: p) n).getD n = ((remove? p child).map fun c =>
            mk n.limit n.ledger (Assoc.put s c n.children)).getD n := by
          simp [remove?, hs, hp]
        have hchild := congrFun (ih child)
        rw [hrem]
        generalize remove? p child = removed at hchild
        cases q with
        | nil => cases removed <;> simp [Accounts.remove, accounts_nil]
        | cons s' q =>
          have := hchild q
          by_cases hss : s = s'
          · subst hss
            cases removed <;> simp_all [accounts_put, accounts_cons n s, Accounts.remove]
          · cases removed <;> simp [accounts_put, Accounts.remove, hss]

/-- There is something to remove where there is a node. -/
theorem isSome_remove? (p : List String) (n : UsageNode) :
    (remove? p n).isSome = (!p.isEmpty && (n.accounts p).isSome) := by
  induction p generalizing n with
  | nil => rfl
  | cons s p ih =>
    rw [accounts_cons, remove?]
    cases hs : Assoc.get? s n.children with
    | none => rfl
    | some child =>
      cases p with
      | nil => rfl
      | cons s' p =>
        have := ih child
        simp only [List.isEmpty_cons, Bool.not_false, Bool.true_and] at this
        simp [this]

/-! ## Uses -/

/-- Offers a use to the limit of this node alone. -/
def chargeBy (take : UsageLimit → UsageLedger → Bool × UsageLedger) (n : UsageNode) :
    Bool × UsageNode :=
  match n.limit with
  | none => (false, n)
  | some limit =>
    let (used, ledger) := take limit n.ledger
    (used, mk n.limit ledger n.children)

/-- Offers a use to the limits along the segments, the deepest first, up to the first that takes
it. -/
def tryUseBy (take : UsageLimit → UsageLedger → Bool × UsageLedger) :
    List String → UsageNode → Bool × UsageNode
  | [], n => n.chargeBy take
  | s :: rest, n =>
    match Assoc.get? s n.children with
    | none => n.chargeBy take
    | some child =>
      let (used, child) := tryUseBy take rest child
      let n := mk n.limit n.ledger (Assoc.put s child n.children)
      if used then (true, n) else n.chargeBy take

theorem tryUse_eq (key : String) (now : Int) (p : List String) (n : UsageNode) :
    n.tryUse key now p = n.tryUseBy (UsageLedger.offer key now) p := by
  induction p generalizing n with
  | nil => rfl
  | cons s p ih =>
    rw [tryUse, tryUseBy]
    cases Assoc.get? s n.children with
    | none => rfl
    | some child => simp only [ih]; rfl

variable {take : UsageLimit → UsageLedger → Bool × UsageLedger}

theorem accounts_chargeBy (n : UsageNode) :
    ((n.chargeBy take).1, (n.chargeBy take).2.accounts) = n.accounts.charge take [] := by
  have hlimit : n.accounts.limit [] = n.limit := rfl
  have hledger : n.accounts.ledger [] = n.ledger := rfl
  unfold chargeBy Accounts.charge
  rw [hlimit, hledger]
  cases hl : n.limit with
  | none => rfl
  | some limit =>
    dsimp only
    rw [Prod.mk.injEq]
    refine ⟨rfl, ?_⟩
    funext q
    cases q with
    | nil => rw [Function.update_self]; rfl
    | cons s q => rw [Function.update_of_ne (List.cons_ne_nil _ _)]; rfl

/-- **A use is offered to the prefixes of its path, the longest first.** -/
theorem accounts_tryUseBy (p : List String) (n : UsageNode) :
    ((n.tryUseBy take p).1, (n.tryUseBy take p).2.accounts) =
      n.accounts.chargeFirst take p.inits.reverse := by
  have hlast : ∀ as : Accounts, as.chargeFirst take [[]] = as.charge take [] := by
    intro as
    rw [Accounts.chargeFirst]
    cases as.charge take [] with
    | mk used as => cases used <;> rfl
  induction p generalizing n with
  | nil => exact (accounts_chargeBy n).trans (hlast _).symm
  | cons s p ih =>
    have hinits : (s :: p).inits.reverse = p.inits.reverse.map (s :: ·) ++ [[]] := by
      simp [List.map_reverse]
    rw [hinits, Accounts.chargeFirst_append, hlast, tryUseBy]
    cases hs : Assoc.get? s n.children with
    | none =>
      have hnone : ∀ q ∈ p.inits.reverse.map (s :: ·), n.accounts.limit q = none := by
        intro q hq
        obtain ⟨q, -, rfl⟩ := List.mem_map.1 hq
        rw [Accounts.limit, accounts_cons, hs]
        rfl
      rw [Accounts.chargeFirst_of_limit_eq_none hnone]
      exact accounts_chargeBy n
    | some child =>
      rw [Accounts.chargeFirst_map_cons, below_accounts hs, ← ih]
      dsimp only
      have hgraft : ∀ child' : UsageNode,
          (mk n.limit n.ledger (Assoc.put s child' n.children)).accounts =
            n.accounts.graft s child'.accounts := by
        intro child'
        funext q
        cases q with
        | nil => rfl
        | cons s' q => exact accounts_put ..
      cases tryUseBy take p child with
      | mk used child' =>
        cases used with
        | true => exact Prod.ext rfl (hgraft child')
        | false =>
          dsimp only
          rw [← hgraft]
          exact accounts_chargeBy _

end UsageNode

end ChatCommands
