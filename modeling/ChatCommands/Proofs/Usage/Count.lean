import Mathlib.Data.Set.Card
import Mathlib.Order.CompletePartialOrder
import ChatCommands.Proofs.Usage.Configuration

/-!
# Counting limits

Counting the limits of a tree node by node counts the paths that have one, as long as no node has two
children of one name (`WellKeyed`). Every operation keeps to that.

**Theorem (`ncard_configured`).** The number of limits is the number of configured paths, of which there
are finitely many.

The paths below a node fall apart by their first segment, so the count goes through the children one
after the other.
-/

namespace ChatCommands

namespace LimitMap

/-- The paths with a limit. -/
def configured (limits : LimitMap) : Set (List String) := {p | (limits p).isSome}

theorem mem_configured {limits : LimitMap} {p : List String} :
    p ∈ limits.configured ↔ (limits p).isSome := Iff.rfl

end LimitMap

namespace UsageNode

/-! ## No two children of one name -/

/-- At the node and below it, no two children have one name. -/
inductive WellKeyed : UsageNode → Prop
  | mk {limit : Option UsageLimit} {ledger : UsageLedger} {children : List (String × UsageNode)}
    (nodup : (Assoc.keys children).Nodup) (below : ∀ e ∈ children, WellKeyed e.2) :
    WellKeyed (mk limit ledger children)

namespace WellKeyed

theorem empty : UsageNode.empty.WellKeyed :=
  .mk List.nodup_nil fun _ he => nomatch he

variable {n child : UsageNode} {s : String}

/-- Only the children matter. -/
theorem iff_children : n.WellKeyed ↔
    (Assoc.keys n.children).Nodup ∧ ∀ e ∈ n.children, e.2.WellKeyed := by
  constructor
  · intro h
    cases h with
    | mk nodup below => exact ⟨nodup, below⟩
  · intro h
    cases n with
    | mk limit ledger children => exact .mk h.1 h.2

theorem relabel (h : n.WellKeyed) (limit : Option UsageLimit) (ledger : UsageLedger) :
    (UsageNode.mk limit ledger n.children).WellKeyed :=
  .mk (iff_children.1 h).1 (iff_children.1 h).2

theorem of_get? (h : n.WellKeyed) (hchild : Assoc.get? s n.children = some child) :
    child.WellKeyed :=
  (iff_children.1 h).2 _ (Assoc.mem_of_get?_eq_some hchild)

theorem put (h : n.WellKeyed) (hchild : child.WellKeyed) (limit : Option UsageLimit)
    (ledger : UsageLedger) (s : String) :
    (UsageNode.mk limit ledger (Assoc.put s child n.children)).WellKeyed := by
  obtain ⟨nodup, below⟩ := iff_children.1 h
  apply WellKeyed.mk (Assoc.nodup_keys_put nodup)
  intro e he
  rcases Assoc.mem_put he with rfl | he
  · exact hchild
  · exact below e he

theorem erase (h : n.WellKeyed) (limit : Option UsageLimit) (ledger : UsageLedger) (s : String) :
    (UsageNode.mk limit ledger (Assoc.erase s n.children)).WellKeyed := by
  obtain ⟨nodup, below⟩ := iff_children.1 h
  apply WellKeyed.mk (Assoc.nodup_keys_filter nodup _)
  intro e he
  exact below e (List.mem_of_mem_filter he)

theorem set (h : n.WellKeyed) (l : UsageLimit) (p : List String) : (n.set l p).WellKeyed := by
  induction p generalizing n with
  | nil => exact h.relabel _ _
  | cons s p ih =>
    apply h.put
    apply ih
    cases hs : Assoc.get? s n.children with
    | none => exact .empty
    | some child => exact h.of_get? hs

theorem remove? {n' : UsageNode} (h : n.WellKeyed) {p : List String}
    (heq : n.remove? p = some n') : n'.WellKeyed := by
  induction p generalizing n n' with
  | nil => cases heq
  | cons s p ih =>
    rw [UsageNode.remove?] at heq
    cases hs : Assoc.get? s n.children with
    | none => rw [hs] at heq; cases heq
    | some child =>
      rw [hs] at heq
      dsimp only at heq
      split_ifs at heq
      · obtain rfl := Option.some.inj heq
        exact h.erase _ _ s
      · obtain ⟨child', hchild', rfl⟩ := Option.map_eq_some_iff.1 heq
        exact h.put (ih (h.of_get? hs) hchild') _ _ s

theorem charge (h : n.WellKeyed) (key : String) (now : Int) : (n.charge key now).2.WellKeyed := by
  unfold UsageNode.charge
  split
  · exact h
  · exact h.relabel _ _

theorem tryUse (h : n.WellKeyed) (key : String) (now : Int) (p : List String) :
    (n.tryUse key now p).2.WellKeyed := by
  induction p generalizing n with
  | nil => exact h.charge key now
  | cons s p ih =>
    rw [UsageNode.tryUse]
    cases hs : Assoc.get? s n.children with
    | none => exact h.charge key now
    | some child =>
      have hput := h.put (ih (h.of_get? hs)) n.limit n.ledger s
      dsimp only
      split_ifs
      · exact hput
      · exact hput.charge key now

end WellKeyed

/-! ## The configured paths -/

theorem limit_cons (n : UsageNode) (s : String) (p : List String) :
    n.accounts.limit (s :: p) =
      (Assoc.get? s n.children).bind fun child => child.accounts.limit p := by
  rw [Accounts.limit, accounts_cons]
  cases Assoc.get? s n.children <;> rfl

/-- The paths to the limits at and below a node. -/
def configured (n : UsageNode) : Set (List String) := LimitMap.configured n.accounts.limit

/-- The paths to the limits of these children and below them. -/
def configuredBelow (children : List (String × UsageNode)) : Set (List String) :=
  {p | ∃ s child q, Assoc.get? s children = some child ∧ q ∈ child.configured ∧ s :: q = p}

theorem nil_mem_configured {n : UsageNode} : [] ∈ n.configured ↔ n.limit.isSome := Iff.rfl

theorem cons_mem_configured {n : UsageNode} {s : String} {p : List String} :
    s :: p ∈ n.configured ↔ s :: p ∈ configuredBelow n.children := by
  rw [configured, LimitMap.mem_configured, limit_cons]
  constructor
  · intro h
    cases hs : Assoc.get? s n.children with
    | none => rw [hs] at h; cases h
    | some child =>
      rw [hs] at h
      exact ⟨s, child, p, hs, h, rfl⟩
  · rintro ⟨s', child, q, hchild, hq, heq⟩
    obtain ⟨rfl, rfl⟩ := List.cons.inj heq
    rw [hchild]
    exact hq

theorem nil_not_mem_configuredBelow (children : List (String × UsageNode)) :
    [] ∉ configuredBelow children := by
  rintro ⟨s, child, q, -, -, heq⟩
  cases heq

theorem configured_mk (limit : Option UsageLimit) (ledger : UsageLedger)
    (children : List (String × UsageNode)) :
    (mk limit ledger children).configured =
      (if limit.isSome then {[]} else ∅) ∪ configuredBelow children := by
  ext p
  cases p with
  | nil =>
    have hbelow := nil_not_mem_configuredBelow children
    rw [nil_mem_configured, Set.mem_union, or_iff_left hbelow, limit_mk]
    split_ifs with h <;> simp [h]
  | cons s p =>
    rw [cons_mem_configured, Set.mem_union]
    split_ifs <;> simp

theorem configuredBelow_nil : configuredBelow [] = ∅ := by
  ext p
  simp [configuredBelow]

/-- The paths below the first child and those below the others. -/
theorem configuredBelow_cons {s : String} {n : UsageNode} {rest : List (String × UsageNode)}
    (h : s ∉ Assoc.keys rest) :
    configuredBelow ((s, n) :: rest) = (s :: ·) '' n.configured ∪ configuredBelow rest := by
  ext p
  constructor
  · rintro ⟨s', child, q, hchild, hq, rfl⟩
    rw [Assoc.get?] at hchild
    split_ifs at hchild with heq
    · obtain rfl := Option.some.inj hchild
      exact .inl ⟨q, hq, by rw [heq]⟩
    · exact .inr ⟨s', child, q, hchild, hq, rfl⟩
  · rintro (⟨q, hq, rfl⟩ | ⟨s', child, q, hchild, hq, rfl⟩)
    · exact ⟨s, n, q, if_pos rfl, hq, rfl⟩
    · have hne : s ≠ s' := by
        rintro rfl
        rw [Assoc.get?_eq_none_of_not_mem_keys h] at hchild
        cases hchild
      exact ⟨s', child, q, (if_neg hne).trans hchild, hq, rfl⟩

theorem disjoint_configuredBelow {s : String} {rest : List (String × UsageNode)}
    (h : s ∉ Assoc.keys rest) (paths : Set (List String)) :
    Disjoint ((s :: ·) '' paths) (configuredBelow rest) := by
  rw [Set.disjoint_left]
  rintro _ ⟨q, -, rfl⟩ ⟨s', child, q', hchild, -, heq⟩
  obtain ⟨rfl, -⟩ := List.cons.inj heq
  rw [Assoc.get?_eq_none_of_not_mem_keys h] at hchild
  cases hchild

/-! ## The count -/

/-- The limits below some children, if those of each child are counted right. -/
theorem ncard_configuredBelow {children : List (String × UsageNode)}
    (nodup : (Assoc.keys children).Nodup)
    (h : ∀ e ∈ children, e.2.configured.Finite ∧ e.2.configured.ncard = e.2.limitCount) :
    (configuredBelow children).Finite ∧
      (configuredBelow children).ncard = limitCountAll children := by
  induction children with
  | nil =>
    rw [configuredBelow_nil]
    exact ⟨Set.finite_empty, Set.ncard_empty _⟩
  | cons e rest ih =>
    obtain ⟨s, n⟩ := e
    obtain ⟨hnew, hrest⟩ := List.nodup_cons.1 nodup
    obtain ⟨hfinite, hcount⟩ := h (s, n) List.mem_cons_self
    obtain ⟨hfinite', hcount'⟩ := ih hrest fun e he => h e (List.mem_cons_of_mem _ he)
    have himage : ((s :: ·) '' n.configured).Finite := hfinite.image _
    have hinjective : Function.Injective (s :: · : List String → List String) :=
      fun _ _ heq => (List.cons.inj heq).2
    rw [configuredBelow_cons hnew]
    refine ⟨himage.union hfinite', ?_⟩
    rw [Set.ncard_union_eq (disjoint_configuredBelow hnew _) himage hfinite',
      Set.ncard_image_of_injective _ hinjective, hcount, hcount', limitCountAll]

/-- **The count is the number of configured paths.** -/
theorem ncard_configured {n : UsageNode} (h : n.WellKeyed) :
    n.configured.Finite ∧ n.configured.ncard = n.limitCount := by
  induction h with
  | @mk limit ledger children nodup _ ih =>
    obtain ⟨hfinite, hcount⟩ := ncard_configuredBelow nodup ih
    rw [configured_mk, limitCount]
    split_ifs
    · have hdisjoint : Disjoint {[]} (configuredBelow children) :=
        Set.disjoint_singleton_left.2 (nil_not_mem_configuredBelow children)
      refine ⟨(Set.finite_singleton _).union hfinite, ?_⟩
      rw [Set.ncard_union_eq hdisjoint (Set.finite_singleton _) hfinite, Set.ncard_singleton, hcount]
    · rw [Set.empty_union, hcount, Nat.zero_add]
      exact ⟨hfinite, rfl⟩

end UsageNode

end ChatCommands
