import Mathlib.Data.Set.Card
import ChatCommands.Proofs.Permission.Rules

/-!
# Counting rules

Counting the rules of a tree node by node counts the paths that have one, as long as no node has two
children of one name. That holds of all trees that come about (`WellKeyed`).

**Theorem (`ncard_ruled`).** The number of rules is the number of paths in the map of rules that have
one, of which there are finitely many.
-/

namespace ChatCommands

namespace RuleMap

/-- The paths with a rule. -/
def ruled (rules : RuleMap) : Set (List String) := {p | rules p ≠ .unset}

end RuleMap

namespace PermissionNode

/-! ## No two children of one name -/

/-- At the node and below it, no two children have one name. -/
inductive WellKeyed : PermissionNode → Prop
  | mk {v : Verdict} {children : List (String × PermissionNode)}
    (nodup : (Assoc.keys children).Nodup) (below : ∀ e ∈ children, WellKeyed e.2) :
    WellKeyed (mk v children)

namespace WellKeyed

theorem empty : PermissionNode.empty.WellKeyed :=
  .mk List.nodup_nil fun _ he => nomatch he

variable {n child : PermissionNode} {s : String}

theorem nodup_keys (h : n.WellKeyed) : (Assoc.keys n.children).Nodup := by
  cases h with
  | mk nodup _ => exact nodup

theorem of_mem (h : n.WellKeyed) (hmem : (s, child) ∈ n.children) : child.WellKeyed := by
  cases h with
  | mk _ below => exact below _ hmem

theorem of_get? (h : n.WellKeyed) (hchild : Assoc.get? s n.children = some child) :
    child.WellKeyed :=
  h.of_mem (Assoc.mem_of_get?_eq_some hchild)

theorem put (h : n.WellKeyed) (hchild : child.WellKeyed) (v : Verdict) (s : String) :
    (PermissionNode.mk v (Assoc.put s child n.children)).WellKeyed := by
  refine .mk (Assoc.nodup_keys_put h.nodup_keys) fun e he => ?_
  rcases Assoc.mem_put he with rfl | he
  · exact hchild
  · exact h.of_mem he

theorem erase (h : n.WellKeyed) (v : Verdict) (s : String) :
    (PermissionNode.mk v (Assoc.erase s n.children)).WellKeyed := by
  refine .mk (Assoc.nodup_keys_filter h.nodup_keys _) fun e he => ?_
  exact h.of_mem (List.mem_of_mem_filter he)

theorem set (h : n.WellKeyed) (v : Verdict) (p : List String) : (n.set v p).WellKeyed := by
  induction p generalizing n with
  | nil => exact .mk h.nodup_keys fun _ he => h.of_mem he
  | cons s p ih =>
    refine h.put (ih ?_) n.rule s
    cases hs : Assoc.get? s n.children with
    | none => exact .empty
    | some child => exact h.of_get? hs

theorem remove? {n' : PermissionNode} (h : n.WellKeyed) {p : List String}
    (heq : n.remove? p = some n') : n'.WellKeyed := by
  induction p generalizing n n' with
  | nil => cases heq
  | cons s p ih =>
    rw [PermissionNode.remove?] at heq
    cases hs : Assoc.get? s n.children with
    | none => rw [hs] at heq; cases heq
    | some child =>
      rw [hs] at heq
      dsimp only at heq
      split_ifs at heq
      · obtain rfl := Option.some.inj heq
        exact h.erase n.rule s
      · obtain ⟨child', hchild', rfl⟩ := Option.map_eq_some_iff.1 heq
        exact h.put (ih (h.of_get? hs) hchild') n.rule s

end WellKeyed

/-! ## The paths of the rules -/

mutual

/-- The paths from a node to the rules at and below it. -/
def ruledPaths : PermissionNode → List (List String)
  | mk rule children => (if rule.isSet then [[]] else []) ++ ruledPathsAll children

def ruledPathsAll : List (String × PermissionNode) → List (List String)
  | [] => []
  | (s, n) :: rest => (ruledPaths n).map (s :: ·) ++ ruledPathsAll rest

end

mutual

theorem length_ruledPaths : ∀ n : PermissionNode, n.ruledPaths.length = n.ruleCount
  | mk rule children => by
    rw [ruledPaths, ruleCount, List.length_append, length_ruledPathsAll children]
    split_ifs <;> rfl

theorem length_ruledPathsAll : ∀ children : List (String × PermissionNode),
    (ruledPathsAll children).length = ruleCountAll children
  | [] => rfl
  | (s, n) :: rest => by
    rw [ruledPathsAll, ruleCountAll, List.length_append, List.length_map, length_ruledPaths n,
      length_ruledPathsAll rest]

end

theorem ruledPathsAll_eq_flatMap (children : List (String × PermissionNode)) :
    ruledPathsAll children = children.flatMap fun e => e.2.ruledPaths.map (e.1 :: ·) := by
  induction children with
  | nil => rfl
  | cons e rest ih =>
    obtain ⟨s, n⟩ := e
    rw [ruledPathsAll, ih, List.flatMap_cons]

theorem mem_ruledPathsAll {children : List (String × PermissionNode)} {p : List String} :
    p ∈ ruledPathsAll children ↔
      ∃ e ∈ children, ∃ q ∈ e.2.ruledPaths, e.1 :: q = p := by
  rw [ruledPathsAll_eq_flatMap]
  simp only [List.mem_flatMap, List.mem_map]

theorem nil_not_mem_ruledPathsAll (children : List (String × PermissionNode)) :
    [] ∉ ruledPathsAll children := by
  intro h
  obtain ⟨_, _, _, _, heq⟩ := mem_ruledPathsAll.1 h
  cases heq

theorem nil_mem_ruledPaths {n : PermissionNode} : [] ∈ n.ruledPaths ↔ n.rule ≠ .unset := by
  cases n with
  | mk rule children =>
    have hbelow := nil_not_mem_ruledPathsAll children
    rw [ruledPaths, List.mem_append, or_iff_left hbelow]
    cases rule <;> simp [Verdict.isSet]

theorem cons_mem_ruledPaths {n : PermissionNode} (h : n.WellKeyed) {s : String} {p : List String} :
    s :: p ∈ n.ruledPaths ↔ ∃ child, Assoc.get? s n.children = some child ∧ p ∈ child.ruledPaths := by
  cases n with
  | mk rule children =>
    have hhere : s :: p ∉ (if rule.isSet then [[]] else [] : List (List String)) := by
      split_ifs <;> simp
    rw [ruledPaths, List.mem_append, or_iff_right hhere, mem_ruledPathsAll]
    constructor
    · rintro ⟨⟨s', child⟩, hmem, q, hq, heq⟩
      obtain ⟨rfl, rfl⟩ := List.cons.inj heq
      exact ⟨child, (Assoc.get?_eq_some_iff h.nodup_keys).2 hmem, hq⟩
    · rintro ⟨child, hget, hp⟩
      exact ⟨(s, child), Assoc.mem_of_get?_eq_some hget, p, hp, rfl⟩

/-- **The paths listed are those with a rule.** -/
theorem mem_ruledPaths {n : PermissionNode} (h : n.WellKeyed) {p : List String} :
    p ∈ n.ruledPaths ↔ p ∈ n.rules.ruled := by
  induction p generalizing n with
  | nil => exact nil_mem_ruledPaths
  | cons s p ih =>
    rw [cons_mem_ruledPaths h, RuleMap.ruled, Set.mem_ofPred_eq, rules_cons]
    cases hs : Assoc.get? s n.children with
    | none => simp [rules_empty, RuleMap.empty]
    | some child =>
      rw [Option.getD_some]
      constructor
      · rintro ⟨child', hchild', hp⟩
        obtain rfl := Option.some.inj hchild'
        exact (ih (h.of_get? hs)).1 hp
      · intro hp
        exact ⟨child, rfl, (ih (h.of_get? hs)).2 hp⟩

/-- **No path is listed twice.** -/
theorem nodup_ruledPaths {n : PermissionNode} (h : n.WellKeyed) : n.ruledPaths.Nodup := by
  induction h with
  | @mk rule children nodup _ ih =>
    have hhere : (if rule.isSet then [[]] else [] : List (List String)).Nodup := by
      split_ifs <;> simp
    rw [ruledPaths, List.nodup_append]
    refine ⟨hhere, ?_, ?_⟩
    · rw [ruledPathsAll_eq_flatMap, List.nodup_flatMap]
      refine ⟨fun e he => (ih e he).map fun _ _ heq => (List.cons.inj heq).2, ?_⟩
      refine (List.pairwise_map.1 nodup).imp fun hne => ?_
      intro p hp hp'
      obtain ⟨q, -, rfl⟩ := List.mem_map.1 hp
      obtain ⟨q', -, heq⟩ := List.mem_map.1 hp'
      exact hne (List.cons.inj heq).1.symm
    · rintro p hp q hq rfl
      have hnil : p = [] := by
        split_ifs at hp
        · exact List.mem_singleton.1 hp
        · cases hp
      rw [hnil] at hq
      exact nil_not_mem_ruledPathsAll children hq

/-- **The count is the number of paths with a rule.** -/
theorem ncard_ruled {n : PermissionNode} (h : n.WellKeyed) :
    n.rules.ruled.Finite ∧ n.rules.ruled.ncard = n.ruleCount := by
  have hruled : n.rules.ruled = (n.ruledPaths.toFinset : Set (List String)) := by
    ext p
    rw [List.coe_toFinset, Set.mem_ofPred_eq, mem_ruledPaths h]
  rw [hruled, Set.ncard_coe_finset, List.toFinset_card_of_nodup (nodup_ruledPaths h)]
  exact ⟨Finset.finite_toSet _, length_ruledPaths n⟩

end PermissionNode

end ChatCommands
