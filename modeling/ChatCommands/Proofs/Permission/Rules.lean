import Mathlib.Data.List.Infix
import ChatCommands.Permission.Tree

/-!
# Rule maps

What a permission tree says is a map from paths, as lists of segments, to explicit rules. The nodes
that only lead somewhere do not show in it.

* `rules_set`, `rules_remove?`, `rules_ofRules`: what the operations do to the map;
* `check_eq_nearest`: what holds at a path is the rule of the longest prefix that has one.
-/

namespace ChatCommands

/-- The explicit rules by the segments of the nodes they stand at, `unset` where there is none. -/
abbrev RuleMap := List String → Verdict

namespace RuleMap

/-- The map without any rule. -/
def empty : RuleMap := fun _ => .unset

/-- The map with the rule at `p` set, or taken back where the verdict is `unset`. -/
def set (rules : RuleMap) (p : List String) (v : Verdict) : RuleMap :=
  fun q => if q = p then v else rules q

/-- The map without the rules at `p` and below. Those of the root cannot be taken out at once. -/
def remove (rules : RuleMap) (p : List String) : RuleMap :=
  fun q => if p ≠ [] ∧ p <+: q then .unset else rules q

/-- The map of a list of rules, later ones in place of earlier ones. -/
def ofList (rules : List (String × Verdict)) : RuleMap :=
  rules.foldl (fun map (path, v) => map.set (Dotted.segments path) v) empty

/-- The rule of the longest prefix of `path` that has one. -/
def nearest (rules : RuleMap) (path : List String) : Verdict :=
  ((path.inits.reverse.map rules).find? Verdict.isSet).getD .unset

/-! ## The nearest rule -/

theorem nearest_nil (rules : RuleMap) : rules.nearest [] = rules [] := by
  cases h : rules [] <;> simp [nearest, h, Verdict.isSet]

/-- The rules below the first segment come before the rule of the root. -/
theorem nearest_cons (rules : RuleMap) (s : String) (path : List String) :
    rules.nearest (s :: path) = (nearest (fun q => rules (s :: q)) path).orElse (rules []) := by
  have hmap : (s :: path).inits.reverse.map rules =
      path.inits.reverse.map (fun q => rules (s :: q)) ++ [rules []] := by
    simp [Function.comp_def]
  rw [nearest, nearest, hmap, List.find?_append]
  cases hfind : (path.inits.reverse.map fun q => rules (s :: q)).find? Verdict.isSet with
  | none => cases rules [] <;> simp [Verdict.isSet, Verdict.orElse]
  | some v =>
    have hv : v.isSet = true := List.find?_some hfind
    cases v <;> first | rfl | cases hv

/-- **Where the nearest rule stands.** There is none on the way, or it stands at a prefix below which
no prefix has a rule. -/
theorem nearest_spec (rules : RuleMap) (path : List String) :
    (rules.nearest path = .unset ∧ ∀ r, r <+: path → rules r = .unset) ∨
      ∃ r, r <+: path ∧ rules r = rules.nearest path ∧ rules r ≠ .unset ∧
        ∀ r', r' <+: path → rules r' ≠ .unset → r'.length ≤ r.length := by
  induction path generalizing rules with
  | nil =>
    rw [nearest_nil]
    by_cases h : rules [] = .unset
    · exact .inl ⟨h, fun r hr => by rw [List.prefix_nil.1 hr, h]⟩
    · exact .inr ⟨[], List.prefix_rfl, rfl, h, fun r hr _ => by rw [List.prefix_nil.1 hr]⟩
  | cons s path ih =>
    rw [nearest_cons]
    rcases ih fun q => rules (s :: q) with ⟨hun, hall⟩ | ⟨r, hr, heq, hset, hmax⟩
    · have hbelow : ∀ r', r' <+: s :: path → rules r' ≠ .unset → r' = [] := by
        intro r' hr' hne
        rcases List.prefix_cons_iff.1 hr' with rfl | ⟨t, rfl, ht⟩
        · rfl
        · exact absurd (hall t ht) hne
      rw [hun]
      by_cases h : rules [] = .unset
      · refine .inl ⟨h, fun r' hr' => ?_⟩
        by_contra hne
        exact hne (hbelow r' hr' hne ▸ h)
      · exact .inr ⟨[], List.nil_prefix, rfl, h, fun r' hr' hne => by rw [hbelow r' hr' hne]⟩
    · refine .inr ⟨s :: r, List.cons_prefix_cons.2 ⟨rfl, hr⟩, ?_, hset, fun r' hr' hne => ?_⟩
      · rw [← heq]
        cases h : rules (s :: r) <;> first | rfl | exact absurd h hset
      · rcases List.prefix_cons_iff.1 hr' with rfl | ⟨t, rfl, ht⟩
        · exact Nat.zero_le _
        · exact Nat.succ_le_succ (hmax t ht hne)

/-- The rule of a prefix below which no prefix has a rule is the nearest one. -/
theorem nearest_eq {rules : RuleMap} {path r : List String} (hr : r <+: path)
    (hset : rules r ≠ .unset)
    (hmax : ∀ r', r' <+: path → rules r' ≠ .unset → r'.length ≤ r.length) :
    rules.nearest path = rules r := by
  rcases nearest_spec rules path with ⟨_, hall⟩ | ⟨r', hr', heq, hset', hmax'⟩
  · exact absurd (hall r hr) hset
  · have hlen : r.length = r'.length := le_antisymm (hmax' r hr hset) (hmax r' hr' hset')
    have : r = r' := (List.prefix_of_prefix_length_le hr hr' hlen.le).eq_of_length hlen
    rw [← heq, this]

/-- Further down a path the nearest rule is the same, unless a rule stands in between. -/
theorem nearest_eq_or_exists_below (rules : RuleMap) {p path : List String} (hp : p <+: path) :
    rules.nearest path = rules.nearest p ∨
      ∃ r, p <+: r ∧ r ≠ p ∧ r <+: path ∧ rules r = rules.nearest path ∧ rules r ≠ .unset := by
  rcases nearest_spec rules path with ⟨hun, hall⟩ | ⟨r, hr, heq, hset, hmax⟩
  · rcases nearest_spec rules p with ⟨hun', _⟩ | ⟨r, hr, _, hset, _⟩
    · exact .inl (hun.trans hun'.symm)
    · exact absurd (hall r (hr.trans hp)) hset
  · by_cases hlen : r.length ≤ p.length
    · have hrp : r <+: p := List.prefix_of_prefix_length_le hr hp hlen
      exact .inl (heq.symm.trans
        (nearest_eq hrp hset fun r' hr' hset' => hmax r' (hr'.trans hp) hset').symm)
    · have hpr : p <+: r := List.prefix_of_prefix_length_le hp hr (Nat.le_of_not_le hlen)
      refine .inr ⟨r, hpr, ?_, hr, heq, hset⟩
      rintro rfl
      exact hlen le_rfl

end RuleMap

/-! ## The map of a tree -/

namespace PermissionNode

/-- The rule of the node that the segments lead to, if there is such a node. -/
def ruleAt : List String → PermissionNode → Verdict
  | [], n => n.rule
  | s :: rest, n =>
    match Assoc.get? s n.children with
    | none => .unset
    | some child => ruleAt rest child

/-- The explicit rules at and below a node. -/
def rules (n : PermissionNode) : RuleMap := fun p => n.ruleAt p

theorem rules_nil (n : PermissionNode) : n.rules [] = n.rule := rfl

theorem rules_empty : empty.rules = RuleMap.empty := by
  funext p
  cases p <;> rfl

/-- A child that is missing is as good as one without rules. -/
theorem rules_cons (n : PermissionNode) (s : String) (p : List String) :
    n.rules (s :: p) = ((Assoc.get? s n.children).getD empty).rules p := by
  show n.ruleAt (s :: p) = _
  cases h : Assoc.get? s n.children with
  | none => simp only [ruleAt, h, Option.getD_none, rules_empty, RuleMap.empty]
  | some child => simp only [ruleAt, h, Option.getD_some, rules]

section
variable (v : Verdict) (s s' : String) (q : List String)

theorem rules_put (child : PermissionNode) (n : PermissionNode) :
    (mk v (Assoc.put s child n.children)).rules (s' :: q) =
      if s = s' then child.rules q else n.rules (s' :: q) := by
  rw [rules_cons, rules_cons, children_mk, Assoc.get?_put]
  split_ifs <;> rfl

theorem rules_erase (n : PermissionNode) :
    (mk v (Assoc.erase s n.children)).rules (s' :: q) =
      if s = s' then .unset else n.rules (s' :: q) := by
  rw [rules_cons, rules_cons, children_mk, Assoc.get?_erase]
  split_ifs
  · rw [Option.getD_none, rules_empty, RuleMap.empty]
  · rfl

end

theorem rules_set (v : Verdict) (p : List String) (n : PermissionNode) :
    (n.set v p).rules = n.rules.set p v := by
  induction p generalizing n with
  | nil =>
    funext q
    cases q with
    | nil => rfl
    | cons s q => rw [set, rules_cons, children_mk, ← rules_cons]; rfl
  | cons s p ih =>
    funext q
    cases q with
    | nil => rfl
    | cons s' q =>
      rw [set, rules_put, ih]
      by_cases h : s = s'
      · subst h
        simp [RuleMap.set, rules_cons n s]
      · simp [RuleMap.set, h, Ne.symm h]

/-- **Removal takes out the rules at and below the segments**, and nothing where they lead nowhere. -/
theorem rules_remove? (p : List String) (n : PermissionNode) :
    ((remove? p n).getD n).rules = n.rules.remove p := by
  induction p generalizing n with
  | nil => funext q; rw [RuleMap.remove, if_neg fun h => h.1 rfl]; rfl
  | cons s p ih =>
    funext q
    cases hs : Assoc.get? s n.children with
    | none =>
      -- Nothing stands below `s`, so there is nothing to lose.
      rw [remove?, hs, RuleMap.remove, Option.getD_none]
      split_ifs with h
      · obtain ⟨t, rfl⟩ := h.2
        rw [List.cons_append, rules_cons, hs, Option.getD_none, rules_empty, RuleMap.empty]
      · rfl
    | some child =>
      by_cases hp : p = []
      · subst hp
        have hrem : (remove? [s] n).getD n = mk n.rule (Assoc.erase s n.children) := by
          simp [remove?, hs]
        rw [hrem]
        cases q with
        | nil => simp [RuleMap.remove, rules_nil]
        | cons s' q => simp [rules_erase, RuleMap.remove]
      · have hrem : (remove? (s :: p) n).getD n =
            ((remove? p child).map fun c => mk n.rule (Assoc.put s c n.children)).getD n := by
          simp [remove?, hs, hp]
        have hchild := congrFun (ih child)
        rw [hrem]
        generalize remove? p child = removed at hchild
        cases q with
        | nil => cases removed <;> simp [RuleMap.remove, rules_nil]
        | cons s' q =>
          have := hchild q
          by_cases hss : s = s'
          · subst hss
            cases removed <;> simp_all [rules_put, rules_cons n s, RuleMap.remove]
          · cases removed <;> simp [rules_put, RuleMap.remove, hss]

/-- **Looking down the tree finds the nearest rule.** -/
theorem check_eq (inherited : Verdict) (p : List String) (n : PermissionNode) :
    n.check inherited p = (n.rules.nearest p).orElse inherited := by
  induction p generalizing inherited n with
  | nil => rw [RuleMap.nearest_nil]; rfl
  | cons s p ih =>
    have hassoc : ∀ u v w : Verdict, (u.orElse v).orElse w = u.orElse (v.orElse w) := by
      intro u v w
      cases u <;> rfl
    rw [RuleMap.nearest_cons, hassoc, rules_nil]
    cases hs : Assoc.get? s n.children with
    | none =>
      have hnone : (fun q => n.rules (s :: q)) = RuleMap.empty := by
        funext q
        rw [rules_cons, hs, Option.getD_none, rules_empty]
      have hunset : RuleMap.empty.nearest p = .unset := by
        rcases RuleMap.nearest_spec RuleMap.empty p with h | ⟨_, _, _, h, _⟩
        · exact h.1
        · exact absurd rfl h
      simp only [check, hs, hnone, hunset, Verdict.orElse]
    | some child =>
      have hsome : (fun q => n.rules (s :: q)) = child.rules := by
        funext q
        rw [rules_cons, hs, Option.getD_some]
      simp only [check, hs, hsome, ih]

end PermissionNode

namespace PermissionTree

/-- The explicit rules of a tree. -/
def rules (t : PermissionTree) : RuleMap := t.root.rules

theorem rules_empty : empty.rules = RuleMap.empty := PermissionNode.rules_empty

theorem rules_set (t : PermissionTree) (path : String) (v : Verdict) :
    (t.set path v).rules = t.rules.set (Dotted.segments path) v :=
  PermissionNode.rules_set v _ t.root

theorem rules_remove? (t : PermissionTree) (path : String) :
    ((t.remove? path).getD t).rules = t.rules.remove (Dotted.segments path) := by
  show _ = t.root.rules.remove _
  rw [← PermissionNode.rules_remove?, remove?]
  cases t.root.remove? (Dotted.segments path) <;> rfl

theorem rules_ofRules (rules : List (String × Verdict)) :
    (ofRules rules).rules = RuleMap.ofList rules := by
  have hfold : ∀ t : PermissionTree,
      (rules.foldl (fun t (path, v) => t.set path v) t).rules =
        rules.foldl (fun map (path, v) => map.set (Dotted.segments path) v) t.rules := by
    induction rules with
    | nil => exact fun _ => rfl
    | cons r rules ih =>
      intro t
      rw [List.foldl_cons, ih, rules_set, List.foldl_cons]
  exact (hfold empty).trans (by rw [rules_empty]; rfl)

/-- **What holds at a path is the rule of the longest prefix that has one.** -/
theorem check_eq_nearest (t : PermissionTree) (path : String) :
    t.check path = t.rules.nearest (Dotted.segments path) := by
  rw [check, PermissionNode.check_eq]
  show _ = t.root.rules.nearest _
  cases t.root.rules.nearest (Dotted.segments path) <;> rfl

end PermissionTree

end ChatCommands
