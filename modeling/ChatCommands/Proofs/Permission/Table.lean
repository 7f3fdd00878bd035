import ChatCommands.Proofs.Permission.Count

/-!
# The permission tree as a table

To its users a permission tree is a table: which nodes exist, and which of them have a rule. Nodes come
about with all that leads to them, and go with all that lies below.

* `RuleTable`: the tables, on which every change is one line.
* `PermissionTree.table`: the table of a tree.
* `table_change`: a change does to the tree what it does to its table.

**Theorem (`implements_after`).** After any changes the tree has the table that the changes make, and it
answers as the table says: which paths can be removed, what holds at a path, and how many rules there
are.
-/

namespace ChatCommands

/-! ## Tables -/

namespace RuleMap

/-- The verdict is the rule of the longest prefix of `p` that has one, and `unset` if none has. -/
def Governs (rules : RuleMap) (p : List String) (v : Verdict) : Prop :=
  (v = .unset ∧ ∀ r, r <+: p → rules r = .unset) ∨
    ∃ r, r <+: p ∧ rules r = v ∧ rules r ≠ .unset ∧
      ∀ r', r' <+: p → rules r' ≠ .unset → r'.length ≤ r.length

end RuleMap

/-- The nodes that exist and the rules at them, by the segments that lead there. -/
@[ext]
structure RuleTable where
  nodes : Set (List String)
  rules : RuleMap
  /-- The root always exists. -/
  nil_mem : [] ∈ nodes
  mem_of_prefix : ∀ {p q}, q ∈ nodes → p <+: q → p ∈ nodes
  mem_of_ruled : ∀ {p}, p ∈ rules.ruled → p ∈ nodes

/-- A change of a permission tree. -/
inductive RuleChange where
  /-- Sets a rule, or takes it back where the verdict is `unset`. -/
  | set (path : String) (v : Verdict)
  | remove (path : String)
  | clear

namespace RuleTable

/-- The root alone, without a rule. -/
def empty : RuleTable where
  nodes := {[]}
  rules := .empty
  nil_mem := rfl
  mem_of_prefix hq hp := by
    rw [Set.mem_singleton_iff] at hq
    subst hq
    exact List.prefix_nil.1 hp
  mem_of_ruled hp := absurd rfl hp

/-- The table with the node `p`, what leads to it, and the rule there. -/
def set (T : RuleTable) (p : List String) (v : Verdict) : RuleTable where
  nodes := {q | q ∈ T.nodes ∨ q <+: p}
  rules := T.rules.set p v
  nil_mem := .inl T.nil_mem
  mem_of_prefix hq hp := hq.imp (T.mem_of_prefix · hp) hp.trans
  mem_of_ruled {q} hq := by
    by_cases h : q = p
    · exact .inr (by rw [h])
    · rw [RuleMap.ruled, Set.mem_ofPred_eq, RuleMap.set, if_neg h] at hq
      exact .inl (T.mem_of_ruled hq)

/-- The table without the node `p` and all below it. The root stays. -/
def remove (T : RuleTable) (p : List String) : RuleTable where
  nodes := {q | q ∈ T.nodes ∧ ¬ (p ≠ [] ∧ p <+: q)}
  rules := T.rules.remove p
  nil_mem := ⟨T.nil_mem, fun h => h.1 (List.prefix_nil.1 h.2)⟩
  mem_of_prefix hq hr := ⟨T.mem_of_prefix hq.1 hr, fun h => hq.2 ⟨h.1, h.2.trans hr⟩⟩
  mem_of_ruled {q} hq := by
    rw [RuleMap.ruled, Set.mem_ofPred_eq, RuleMap.remove] at hq
    split_ifs at hq with h
    · exact absurd rfl hq
    · exact ⟨T.mem_of_ruled hq, h⟩

/-- The table after a change. -/
def change (T : RuleTable) : RuleChange → RuleTable
  | .set path v => T.set (Dotted.segments path) v
  | .remove path => T.remove (Dotted.segments path)
  | .clear => empty

/-- The table that a list of changes makes. -/
def after (changes : List RuleChange) : RuleTable := changes.foldl change empty

end RuleTable

/-! ## Nodes of a tree -/

namespace PermissionNode

/-- The segments lead to a node. -/
def hasNode : List String → PermissionNode → Bool
  | [], _ => true
  | s :: rest, n => (Assoc.get? s n.children).any (hasNode rest)

theorem hasNode_nil (n : PermissionNode) : n.hasNode [] = true := rfl

theorem hasNode_cons (n : PermissionNode) (s : String) (p : List String) :
    n.hasNode (s :: p) = (Assoc.get? s n.children).any (hasNode p) := rfl

theorem hasNode_empty {p : List String} : empty.hasNode p = true ↔ p = [] := by
  cases p with
  | nil => simp [hasNode_nil]
  | cons s p => simp [hasNode_cons, empty]

section
variable (v : Verdict) (s s' : String) (q : List String)

theorem hasNode_put (child n : PermissionNode) :
    (mk v (Assoc.put s child n.children)).hasNode (s' :: q) =
      if s = s' then child.hasNode q else n.hasNode (s' :: q) := by
  rw [hasNode_cons, hasNode_cons, children_mk, Assoc.get?_put]
  split_ifs <;> rfl

theorem hasNode_erase (n : PermissionNode) :
    (mk v (Assoc.erase s n.children)).hasNode (s' :: q) =
      if s = s' then false else n.hasNode (s' :: q) := by
  rw [hasNode_cons, hasNode_cons, children_mk, Assoc.get?_erase]
  split_ifs <;> rfl

end

/-- What leads to a node is there too. -/
theorem hasNode_of_prefix {n : PermissionNode} {p q : List String} (hq : n.hasNode q = true)
    (hp : p <+: q) : n.hasNode p = true := by
  induction p generalizing n q with
  | nil => rfl
  | cons s p ih =>
    obtain ⟨t, rfl⟩ := hp
    rw [List.cons_append, hasNode_cons, Option.any_eq_true] at hq
    obtain ⟨child, hchild, hbelow⟩ := hq
    rw [hasNode_cons, hchild, Option.any_some]
    exact ih hbelow (List.prefix_append p t)

/-- Rules stand at nodes. -/
theorem hasNode_of_ruled {n : PermissionNode} {p : List String} (hp : p ∈ n.rules.ruled) :
    n.hasNode p = true := by
  induction p generalizing n with
  | nil => rfl
  | cons s p ih =>
    rw [RuleMap.ruled, Set.mem_ofPred_eq, rules_cons] at hp
    cases hs : Assoc.get? s n.children with
    | none =>
      rw [hs, Option.getD_none, rules_empty] at hp
      exact absurd rfl hp
    | some child =>
      rw [hs, Option.getD_some] at hp
      rw [hasNode_cons, hs, Option.any_some]
      exact ih hp

theorem hasNode_set (v : Verdict) (p q : List String) (n : PermissionNode) :
    (n.set v p).hasNode q = true ↔ n.hasNode q = true ∨ q <+: p := by
  induction p generalizing n q with
  | nil =>
    cases q with
    | nil => simp [hasNode_nil]
    | cons s q =>
      have hsame : (n.set v []).hasNode (s :: q) = n.hasNode (s :: q) := rfl
      simp [hsame]
  | cons s p ih =>
    cases q with
    | nil => simp [hasNode_nil]
    | cons s' q =>
      rw [set, hasNode_put]
      by_cases h : s = s'
      · subst h
        rw [if_pos rfl, ih, List.prefix_cons_inj, hasNode_cons]
        cases hs : Assoc.get? s n.children with
        | none =>
          -- The new child is made empty, so it has no node but those on the way.
          rw [Option.getD_none, hasNode_empty, Option.any_none]
          constructor
          · rintro (rfl | hq)
            · exact .inr List.nil_prefix
            · exact .inr hq
          · rintro (hfalse | hq)
            · cases hfalse
            · exact .inr hq
        | some child => rw [Option.getD_some, Option.any_some]
      · rw [if_neg h, List.cons_prefix_cons, or_iff_left fun hq => h hq.1.symm]

/-- There is something to remove where there is a node. -/
theorem isSome_remove? (p : List String) (n : PermissionNode) :
    (remove? p n).isSome = true ↔ p ≠ [] ∧ n.hasNode p = true := by
  induction p generalizing n with
  | nil => simp [remove?]
  | cons s p ih =>
    rw [remove?, hasNode_cons]
    cases hs : Assoc.get? s n.children with
    | none => simp
    | some child =>
      by_cases hp : p = []
      · subst hp
        simp [hasNode_nil]
      · have := ih child
        simpa [hp] using this

/-- **Removal takes out the nodes at and below the segments.** -/
theorem hasNode_remove? (p q : List String) (n : PermissionNode) :
    ((remove? p n).getD n).hasNode q = true ↔ n.hasNode q = true ∧ ¬ (p ≠ [] ∧ p <+: q) := by
  induction p generalizing n q with
  | nil => simp [remove?]
  | cons s p ih =>
    cases q with
    | nil => simp [hasNode_nil]
    | cons s' q =>
      rw [List.cons_prefix_cons]
      cases hs : Assoc.get? s n.children with
      | none =>
        -- Nothing stands below `s`, so there is nothing to lose.
        rw [remove?, hs, Option.getD_none]
        refine ⟨fun h => ⟨h, ?_⟩, And.left⟩
        rintro ⟨-, rfl, -⟩
        rw [hasNode_cons, hs] at h
        cases h
      | some child =>
        by_cases hp : p = []
        · subst hp
          have hrem : (remove? [s] n).getD n = mk n.rule (Assoc.erase s n.children) := by
            simp [remove?, hs]
          rw [hrem, hasNode_erase]
          by_cases hss : s = s' <;> simp [hss]
        · have hrem : (remove? (s :: p) n).getD n =
              ((remove? p child).map fun c => mk n.rule (Assoc.put s c n.children)).getD n := by
            simp [remove?, hs, hp]
          have hchild := ih q child
          rw [hrem]
          by_cases hss : s = s'
          · subst hss
            rw [hasNode_cons n, hs, Option.any_some]
            generalize remove? p child = removed at hchild
            cases removed with
            | none => simpa [hasNode_cons n, hs, hp] using hchild
            | some c => simpa [hasNode_put, hp] using hchild
          · cases remove? p child with
            | none => simp [hss]
            | some c => simp [hasNode_put, hss]

end PermissionNode

/-! ## The table of a tree -/

namespace PermissionTree

/-- The table of a tree. -/
def table (t : PermissionTree) : RuleTable where
  nodes := {p | t.root.hasNode p = true}
  rules := t.rules
  nil_mem := rfl
  mem_of_prefix := PermissionNode.hasNode_of_prefix
  mem_of_ruled := PermissionNode.hasNode_of_ruled

theorem table_empty : empty.table = .empty := by
  apply RuleTable.ext
  · ext p
    exact PermissionNode.hasNode_empty
  · exact rules_empty

theorem table_set (t : PermissionTree) (path : String) (v : Verdict) :
    (t.set path v).table = t.table.set (Dotted.segments path) v := by
  apply RuleTable.ext
  · ext p
    exact PermissionNode.hasNode_set v (Dotted.segments path) p t.root
  · exact rules_set t path v

theorem root_remove? (t : PermissionTree) (path : String) :
    ((t.remove? path).getD t).root = (t.root.remove? (Dotted.segments path)).getD t.root := by
  rw [remove?]
  cases t.root.remove? (Dotted.segments path) <;> rfl

theorem table_remove? (t : PermissionTree) (path : String) :
    ((t.remove? path).getD t).table = t.table.remove (Dotted.segments path) := by
  apply RuleTable.ext
  · ext p
    show ((t.remove? path).getD t).root.hasNode p = true ↔ _
    rw [root_remove?]
    exact PermissionNode.hasNode_remove? (Dotted.segments path) p t.root
  · exact rules_remove? t path

/-- Makes a change. -/
def change (t : PermissionTree) : RuleChange → PermissionTree
  | .set path v => t.set path v
  | .remove path => (t.remove? path).getD t
  | .clear => empty

/-- The tree that a list of changes makes. -/
def after (changes : List RuleChange) : PermissionTree := changes.foldl change empty

/-- **A change does to the tree what it does to its table.** -/
theorem table_change (t : PermissionTree) (c : RuleChange) :
    (t.change c).table = t.table.change c := by
  cases c with
  | set path v => exact table_set t path v
  | remove path => exact table_remove? t path
  | clear => exact table_empty

theorem table_foldl_change (changes : List RuleChange) (t : PermissionTree) :
    (changes.foldl change t).table = changes.foldl RuleTable.change t.table := by
  induction changes generalizing t with
  | nil => rfl
  | cons c changes ih => rw [List.foldl_cons, ih, table_change, List.foldl_cons]

theorem table_after (changes : List RuleChange) : (after changes).table = .after changes := by
  rw [after, table_foldl_change, table_empty, RuleTable.after]

theorem wellKeyed_change {t : PermissionTree} (h : t.root.WellKeyed) (c : RuleChange) :
    (t.change c).root.WellKeyed := by
  cases c with
  | set path v => exact h.set v _
  | remove path =>
    rw [change, root_remove?]
    cases hrem : t.root.remove? (Dotted.segments path) with
    | none => exact h
    | some n => exact h.remove? hrem
  | clear => exact .empty

theorem wellKeyed_after (changes : List RuleChange) : (after changes).root.WellKeyed := by
  have hfold : ∀ t : PermissionTree, t.root.WellKeyed →
      (changes.foldl change t).root.WellKeyed := by
    induction changes with
    | nil => exact fun _ h => h
    | cons c changes ih => exact fun t h => ih _ (wellKeyed_change h c)
  exact hfold empty .empty

/-- The tree has the table and answers as it says. -/
structure Implements (t : PermissionTree) (T : RuleTable) : Prop where
  table_eq : t.table = T
  /-- A path can be removed if it has segments and they lead to a node. -/
  isSome_remove?_iff : ∀ path, (t.remove? path).isSome = true ↔
    Dotted.segments path ≠ [] ∧ Dotted.segments path ∈ T.nodes
  governs_check : ∀ path, T.rules.Governs (Dotted.segments path) (t.check path)
  finite_ruled : T.rules.ruled.Finite
  ruleCount_eq : t.ruleCount = T.rules.ruled.ncard

/-- **The permission tree is a table of rules in which the longest prefix counts**, whatever was done
to it. -/
theorem implements_after (changes : List RuleChange) :
    (after changes).Implements (RuleTable.after changes) := by
  have htable := table_after changes
  have hcount := PermissionNode.ncard_ruled (wellKeyed_after changes)
  rw [← htable]
  refine ⟨rfl, fun path => ?_, fun path => ?_, hcount.1, hcount.2.symm⟩
  · rw [remove?, Option.isSome_map]
    exact PermissionNode.isSome_remove? (Dotted.segments path) _
  · rw [check_eq_nearest]
    exact RuleMap.nearest_spec _ _

-- A node without a rule is there to be removed, and a rule taken back lets the one above it through.
example :
    let t := after [.set "mods.tts" .deny, .set "mods.tts.add" .allow, .set "mods.tts.add" .unset]
    t.check "mods..tts.add.now" = .deny ∧ t.ruleCount = 1 ∧ (t.remove? "mods.tts.add").isSome := by
  decide +kernel

end PermissionTree

end ChatCommands
