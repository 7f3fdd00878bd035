/-!
# Finite sets of strings

A set of strings is kept as the list of its members in strictly increasing order, by code point.
Two sets with the same members are therefore equal, and listing the members needs no sorting.
-/

namespace ChatCommands

structure StringSet where
  members : List String
  sorted : members.Pairwise (· < ·) := by simp
  deriving DecidableEq

namespace StringSet

instance : Membership String StringSet := ⟨fun s x => x ∈ s.members⟩

instance (x : String) (s : StringSet) : Decidable (x ∈ s) :=
  inferInstanceAs (Decidable (x ∈ s.members))

theorem mem_def {x : String} {s : StringSet} : x ∈ s ↔ x ∈ s.members := Iff.rfl

def empty : StringSet := ⟨[], .nil⟩

instance : EmptyCollection StringSet := ⟨empty⟩
instance : Inhabited StringSet := ⟨empty⟩

def isEmpty (s : StringSet) : Bool :=
  s.members.isEmpty

def size (s : StringSet) : Nat :=
  s.members.length

/-! ## Insertion -/

/-- `x` put at its place among the sorted strings `ys`, unless it is there already. -/
def insertSorted (x : String) : List String → List String
  | [] => [x]
  | y :: ys =>
    if x < y then x :: y :: ys
    else if x = y then y :: ys
    else y :: insertSorted x ys

theorem mem_insertSorted {z x : String} {ys : List String} :
    z ∈ insertSorted x ys ↔ z = x ∨ z ∈ ys := by
  induction ys with
  | nil => simp [insertSorted]
  | cons y ys ih => grind [insertSorted]

theorem pairwise_insertSorted {x : String} {ys : List String} (h : ys.Pairwise (· < ·)) :
    (insertSorted x ys).Pairwise (· < ·) := by
  induction ys with
  | nil => simp [insertSorted]
  | cons y ys ih =>
    rw [List.pairwise_cons] at h
    unfold insertSorted
    split
    · rename_i hxy
      refine List.pairwise_cons.2 ⟨fun z hz => ?_, List.pairwise_cons.2 h⟩
      rcases List.mem_cons.1 hz with rfl | hz
      · exact hxy
      · exact String.lt_trans hxy (h.1 z hz)
    · split
      · exact List.pairwise_cons.2 h
      · refine List.pairwise_cons.2 ⟨fun z hz => ?_, ih h.2⟩
        rcases mem_insertSorted.1 hz with rfl | hz
        · grind
        · exact h.1 z hz

def insert (s : StringSet) (x : String) : StringSet :=
  ⟨insertSorted x s.members, pairwise_insertSorted s.sorted⟩

@[simp] theorem mem_insert {z x : String} {s : StringSet} : z ∈ s.insert x ↔ z = x ∨ z ∈ s :=
  mem_insertSorted

/-! ## Removal and union -/

def erase (s : StringSet) (x : String) : StringSet :=
  ⟨s.members.filter (· ≠ x), s.sorted.filter _⟩

@[simp] theorem mem_erase {z x : String} {s : StringSet} : z ∈ s.erase x ↔ z ≠ x ∧ z ∈ s := by
  simp [mem_def, erase, and_comm]

def union (s t : StringSet) : StringSet :=
  t.members.foldl insert s

def ofList (xs : List String) : StringSet :=
  xs.foldl insert empty

theorem mem_foldl_insert {z : String} {xs : List String} {s : StringSet} :
    z ∈ xs.foldl insert s ↔ z ∈ s ∨ z ∈ xs := by
  induction xs generalizing s with
  | nil => simp
  | cons x xs ih => simp [ih, or_assoc, or_left_comm]

@[simp] theorem mem_union {z : String} {s t : StringSet} : z ∈ s.union t ↔ z ∈ s ∨ z ∈ t :=
  mem_foldl_insert

@[simp] theorem not_mem_empty {z : String} : ¬ z ∈ empty := by
  simp [mem_def, empty]

@[simp] theorem mem_ofList {z : String} {xs : List String} : z ∈ ofList xs ↔ z ∈ xs := by
  simp [ofList, mem_foldl_insert]

end StringSet

end ChatCommands
