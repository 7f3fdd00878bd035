import Mathlib.Data.List.Perm.Basic
import ChatCommands.Proofs.Json.Writing

/-!
# Values with their members in another order

* `Json.Permuted`: a value, and one with the same members in some order, at any depth.
* `Permuted.inherits`: what is asked of all parts of a value is kept.
-/

namespace ChatCommands.Json

mutual

/-- The second value is the first with the members of its objects in any order, those of objects
within it included. -/
inductive Permuted : Json → Json → Prop
  | same (v : Json) : Permuted v v
  | array {items items' : List Json} (h : List.Forall₂ Permuted items items') :
      Permuted (.array items) (.array items')
  | object {members moved members' : List (Option String × Json)}
      (h : List.Forall₂ PermutedMember members moved) (horder : moved.Perm members') :
      Permuted (.object members) (.object members')

/-- The members have the same key, and the second has the value of the first permuted. -/
inductive PermutedMember : Option String × Json → Option String × Json → Prop
  | mk (key : Option String) {v w : Json} (h : Permuted v w) : PermutedMember (key, v) (key, w)

end

theorem allStorable_iff {depth : Nat} {vs : List Json} :
    allStorable depth vs = true ↔ ∀ v ∈ vs, v.isStorable depth = true := by
  induction vs with
  | nil => simp [allStorable]
  | cons v vs ih => rw [allStorable, Bool.and_eq_true, ih, List.forall_mem_cons]

theorem allMembersStorable_iff {depth : Nat} {ms : List (Option String × Json)} :
    allMembersStorable depth ms = true ↔
      ∀ m ∈ ms, m.1.isSome = true ∧ m.2.isStorable depth = true := by
  induction ms with
  | nil => simp [allMembersStorable]
  | cons m ms ih =>
    rw [allMembersStorable, Bool.and_eq_true, Bool.and_eq_true, ih, List.forall_mem_cons]

namespace Permuted

variable {v w : Json}

theorem of_perm {members members' : List (Option String × Json)} (h : members.Perm members') :
    Permuted (.object members) (.object members') :=
  .object (List.forall₂_same.2 fun m _ => .mk m.1 (.same m.2)) h

/-! ## Values by their form -/

theorem eq_of_parts?_eq_none (h : Permuted v w) (hv : v.parts? = none) : w = v := by
  cases h with
  | same => rfl
  | array => cases hv
  | object => cases hv

theorem exists_items {items : List Json} (h : Permuted (.array items) w) :
    ∃ items', w = .array items' ∧ List.Forall₂ Permuted items items' := by
  cases h with
  | same => exact ⟨items, rfl, List.forall₂_same.2 fun v _ => .same v⟩
  | array h => exact ⟨_, rfl, h⟩

theorem exists_members {members : List (Option String × Json)} (h : Permuted (.object members) w) :
    ∃ moved members', w = .object members' ∧ List.Forall₂ PermutedMember members moved ∧
      moved.Perm members' := by
  cases h with
  | same =>
    exact ⟨members, members, rfl, List.forall₂_same.2 fun m _ => .mk m.1 (.same m.2), .refl _⟩
  | object h horder => exact ⟨_, _, rfl, h, horder⟩

/-! ## What stays -/

theorem forall_of_forall₂ {α β : Type} {R : α → β → Prop} {P : β → Prop} {as : List α}
    {bs : List β} (h : List.Forall₂ R as bs) (hP : ∀ a ∈ as, ∀ b, R a b → P b) :
    ∀ b ∈ bs, P b := by
  induction h with
  | nil => exact fun _ hb => nomatch hb
  | cons hab _ ih =>
    refine List.forall_mem_cons.2 ⟨hP _ List.mem_cons_self _ hab, ih fun a ha => ?_⟩
    exact hP a (List.mem_cons_of_mem _ ha)

/-- **What is asked of all parts of a value stays true**, also if it has to do with how deep they
lie. -/
theorem inherits {P : Nat → Json → Prop} {A : Nat → Prop}
    (harray : ∀ depth items, P depth (.array items) ↔ A depth ∧ ∀ v ∈ items, P (depth - 1) v)
    (hobject : ∀ depth members, P depth (.object members) ↔
      A depth ∧ ∀ m ∈ members, m.1.isSome = true ∧ P (depth - 1) m.2)
    (h : Permuted v w) (depth : Nat) (hv : P depth v) : P depth w := by
  induction v using byParts generalizing w depth with
  | scalar v hparts => rwa [h.eq_of_parts?_eq_none hparts]
  | array items ih =>
    obtain ⟨items', rfl, hitems⟩ := h.exists_items
    obtain ⟨hdepth, hall⟩ := (harray ..).1 hv
    refine (harray ..).2 ⟨hdepth, forall_of_forall₂ hitems fun v hmem w hvw => ?_⟩
    exact ih v hmem hvw _ (hall v hmem)
  | object members ih =>
    obtain ⟨moved, members', rfl, hmembers, horder⟩ := h.exists_members
    obtain ⟨hdepth, hall⟩ := (hobject ..).1 hv
    have hmoved : ∀ m ∈ moved, m.1.isSome = true ∧ P (depth - 1) m.2 := by
      refine forall_of_forall₂ hmembers fun m hmem m' hm => ?_
      cases hm with
      | mk key h => exact ⟨(hall _ hmem).1, ih _ hmem h _ (hall _ hmem).2⟩
    exact (hobject ..).2 ⟨hdepth, fun m hm => hmoved m (horder.mem_iff.2 hm)⟩

theorem isWritable (h : Permuted v w) (hv : v.isWritable = true) : w.isWritable = true := by
  refine inherits (P := fun _ v => v.isWritable = true) (A := fun _ => True) ?_ ?_ h 0 hv
  · exact fun _ items => by rw [Json.isWritable, allWritable_iff, true_and]
  · exact fun _ members => by rw [Json.isWritable, allMembersWritable_iff, true_and]

theorem isStorable {depth : Nat} (h : Permuted v w) (hv : v.isStorable depth = true) :
    w.isStorable depth = true := by
  refine inherits (P := fun depth v => v.isStorable depth = true) (A := (0 < ·)) ?_ ?_ h depth hv
  · exact fun depth items => by
      rw [Json.isStorable, Bool.and_eq_true, allStorable_iff, decide_eq_true_eq]
  · exact fun depth members => by
      rw [Json.isStorable, Bool.and_eq_true, allMembersStorable_iff, decide_eq_true_eq]

end Permuted

end ChatCommands.Json
