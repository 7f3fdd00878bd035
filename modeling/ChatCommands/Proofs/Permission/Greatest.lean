import Mathlib.Order.Bounds.Basic
import ChatCommands.Permission.Tree

/-!
# Combined verdicts are greatest verdicts

Verdicts are ordered by how far they permit: silence below denying, denying below allowing. The
combination of verdicts stops early and remembers a denial on the way, and still it is the greatest of
them.

**Theorem (`isGreatest_combine`).** The combination of a list of verdicts that is not empty is its
greatest element.

Both combinations of the permission tree follow: the one over the groups (`isGreatest_checkGroups`)
and the one over groups and suffixes (`isGreatest_checkGroupsAny`).
-/

namespace ChatCommands

namespace Verdict

/-- How far a verdict permits. -/
def rank : Verdict → Nat
  | unset => 0
  | deny => 1
  | allow => 2

theorem rank_injective : Function.Injective rank := by
  intro v w h
  cases v <;> cases w <;> first | rfl | cases h

instance : LinearOrder Verdict := LinearOrder.lift' rank rank_injective

theorem unset_le (v : Verdict) : unset ≤ v := Nat.zero_le v.rank

theorem le_allow (v : Verdict) : v ≤ allow := by
  cases v <;> decide

/-! ## Combination -/

/-- Settling finds the greatest verdict, provided it would have stopped at an earlier permission. -/
theorem isGreatest_settle {sofar : Verdict} (h : sofar ≠ allow) (vs : List Verdict) :
    IsGreatest {v | v ∈ sofar :: vs} (settle sofar vs) := by
  induction vs generalizing sofar with
  | nil => exact ⟨List.mem_singleton_self _, fun v hv => le_of_eq (List.mem_singleton.1 hv)⟩
  | cons v vs ih =>
    cases v with
    | allow => exact ⟨List.mem_cons_of_mem _ List.mem_cons_self, fun w _ => le_allow w⟩
    | unset =>
      obtain ⟨hmem, hub⟩ := ih h
      refine ⟨?_, fun w hw => ?_⟩
      · rcases List.mem_cons.1 hmem with heq | hmem
        · exact List.mem_cons.2 (.inl heq)
        · exact List.mem_cons_of_mem _ (List.mem_cons_of_mem _ hmem)
      · rcases List.mem_cons.1 hw with rfl | hw
        · exact hub List.mem_cons_self
        · rcases List.mem_cons.1 hw with rfl | hw
          · exact unset_le _
          · exact hub (List.mem_cons_of_mem _ hw)
    | deny =>
      obtain ⟨hmem, hub⟩ := ih (by decide : deny ≠ allow)
      refine ⟨List.mem_cons_of_mem _ hmem, fun w hw => ?_⟩
      rcases List.mem_cons.1 hw with rfl | hw
      · -- What was remembered before does not allow, so a denial is at least as great.
        have hw : w ≤ deny := by cases w <;> first | decide | exact absurd rfl h
        exact hw.trans (hub List.mem_cons_self)
      · exact hub hw

/-- **The combined verdict is the greatest one.** -/
theorem isGreatest_combine {vs : List Verdict} (h : vs ≠ []) :
    IsGreatest {v | v ∈ vs} (combine vs) := by
  obtain ⟨hmem, hub⟩ := isGreatest_settle (by decide : unset ≠ allow) vs
  refine ⟨?_, fun v hv => hub (List.mem_cons_of_mem _ hv)⟩
  rcases List.mem_cons.1 hmem with heq | hmem
  · -- Nothing lies above silence, so silence is all there is.
    obtain ⟨v, hv⟩ := List.exists_mem_of_ne_nil vs h
    have hle : v ≤ combine vs := hub (List.mem_cons_of_mem _ hv)
    have hcomb : combine vs = unset := heq
    rw [hcomb] at hle
    rw [hcomb, ← le_antisymm hle (unset_le v)]
    exact hv
  · exact hmem

end Verdict

/-! ## Combination over groups and suffixes -/

namespace PermissionTree

variable {t : PermissionTree} {groups : StringSet}

theorem isGreatest_checkGroups {g : String} (h : g ∈ groups) (suffix : String) :
    IsGreatest {v | ∃ group ∈ groups, t.check (Dotted.below group suffix) = v}
      (t.checkGroups groups suffix) := by
  have hne : groups.members.map (fun group => t.check (Dotted.below group suffix)) ≠ [] := by
    simpa using List.ne_nil_of_mem (StringSet.mem_def.1 h)
  have := Verdict.isGreatest_combine hne
  simp only [List.mem_map, ← StringSet.mem_def] at this
  exact this

theorem isGreatest_checkGroupsAny {g s : String} (h : g ∈ groups) {suffixes : List String}
    (hs : s ∈ suffixes) :
    IsGreatest {v | ∃ suffix ∈ suffixes, ∃ group ∈ groups, t.check (Dotted.below group suffix) = v}
      (t.checkGroupsAny groups suffixes) := by
  have hne : suffixes.map (fun suffix => t.checkGroups groups suffix) ≠ [] := by
    simpa using List.ne_nil_of_mem hs
  obtain ⟨hmem, hub⟩ := Verdict.isGreatest_combine hne
  obtain ⟨suffix, hsuffix, heq⟩ := List.mem_map.1 hmem
  refine ⟨⟨suffix, hsuffix, ?_⟩, ?_⟩
  · have := (isGreatest_checkGroups (t := t) h suffix).1
    rwa [heq] at this
  · rintro v ⟨suffix', hsuffix', hv⟩
    exact ((isGreatest_checkGroups h suffix').2 hv).trans
      (hub (List.mem_map.2 ⟨suffix', hsuffix', rfl⟩))

end PermissionTree

end ChatCommands
