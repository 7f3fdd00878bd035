import ChatCommands.Proofs.Usage.Counted

/-!
# Refused uses leave no trace

A use that is refused does change the tree. Ledgers are pruned on the way, buffers are cut to their
counts and empty ones come about, which makes the next pruning due earlier. None of this is counted, so
the uses after it are answered as if it had not been tried.

**Theorem (`answers_of_thinned`).** Any refused uses can be left out of a run of uses, and the other
answers stay the same.
-/

namespace ChatCommands

/-- The second list has the uses of the first, with their answers, apart from some that were refused. -/
inductive Thinned : List (UsageOperation × Bool) → List (UsageOperation × Bool) → Prop
  | nil : Thinned [] []
  | keep (op : UsageOperation) (answer : Bool) {run kept : List (UsageOperation × Bool)}
    (h : Thinned run kept) : Thinned ((op, answer) :: run) ((op, answer) :: kept)
  | drop (op : UsageOperation) {run kept : List (UsageOperation × Bool)}
    (h : Thinned run kept) : Thinned ((op, false) :: run) kept

namespace UsageTree

section
variable {t t' : UsageTree} {now : Int} {op : UsageOperation} (hop : op.instant? = some now)
include hop

/-- Trees that count alike answer a use alike. -/
theorem alike_perform (h : Accounts.Alike Set.univ now t.accounts t'.accounts)
    (ht : t.accounts.Ordered now) (ht' : t'.accounts.Ordered now) :
    (t.perform op).1 = (t'.perform op).1 ∧
      Accounts.Alike Set.univ now (t.perform op).2.accounts (t'.perform op).2.accounts := by
  obtain ⟨key, ps, hcharge⟩ := exists_chargeFirst hop
  have halike := h.chargeFirst ht ht' (Set.mem_univ key) ps
  rwa [← hcharge t, ← hcharge t'] at halike

theorem alike_perform_of_refused (ht : t.accounts.Ordered now)
    (hrefused : (t.perform op).1 = false) :
    Accounts.Alike Set.univ now t.accounts (t.perform op).2.accounts := by
  obtain ⟨key, ps, hcharge⟩ := exists_chargeFirst hop
  have halike := ht.alike_chargeFirst (K := Set.univ) key ps
  rw [← hcharge t] at halike
  exact halike fun _ => hrefused

end

/-- **The run.** The second tree is one that missed some refused uses already. -/
theorem answers_of_alike {run : List UsageOperation} {kept : List (UsageOperation × Bool)}
    {t t' : UsageTree} {now : Int} (h : Accounts.Alike Set.univ now t.accounts t'.accounts)
    (ht : t.accounts.Ordered now) (ht' : t'.accounts.Ordered now)
    (huses : ∀ op ∈ run, op.instant?.isSome)
    (hsorted : (now :: run.filterMap UsageOperation.instant?).Pairwise (· ≤ ·))
    (hkept : Thinned (run.zip (t.answers run)) kept) :
    t'.answers (kept.map Prod.fst) = kept.map Prod.snd := by
  induction run generalizing t t' now kept with
  | nil =>
    cases hkept
    rfl
  | cons op run ih =>
    obtain ⟨now', hop⟩ := Option.isSome_iff_exists.1 (huses op List.mem_cons_self)
    have huses' : ∀ op ∈ run, op.instant?.isSome := fun op h => huses op (List.mem_cons_of_mem _ h)
    rw [List.filterMap_cons_some hop] at hsorted
    obtain ⟨hlater, hsorted⟩ := List.pairwise_cons.1 hsorted
    have hnow := hlater now' List.mem_cons_self
    have h := h.later hnow
    have ht := ht.later hnow
    have ht' := ht'.later hnow
    have hperform := ordered_perform ht op (by simp [hop])
    have hperform' := ordered_perform ht' op (by simp [hop])
    rw [hop] at hperform hperform'
    rw [answers, List.zip_cons_cons] at hkept
    generalize hanswer : (t.perform op).1 = answer at hkept
    cases hkept with
    | keep _ _ hkept =>
      obtain ⟨hsame, halike⟩ := alike_perform hop h ht ht'
      rw [List.map_cons, List.map_cons, answers, ← hsame, hanswer,
        ih halike hperform hperform' huses' hsorted hkept]
    | drop _ hkept =>
      have halike := alike_perform_of_refused hop ht hanswer
      exact ih (halike.symm.trans h) hperform ht' huses' hsorted hkept

/-- **A refused use leaves no trace**, whatever was done to the tree before. -/
theorem answers_of_thinned {before run : List UsageOperation} {kept : List (UsageOperation × Bool)}
    (hsorted : ((before ++ run).filterMap UsageOperation.instant?).Pairwise (· ≤ ·))
    (huses : ∀ op ∈ run, op.instant?.isSome)
    (hkept : Thinned (run.zip ((after before).answers run)) kept) :
    (after before).answers (kept.map Prod.fst) = kept.map Prod.snd := by
  cases run with
  | nil =>
    cases hkept
    rfl
  | cons op rest =>
    -- The clock starts at the first use.
    obtain ⟨now, hop⟩ := Option.isSome_iff_exists.1 (huses op List.mem_cons_self)
    have hrun : (op :: rest).filterMap UsageOperation.instant? =
        now :: rest.filterMap UsageOperation.instant? := List.filterMap_cons_some hop
    rw [List.filterMap_append, hrun] at hsorted
    have hbefore := ordered_after (hsorted.sublist
      ((List.Sublist.refl _).append (List.singleton_sublist.2 List.mem_cons_self)))
    refine answers_of_alike (.refl _) hbefore hbefore huses ?_ hkept
    have hafter := (List.pairwise_append.1 hsorted).2.1
    rw [hrun]
    refine List.pairwise_cons.2 ⟨fun s hs => ?_, hafter⟩
    rcases List.mem_cons.1 hs with rfl | hs
    · exact Int.le_refl _
    · exact (List.pairwise_cons.1 hafter).1 s hs

end UsageTree

namespace Sample

open UsageTree

/-- So many chatters that the next use has the ledger pruned. -/
def audience : List UsageOperation := crowd.take 65

/-- A chatter who has just used the command, and one who comes back too early. -/
def early : UsageOperation := .use (String.ofList (List.replicate 63 'k')) "everyone.tts" 63

def returnsEarly (now : Int) : UsageOperation :=
  .use (String.ofList (List.replicate 60 'k')) "everyone.tts" now

/-- Nobody can tell that the first use was tried, though it pruned the ledger, or the third. -/
theorem answers_audience :
    let run := [early, .use "" "everyone.tts" 63, returnsEarly 65, returnsEarly 70]
    let kept := [(.use "" "everyone.tts" 63, true), (returnsEarly 70, true)]
    ((audience ++ run).filterMap UsageOperation.instant?).Pairwise (· ≤ ·) ∧
      (∀ op ∈ run, op.instant?.isSome) ∧
      Thinned (run.zip ((after audience).answers run)) kept ∧
      (after audience).answers (kept.map Prod.fst) = kept.map Prod.snd := by
  intro run kept
  have hsorted : ((audience ++ run).filterMap UsageOperation.instant?).Pairwise (· ≤ ·) := by
    decide +kernel
  have huses : ∀ op ∈ run, op.instant?.isSome := by decide +kernel
  have hanswers : (after audience).answers run = [false, true, false, true] := by decide +kernel
  have hkept : Thinned (run.zip ((after audience).answers run)) kept := by
    rw [hanswers]
    exact .drop _ (.keep _ _ (.drop _ (.keep _ _ .nil)))
  exact ⟨hsorted, huses, hkept, answers_of_thinned hsorted huses hkept⟩

end Sample

end ChatCommands
