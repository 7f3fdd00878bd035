import Mathlib.Algebra.BigOperators.Group.Finset.Basic
import Mathlib.Algebra.Order.BigOperators.Group.Finset
import ChatCommands.Proofs.Engine.Effects
import ChatCommands.Proofs.Usage.Pruning
import ChatCommands.Proofs.Usage.Sparse

/-!
# How often a command can be called

Limits are charged through several groups, pass uses on to limits above them that other commands share,
and forget what chatters did when others make them do so. For all that, the limits on the way to a path
bound how often a chatter gets through to it.

* `Operation.Steady`: what may go on meanwhile. All but changes of the usage policies, of the groups of
  the chatter, and of who is bound by limits.
* `Engine.chargeable`: the nodes that a line with some path may be charged to.
* `Engine.Watches`: the invariant of a run, with a log of the charges for the chatter.

**Theorem (`usesIn_callInstants_le`).** Whatever was done to an engine before, and whatever steady
operations are done to it in order of time, the number of the chatter's lines in a half-open interval of
time that select the path and reach a command is at most the sum of the counts of the chargeable nodes,
if the interval is no longer than any of their windows.
-/

namespace ChatCommands

variable {C σ : Type}

/-! ## What is counted -/

/-- The operation leaves alone what binds the chatter: the usage policies, the chatter's groups, that
limits are enforced and that the chatter is no owner. -/
def Operation.Steady (chatter : String) : Operation σ → Prop
  | .setOwners owners => chatter ∉ owners
  | .enforceLimits on => on = true
  | .addMember _ other | .removeMember _ other => other ≠ chatter
  | .setLimit .. | .removeLimits .. | .clearLimits | .rebuildLimits .. => False
  | .event _ | .updateLimit _ | .listen .. => False
  | _ => True

/-- The line that an operation runs, with its chatter and message. -/
def Operation.line? : Operation σ → Option (String × String × Message)
  | .line text chatter m => some (text, chatter, m)
  | .message m => some (m.content, m.userId, m)
  | _ => none

namespace Engine

/-- The line selects the path and reaches a command. -/
def getsThrough (e : Engine C σ) (path line chatter : String) (m : Message) (now : Int) : Bool :=
  ((e.tokensOf? line).any fun tokens => decide ((e.select m tokens).path = path)) &&
    !(e.execute line chatter m now).1.calls.isEmpty

/-- The operation is a line of the chatter that selects the path and reaches a command. -/
def calls (e : Engine C σ) (chatter path : String) (now : Int) (op : Operation σ) : Bool :=
  op.line?.any fun (line, user, m) => decide (user = chatter) && e.getsThrough path line user m now

/-- The instants of the chatter's lines that select the path and reach a command. -/
def callInstants (e : Engine C σ) (chatter path : String) : List (Int × Operation σ) → List Int
  | [] => []
  | (now, op) :: ops =>
    (if e.calls chatter path now op then [now] else []) ++
      (e.perform now op).2.callInstants chatter path ops

/-- The nodes with a limit, below the root, on the way to the path below one of the chatter's
groups. -/
def chargeable (e : Engine C σ) (chatter path : String) : Finset (List String) :=
  ((e.groups.groupsOf chatter).members.flatMap fun group =>
    (Dotted.segments (Dotted.below group path)).inits).toFinset.filter fun p =>
      p ≠ [] ∧ (e.policy.usage.accounts.limit p).isSome

theorem mem_chargeable {e : Engine C σ} {chatter path : String} {p : List String} :
    p ∈ e.chargeable chatter path ↔
      (∃ group ∈ e.groups.groupsOf chatter, p <+: Dotted.segments (Dotted.below group path)) ∧
        p ≠ [] ∧ (e.policy.usage.accounts.limit p).isSome := by
  rw [chargeable, Finset.mem_filter, List.mem_toFinset, List.mem_flatMap]
  simp only [List.mem_inits, StringSet.mem_def]

/-- The count of the limit at a node, 0 where there is none. -/
def countAt (e : Engine C σ) (p : List String) : Nat :=
  ((e.policy.usage.accounts.limit p).map UsageLimit.count).getD 0

/-! ## The invariant -/

/-- Limits bind the chatter, who is in these groups, and all charges for the chatter since some moment
are in the log. -/
structure Watches (e : Engine C σ) (chatter : String) (limits : LimitMap) (groups : Set String)
    (log : List String → List Int) (now : Int) : Prop where
  enforced : e.enforceLimits = true
  not_owner : e.isOwner chatter = false
  limits_eq : e.policy.usage.accounts.limit = limits
  mem_groups : ∀ group, group ∈ e.groups.groupsOf chatter ↔ group ∈ groups
  tracks : e.policy.usage.accounts.Tracks chatter log now

/-- The node lies on the way to the path below one of the groups, and has a limit. -/
def OnTheWay (limits : LimitMap) (groups : Set String) (path : String) (p : List String) : Prop :=
  (∃ group ∈ groups, p <+: Dotted.segments (Dotted.below group path)) ∧ (limits p).isSome

section
variable {e e' : Engine C σ} {chatter : String} {limits : LimitMap} {groups : Set String}
  {log : List String → List Int} {now now' : Int}

/-- What does not concern usage and bindings keeps the watch. -/
theorem Watches.of_usage_eq (h : e.Watches chatter limits groups log now) (hnow : now ≤ now')
    (henforced : e'.enforceLimits = true) (howner : e'.isOwner chatter = false)
    (hgroups : ∀ group, group ∈ e'.groups.groupsOf chatter ↔ group ∈ e.groups.groupsOf chatter)
    (husage : e'.policy.usage = e.policy.usage) :
    e'.Watches chatter limits groups log now' where
  enforced := henforced
  not_owner := howner
  limits_eq := by rw [husage, h.limits_eq]
  mem_groups group := (hgroups group).trans (h.mem_groups group)
  tracks := by
    rw [husage]
    exact h.tracks.later hnow

theorem Watches.later (h : e.Watches chatter limits groups log now) (hnow : now ≤ now') :
    e.Watches chatter limits groups log now' :=
  h.of_usage_eq hnow h.enforced h.not_owner (fun _ => Iff.rfl) rfl

/-- The engine with the usage tree that some use leaves. -/
theorem Watches.withUsage (h : e.Watches chatter limits groups log now) {usage : UsageTree}
    {log' : List String → List Int} (hlimit : usage.accounts.limit = e.policy.usage.accounts.limit)
    (htracks : usage.accounts.Tracks chatter log' now) :
    (e.withUsage usage).Watches chatter limits groups log' now where
  enforced := h.enforced
  not_owner := h.not_owner
  limits_eq := hlimit.trans h.limits_eq
  mem_groups := h.mem_groups
  tracks := htracks

/-- **A charge of anyone.** If it is one of the chatter and there was room, it is logged. -/
theorem Watches.charge (h : e.Watches chatter limits groups log now) (user : String)
    (asked : StringSet) (path : String) :
    ∃ log', (e.charge user asked path now).2.Watches chatter limits groups log' now ∧
      Accounts.Logs (OnTheWay limits {group | group ∈ asked} path)
        (user = chatter ∧ (e.charge user asked path now).1 = true) now log log' := by
  rcases bound_or_not e user with ⟨henforced, howner⟩ | hfree
  · obtain ⟨log', htracks, hlogs⟩ := UsageTree.tracks_tryUseGroups h.tracks user asked path
    have hlimit := e.policy.usage.limit_perform (.useGroups user asked path now)
    rw [charge_of_bound henforced howner]
    rw [h.limits_eq] at hlogs
    exact ⟨log', h.withUsage hlimit htracks, hlogs.mono (fun _ hp => hp) id⟩
  · rw [charge_of_not_bound hfree]
    refine ⟨log, h, .refl log ?_⟩
    rintro ⟨rfl, -⟩
    rcases hfree with hfree | hfree
    · rw [h.enforced] at hfree
      cases hfree
    · rw [h.not_owner] at hfree
      cases hfree

/-- **A line of anyone.** If it is one of the chatter that selects the path and reaches a command, it is
logged at a node on the way to the path. -/
theorem Watches.execute (h : e.Watches chatter limits groups log now) (path line user : String)
    (m : Message) :
    ∃ log', (e.execute line user m now).2.Watches chatter limits groups log' now ∧
      Accounts.Logs (OnTheWay limits groups path)
        (user = chatter ∧ e.getsThrough path line user m now = true) now log log' := by
  -- A line that calls nothing has nothing to log.
  have hsilent : ∀ {r : Report C × Engine C σ}, e.execute line user m now = r → r.1.calls = [] →
      ¬ (user = chatter ∧ e.getsThrough path line user m now = true) := by
    rintro r heq hnil ⟨-, hthrough⟩
    rw [getsThrough, heq, hnil] at hthrough
    simp at hthrough
  have hcourse := e.course_execute line user m now
  generalize hresult : e.execute line user m now = result at hcourse
  cases hcourse with
  | unrecognized => exact ⟨log, h, .refl log (hsilent hresult rfl)⟩
  | forbidden => exact ⟨log, h, .refl log (hsilent hresult rfl)⟩
  | badSyntax => exact ⟨log, h, .refl log (hsilent hresult rfl)⟩
  | @rateLimited tokens _ _ hpasses =>
    obtain ⟨log', hwatches, hlogs⟩ :=
      h.charge user (e.groups.groupsOf user) (e.select m tokens).path
    exact ⟨log', hwatches, hlogs.sublist, fun hthrough => absurd hthrough (hsilent hresult rfl)⟩
  | @called tokens command arguments hpasses _ hcharge =>
    obtain ⟨log', hwatches, hlogs⟩ :=
      h.charge user (e.groups.groupsOf user) (e.select m tokens).path
    refine ⟨log', hwatches.of_usage_eq le_rfl hwatches.enforced hwatches.not_owner
      (fun _ => Iff.rfl) rfl, hlogs.sublist, ?_⟩
    rintro ⟨rfl, hthrough⟩
    have hpath : (e.select m tokens).path = path := by
      rw [getsThrough, hpasses.tokens_eq, Bool.and_eq_true] at hthrough
      simpa using hthrough.1
    obtain ⟨p, ⟨⟨group, hgroup, hp⟩, hset⟩, hlog⟩ := hlogs.logged ⟨rfl, hcharge⟩
    rw [hpath] at hp
    exact ⟨p, ⟨⟨group, (h.mem_groups group).1 hgroup, hp⟩, hset⟩, hlog⟩

theorem calls_ne_true {path : String} {op : Operation σ} (h : op.line? = none) :
    ¬ e.calls chatter path now op = true := by
  rw [calls, h]
  exact Bool.false_ne_true

/-- An operation that is no line and has nothing to do with usage leaves the log as it is. -/
theorem Watches.perform_of_usage_eq (h : e.Watches chatter limits groups log now)
    (hnow : now ≤ now') {op : Operation σ} (path : String) (hline : op.line? = none)
    (henforced : (e.perform now' op).2.enforceLimits = true)
    (howner : (e.perform now' op).2.isOwner chatter = false)
    (hgroups : ∀ group, group ∈ (e.perform now' op).2.groups.groupsOf chatter ↔
      group ∈ e.groups.groupsOf chatter)
    (husage : (e.perform now' op).2.policy.usage = e.policy.usage) :
    ∃ log', (e.perform now' op).2.Watches chatter limits groups log' now' ∧
      Accounts.Logs (OnTheWay limits groups path) (e.calls chatter path now' op = true) now' log
        log' := by
  refine ⟨log, h.of_usage_eq hnow henforced howner hgroups husage, .refl log ?_⟩
  exact calls_ne_true hline

/-- **One steady operation** keeps the watch, and logs what it has to. -/
theorem Watches.perform (h : e.Watches chatter limits groups log now) (hnow : now ≤ now')
    {op : Operation σ} (hsteady : op.Steady chatter) (path : String) :
    ∃ log', (e.perform now' op).2.Watches chatter limits groups log' now' ∧
      Accounts.Logs (OnTheWay limits groups path) (e.calls chatter path now' op = true) now' log
        log' := by
  have hlater := h.later hnow
  cases op with
  | line text user m =>
    obtain ⟨log', hwatches, hlogs⟩ := hlater.execute path text user m
    refine ⟨log', hwatches, hlogs.mono (fun _ hp => hp) fun hcalls => ?_⟩
    simpa [calls, Operation.line?] using hcalls
  | message m =>
    obtain ⟨log', hwatches, hlogs⟩ := hlater.execute path m.content m.userId m
    refine ⟨log', hwatches, hlogs.mono (fun _ hp => hp) fun hcalls => ?_⟩
    simpa [calls, Operation.line?] using hcalls
  | use user path' =>
    obtain ⟨log', htracks, hlogs⟩ := UsageTree.tracks_tryUse hlater.tracks user path'
    exact ⟨log', hlater.withUsage (UsageTree.limit_tryUse ..) htracks, hlogs.sublist,
      fun hcalls => absurd hcalls (calls_ne_true rfl)⟩
  | useGroups user asked suffix =>
    obtain ⟨log', htracks, hlogs⟩ := UsageTree.tracks_tryUseGroups hlater.tracks user asked suffix
    have hlimit := e.policy.usage.limit_perform (.useGroups user asked suffix now')
    exact ⟨log', hlater.withUsage hlimit htracks, hlogs.sublist,
      fun hcalls => absurd hcalls (calls_ne_true rfl)⟩
  | setOwners owners =>
    have howner : (e.perform now' (.setOwners owners)).2.isOwner chatter = false := by
      have hout : chatter ∉ owners := hsteady
      show owners.contains chatter = false
      simpa using hout
    exact h.perform_of_usage_eq hnow path rfl h.enforced howner (fun _ => Iff.rfl) rfl
  | enforceLimits on =>
    exact h.perform_of_usage_eq hnow path rfl hsteady h.not_owner (fun _ => Iff.rfl) rfl
  | addMember name other | removeMember name other =>
    have hother : other ≠ chatter := hsteady
    refine h.perform_of_usage_eq hnow path rfl h.enforced h.not_owner (fun group => ?_) rfl
    rw [Groups.mem_groupsOf, Groups.mem_groupsOf, mem_members_perform]
    simp [hother]
  | removeRules path' =>
    apply h.perform_of_usage_eq hnow path rfl <;> simp only [Engine.perform] <;> split
    all_goals first | exact h.enforced | exact h.not_owner | rfl | exact fun _ => Iff.rfl
  | setLimit | removeLimits | clearLimits | rebuildLimits | event | updateLimit | listen =>
    exact hsteady.elim
  | _ => exact h.perform_of_usage_eq hnow path rfl h.enforced h.not_owner (fun _ => Iff.rfl) rfl

/-- What is logged at the nodes on the way makes up for the call. -/
theorem sum_usesIn_le {log' : List String → List Int} {path : String} {N : Finset (List String)}
    {granted : Prop} (h : Accounts.Logs (OnTheWay limits groups path) granted now log log')
    (hN : ∀ p, OnTheWay limits groups path p → p ∈ N) [Decidable granted] (a W : Int) :
    usesIn a W (if granted then [now] else []) + ∑ p ∈ N, usesIn a W (log p) ≤
      ∑ p ∈ N, usesIn a W (log' p) := by
  have hle : ∀ p, usesIn a W (log p) ≤ usesIn a W (log' p) :=
    fun p => usesIn_le_of_sublist (h.sublist p)
  split_ifs with hgranted
  · obtain ⟨p, hp, hlog⟩ := h.logged hgranted
    have hmem := hN p hp
    have hself := usesIn_le_of_sublist (a := a) (W := W) hlog
    rw [usesIn_append] at hself
    have hrest := Finset.sum_le_sum fun q (_ : q ∈ N.erase p) => hle q
    rw [← Finset.add_sum_erase N _ hmem, ← Finset.add_sum_erase N _ hmem]
    omega
  · show 0 + _ ≤ _
    rw [Nat.zero_add]
    exact Finset.sum_le_sum fun p _ => hle p

/-- **A run of steady operations.** Its calls in any interval are made up for by what is logged. -/
theorem Watches.usesIn_callInstants (h : e.Watches chatter limits groups log now) {path : String}
    {N : Finset (List String)} (hN : ∀ p, OnTheWay limits groups path p → p ∈ N)
    {ops : List (Int × Operation σ)} (hsorted : (now :: ops.map Prod.fst).Pairwise (· ≤ ·))
    (hsteady : ∀ op ∈ ops, op.2.Steady chatter) :
    ∃ log' now', (e.run ops).Watches chatter limits groups log' now' ∧ ∀ a W,
      usesIn a W (e.callInstants chatter path ops) + ∑ p ∈ N, usesIn a W (log p) ≤
        ∑ p ∈ N, usesIn a W (log' p) := by
  induction ops generalizing e log now with
  | nil => exact ⟨log, now, h, fun a W => (Nat.zero_add _).le⟩
  | cons op ops ih =>
    obtain ⟨now', op⟩ := op
    obtain ⟨hfirst, hrest⟩ := List.pairwise_cons.1 hsorted
    have hnow : now ≤ now' := hfirst now' List.mem_cons_self
    have hop : op.Steady chatter := hsteady (now', op) List.mem_cons_self
    obtain ⟨log₁, hwatches, hlogs⟩ := h.perform hnow hop path
    obtain ⟨log', last, hlast, hle⟩ :=
      ih hwatches hrest fun op' hop' => hsteady op' (List.mem_cons_of_mem _ hop')
    refine ⟨log', last, hlast, fun a W => ?_⟩
    have hstep := sum_usesIn_le hlogs hN a W
    have := hle a W
    rw [callInstants, usesIn_append]
    omega

end

/-- **The bound.** `N`, the nodes on the way to the path that may be charged, are those of the engine
`e`, and `W` is at most the smallest of their windows. -/
theorem usesIn_callInstants_le (grammar : Grammar C) (behaviour : Behaviour C σ) (state : σ)
    (before : List (Int × Operation σ)) {e : Engine C σ}
    (he : (start grammar behaviour state).run before = e) (henforced : e.enforceLimits = true)
    {chatter : String} (howner : e.isOwner chatter = false) {ops : List (Int × Operation σ)}
    (hsorted : (ops.map Prod.fst).Pairwise (· ≤ ·)) (hsteady : ∀ op ∈ ops, op.2.Steady chatter)
    (path : String) {W : Int}
    (hW : ∀ p ∈ e.chargeable chatter path, ∀ limit ∈ e.policy.usage.accounts.limit p,
      W ≤ limit.window) (a : Int) :
    usesIn a W (e.callInstants chatter path ops) ≤
      ∑ p ∈ e.chargeable chatter path, e.countAt p := by
  have hreachable : e.policy.usage.Reachable := by
    rw [← he]
    exact reachable_run .empty before
  have hN : ∀ p, OnTheWay e.policy.usage.accounts.limit
      {group | group ∈ e.groups.groupsOf chatter} path p → p ∈ e.chargeable chatter path := by
    rintro p ⟨hp, hset⟩
    refine mem_chargeable.2 ⟨hp, ?_, hset⟩
    rintro rfl
    rw [hreachable.limit_nil] at hset
    cases hset
  cases ops with
  | nil => exact Nat.zero_le _
  | cons op ops =>
    have hwatches : e.Watches chatter e.policy.usage.accounts.limit
        {group | group ∈ e.groups.groupsOf chatter} (fun _ => []) op.1 :=
      ⟨henforced, howner, rfl, fun _ => Iff.rfl, hreachable.tracks_nil chatter op.1⟩
    have hsorted' : (op.1 :: (op :: ops).map Prod.fst).Pairwise (· ≤ ·) := by
      rw [List.map_cons, List.pairwise_cons] at hsorted ⊢
      refine ⟨fun s hs => ?_, List.pairwise_cons.2 hsorted⟩
      rcases List.mem_cons.1 hs with rfl | hs
      · exact le_rfl
      · exact hsorted.1 s hs
    obtain ⟨log, now, hlast, hle⟩ := hwatches.usesIn_callInstants hN hsorted' hsteady
    have hnodes : ∀ p ∈ e.chargeable chatter path, usesIn a W (log p) ≤ e.countAt p := by
      intro p hp
      obtain ⟨limit, hlimit⟩ := Option.isSome_iff_exists.1 (mem_chargeable.1 hp).2.2
      have hsparse := (hlast.tracks.buffers (hlast.limits_eq ▸ hlimit)).sparse a
      rw [countAt, hlimit]
      exact (usesIn_mono (hW p hp limit hlimit)).trans hsparse
    calc usesIn a W (e.callInstants chatter path (op :: ops))
        ≤ usesIn a W (e.callInstants chatter path (op :: ops)) +
            ∑ p ∈ e.chargeable chatter path, usesIn a W [] := Nat.le_add_right _ _
      _ ≤ ∑ p ∈ e.chargeable chatter path, usesIn a W (log p) := hle a W
      _ ≤ ∑ p ∈ e.chargeable chatter path, e.countAt p := Finset.sum_le_sum hnodes

end Engine

/-! ## A sample -/

namespace Sample

open Engine

/-- One use a second for a command, and two a minute for everyone. -/
def limited : List (Int × Operation Unit) :=
  [(0, .enforceLimits true), (0, .setLimit "everyone.tts" ⟨1, 1000⟩),
    (0, .setLimit "everyone" ⟨2, 60000⟩)]

/-- A chatter runs the command again and again, while another one comes and goes. -/
def insisting : List (Int × Operation Unit) :=
  [(1, .line "!tts now" "7" message), (2, .addMember "mods" "8"),
    (2, .line "!tts  later" "7" message), (3, .line "!tts now" "8" message),
    (4, .line "!tts now" "7" message), (5, .line "!tts" "7" message)]

/-- Three calls get through, as many as the two limits allow together. -/
theorem usesIn_callInstants_insisting :
    let e := (start builder.grammar scripted ()).run limited
    e.enforceLimits = true ∧ e.isOwner "7" = false ∧
      (insisting.map Prod.fst).Pairwise (· ≤ ·) ∧ (∀ op ∈ insisting, op.2.Steady "7") ∧
      (∀ p ∈ e.chargeable "7" "tts", ∀ limit ∈ e.policy.usage.accounts.limit p,
        1000 ≤ limit.window) ∧
      usesIn 1 1000 (e.callInstants "7" "tts" insisting) ≤
        ∑ p ∈ e.chargeable "7" "tts", e.countAt p := by
  intro e
  have henforced : e.enforceLimits = true := by decide +kernel
  have howner : e.isOwner "7" = false := by decide +kernel
  have hsorted : (insisting.map Prod.fst).Pairwise (· ≤ ·) := by decide
  have hsteady : ∀ op ∈ insisting, op.2.Steady "7" := by
    simp [insisting, Operation.Steady]
  have hW : ∀ p ∈ e.chargeable "7" "tts", ∀ limit ∈ e.policy.usage.accounts.limit p,
      1000 ≤ limit.window := by
    decide +kernel
  exact ⟨henforced, howner, hsorted, hsteady, hW, usesIn_callInstants_le builder.grammar scripted ()
    limited rfl henforced howner hsorted hsteady "tts" hW 1⟩

-- The bound is met, and another chatter's line is not counted.
example :
    let e := (start builder.grammar scripted ()).run limited
    e.callInstants "7" "tts" insisting = [1, 2, 4] ∧
      ∑ p ∈ e.chargeable "7" "tts", e.countAt p = 3 := by
  decide +kernel

end Sample

end ChatCommands
