import ChatCommands.Proofs.Engine.Course
import ChatCommands.Proofs.Grammar.LongestWalk
import ChatCommands.Proofs.Text.Segments

/-!
# Replaying a selection

The arguments of a command are captured by a second walk: it cuts the path of the selection into
segments and follows them from the root, beside the tokens. It goes where the first walk went, although
that one followed tokens and any literals.

* `argumentsAlong`: the tokens that a walk consumed at parameters, with their slots.
* `Replays`: the path of the selection is that of a node, and capturing along it gives these arguments.

**Theorem (`captureFrom_walkFrom`).** From any node, capturing along the segments of a walk succeeds and
gives the arguments of the walk.

**Theorem (`replays_of_built`).** So the engine never refuses a line because its arguments cannot be
captured; it refuses it only for an argument that a slot refuses.
-/

namespace ChatCommands

variable {C : Type}

/-- The number of tokens that a walk consumed. -/
def Walk.length (w : Walk) : Nat :=
  w.entered.length + if w.stuck then 1 else 0

namespace Grammar

/-- The argument that a token is at a node, if a parameter stands below. -/
def argumentAt (g : Grammar C) (id : NodeId) (token : String) : Option Argument :=
  match (g.node id).branches with
  | .parameter child => some ⟨(g.node child).slot, token⟩
  | _ => none

/-- The tokens that a walk from `id` consumed at parameters, in order, each with the parameter's slot.
The `i`-th token was consumed at the `i`-th of `id` and the nodes entered. -/
def argumentsAlong (g : Grammar C) (id : NodeId) (w : Walk) (tokens : List String) :
    List Argument :=
  ((id :: w.entered).zip (tokens.take w.length)).filterMap fun step => g.argumentAt step.1 step.2

/-- The selection for the tokens can be replayed. -/
structure Replays (g : Grammar C) (accepts : Slot → String → Bool) (tokens : List String) :
    Prop where
  /-- The path is the canonical path of a node, and not longer than the tokens. -/
  path : ∃ id < g.nodes.size, ∃ p, g.HasPath id p ∧ p.length ≤ tokens.length ∧
    (g.select accepts tokens).path = Dotted.join p
  /-- Capturing along the path gives the tokens that the walk consumed at parameters. -/
  capture : g.capture tokens (g.select accepts tokens).path =
    .ok (g.argumentsAlong root (g.walk accepts tokens) tokens)

/-! ## Segments of a walk -/

theorem length_segmentsOf (g : Grammar C) (w : Walk) : (g.segmentsOf w).length = w.length := by
  rw [segmentsOf, List.length_append, List.length_map, Walk.length]
  split_ifs <;> rfl

theorem segmentsOf_via (g : Grammar C) (next : NodeId) (w : Walk) :
    g.segmentsOf (w.via next) = (g.node next).segment :: g.segmentsOf w := rfl

theorem length_via (next : NodeId) (w : Walk) : (w.via next).length = w.length + 1 := by
  rw [Walk.length, Walk.via, List.length_cons, Walk.length]
  exact Nat.add_right_comm _ 1 _

/-- A walk consumes tokens only while there are some. -/
theorem length_walkFrom_le (g : Grammar C) (accepts : Slot → String → Bool) (id : NodeId)
    (tokens : List String) : (g.walkFrom accepts id tokens).length ≤ tokens.length := by
  induction tokens generalizing id with
  | nil => exact Nat.le_refl 0
  | cons token tokens ih =>
    cases hnext : g.next? accepts id token with
    | none =>
      rw [Walk.length, (walkFrom_cons_of_next?_eq_none hnext tokens).1]
      simp only [List.length_nil, List.length_cons]
      split_ifs <;> omega
    | some next =>
      rw [walkFrom_cons_of_next?_eq_some hnext, length_via, List.length_cons]
      exact Nat.succ_le_succ (ih next)

/-- **The segments of a walk are the path of a node**: of the last one entered, or of the parameter
that kept the walk from going on. -/
theorem Grown.exists_hasPath_segmentsOf {g : Grammar C} (h : g.Grown)
    (accepts : Slot → String → Bool) (tokens : List String) :
    ∃ id, g.HasPath id (g.segmentsOf (g.walk accepts tokens)) := by
  have hpath := g.hasPath_walk accepts tokens
  by_cases hstuck : (g.walk accepts tokens).stuck = true
  · obtain ⟨child, _, hbranches, -⟩ := (g.stuck_walkFrom_iff accepts root tokens).1 hstuck
    have hchild : g.Child ((g.walk accepts tokens).entered.getLastD root) child := by
      have : (g.node ((g.walk accepts tokens).entered.getLastD root)).branches =
        .parameter child := hbranches
      rw [Child, this]
      exact List.mem_singleton_self child
    refine ⟨child, ?_⟩
    rw [segmentsOf, if_pos hstuck, ← h.segment_parameter hbranches]
    exact hpath.child hchild
  · refine ⟨(g.walk accepts tokens).entered.getLastD root, ?_⟩
    rw [segmentsOf, if_neg hstuck, List.append_nil]
    exact hpath

/-! ## The second walk -/

theorem argumentsAlong_via (g : Grammar C) (id next : NodeId) (w : Walk) (token : String)
    (tokens : List String) :
    g.argumentsAlong id (w.via next) (token :: tokens) =
      (g.argumentAt id token).toList ++ g.argumentsAlong next w tokens := by
  rw [argumentsAlong, length_via, List.take_succ_cons, Walk.via, List.zip_cons_cons,
    List.filterMap_cons]
  cases g.argumentAt id token <;> rfl

/-- A walk that enters nothing captures its first token at most. -/
theorem argumentsAlong_cons_of_none {g : Grammar C} {accepts : Slot → String → Bool} {id : NodeId}
    {token : String} (hnext : g.next? accepts id token = none) (tokens : List String) :
    g.argumentsAlong id (g.walkFrom accepts id (token :: tokens)) (token :: tokens) =
      if (g.walkFrom accepts id (token :: tokens)).stuck then (g.argumentAt id token).toList
      else [] := by
  rw [argumentsAlong, Walk.length, (walkFrom_cons_of_next?_eq_none hnext tokens).1]
  split_ifs
  · cases hargument : g.argumentAt id token <;> simp [hargument]
  · simp

section
variable {g : Grammar C} {id next child : NodeId} {path segment token : String}
  {segments tokens : List String} {later : List Argument}

theorem captureFrom_cons_of_parameter (hbranches : (g.node id).branches = .parameter next)
    (hlater : g.captureFrom path next segments tokens = .ok later) :
    g.captureFrom path id (wildcard :: segments) (token :: tokens) =
      .ok ((g.argumentAt id token).toList ++ later) := by
  simp only [captureFrom, argumentAt, hbranches, if_true, hlater]
  rfl

theorem captureFrom_cons_of_keywords {es : List Edge}
    (hbranches : (g.node id).branches = .keywords es)
    (htarget : Branches.targetWhere? (· == segment) es = some next)
    (hlater : g.captureFrom path next segments tokens = .ok later) :
    g.captureFrom path id (segment :: segments) (token :: tokens) =
      .ok ((g.argumentAt id token).toList ++ later) := by
  simp only [captureFrom, argumentAt, hbranches, htarget, hlater]
  rfl

end

/-- **Capturing goes where the walk went**, and finds at every parameter the token that the walk
consumed there. -/
theorem Grown.captureFrom_walkFrom {g : Grammar C} (h : g.Grown)
    (accepts : Slot → String → Bool) (path : String) (id : NodeId) (tokens : List String) :
    g.captureFrom path id (g.segmentsOf (g.walkFrom accepts id tokens)) tokens =
      .ok (g.argumentsAlong id (g.walkFrom accepts id tokens) tokens) := by
  induction tokens generalizing id with
  | nil => rfl
  | cons token tokens ih =>
    cases hnext : g.next? accepts id token with
    | none =>
      obtain ⟨hentered, hstuck⟩ := walkFrom_cons_of_next?_eq_none hnext tokens
      rw [argumentsAlong_cons_of_none hnext, segmentsOf, hentered, List.map_nil, List.nil_append]
      by_cases hend : (g.walkFrom accepts id (token :: tokens)).stuck = true
      · -- The token was consumed at a required parameter that the walk did not enter.
        obtain ⟨child, hbranches, -⟩ := hstuck.1 hend
        have hlast : g.captureFrom path child [] tokens = .ok [] := by
          cases tokens <;> rfl
        rw [if_pos hend, if_pos hend, captureFrom_cons_of_parameter hbranches hlast,
          List.append_nil]
      · rw [if_neg hend, if_neg hend]
        rfl
    | some next =>
      rw [walkFrom_cons_of_next?_eq_some hnext, segmentsOf_via, argumentsAlong_via]
      cases h.leads_iff.2 hnext with
      | keyword hbranches hedge _ htarget =>
        obtain rfl := htarget
        exact captureFrom_cons_of_keywords hbranches (h.targetWhere?_segment hbranches hedge)
          (ih _)
      | parameter hbranches =>
        rw [h.segment_parameter hbranches]
        exact captureFrom_cons_of_parameter hbranches (ih next)

/-- Cutting the path of the selection gives back the segments of the walk, so capturing along it is
capturing along them. -/
theorem Grown.replays {g : Grammar C} (h : g.Grown) (accepts : Slot → String → Bool)
    (tokens : List String) : g.Replays accepts tokens := by
  obtain ⟨id, hpath⟩ := h.exists_hasPath_segmentsOf accepts tokens
  have hsegment := hpath.isSegment h
  have hlength : (g.segmentsOf (g.walk accepts tokens)).length ≤ tokens.length := by
    rw [length_segmentsOf]
    exact g.length_walkFrom_le accepts root tokens
  refine ⟨⟨id, hpath.lt_size h, _, hpath, hlength, rfl⟩, ?_⟩
  have hcapture := h.captureFrom_walkFrom accepts (g.select accepts tokens).path root tokens
  have hjoin : (g.select accepts tokens).path =
    Dotted.join (g.segmentsOf (g.walk accepts tokens)) := rfl
  unfold Grammar.capture
  by_cases hempty : (g.select accepts tokens).path = ""
  · have hnil := (Dotted.join_eq_empty_iff fun s hs => (hsegment s hs).ne_empty).1
      (hjoin.symm.trans hempty)
    rw [if_pos hempty]
    rw [show g.segmentsOf (g.walkFrom accepts root tokens) = [] from hnil] at hcapture
    exact hcapture
  · have hne : g.segmentsOf (g.walk accepts tokens) ≠ [] := by
      intro hnil
      rw [hjoin, hnil] at hempty
      exact hempty rfl
    have hsplit : Dotted.split (g.select accepts tokens).path =
        g.segmentsOf (g.walk accepts tokens) :=
      Dotted.split_join hne fun s hs => (hsegment s hs).dot_not_mem
    rw [if_neg hempty, hsplit]
    exact (if_neg (Nat.not_lt.2 hlength)).trans hcapture

end Grammar

/-! ## In the engine -/

namespace Engine

variable {σ : Type}

theorem exists_refused_of_arguments?_eq_none {e : Engine C σ} {m : Message} {tokens : List String}
    {path : String} {arguments : List Argument}
    (hcapture : e.grammar.capture tokens path = .ok arguments)
    (h : e.arguments? m tokens path = none) :
    ∃ a ∈ arguments, e.accepts m a.slot a.value = false := by
  unfold arguments? at h
  rw [hcapture] at h
  dsimp only at h
  split_ifs at h with hall
  simpa using hall

/-- A line has bad syntax only if its arguments cannot be captured or one of them is refused. -/
theorem arguments?_eq_none_of_badSyntax {e : Engine C σ} {line chatter : String} {m : Message}
    {now : Int} (h : (e.execute line chatter m now).1.outcome = .badSyntax) :
    ∃ tokens, e.tokensOf? line = some tokens ∧
      e.arguments? m tokens (e.select m tokens).path = none := by
  have hcourse := e.course_execute line chatter m now
  generalize e.execute line chatter m now = result at h hcourse
  cases hcourse with
  | badSyntax hpasses harguments => exact ⟨_, hpasses.tokens_eq, harguments⟩
  | called hpasses _ _ =>
    rcases outcome_invoke _ m _ with hout | hout
    · cases h.symm.trans hout
    · cases h.symm.trans hout
  | _ => cases h

end Engine

/-- **A selection can always be replayed**, so a line has bad syntax only because a slot refuses the
token that stands at it. -/
theorem replays_of_built {g : Grammar C} (h : g.Built) :
    (∀ (accepts : Slot → String → Bool) (tokens : List String), g.Replays accepts tokens) ∧
      ∀ {σ : Type} (e : Engine C σ), e.grammar = g →
        ∀ (line chatter : String) (m : Message) (now : Int),
          (e.execute line chatter m now).1.outcome = .badSyntax →
            ∃ tokens, e.tokensOf? line = some tokens ∧
              ∃ a ∈ g.argumentsAlong root (g.walk (e.accepts m) tokens) tokens,
                e.accepts m a.slot a.value = false := by
  refine ⟨h.grown.replays, fun {σ} e he line chatter m now hbad => ?_⟩
  obtain ⟨tokens, htokens, hnone⟩ := Engine.arguments?_eq_none_of_badSyntax hbad
  subst he
  have hcapture := (h.grown.replays (e.accepts m) tokens).capture
  exact ⟨tokens, htokens, Engine.exists_refused_of_arguments?_eq_none hcapture hnone⟩

/-! ## A sample -/

namespace Sample

/-- Commands that anyone may use and that do nothing. -/
def idle : Behaviour String Unit where
  acceptsCustomPermission _ := false
  allowedByDefault _ _ := true
  registries _ _ := {}
  run _ _ _ _ _ := { state := () }

def talking : Engine String Unit :=
  { grammar := voices.grammar, behaviour := idle, state := () }

def doubt : Message :=
  Message.ofContent "twitch" "chan" "7" "alice" "!w maybe"

/-- The switch below the alias of an alias refuses the word, which is captured for it all the same. -/
theorem replays_of_refused :
    voices.grammar.Built ∧ voices.grammar.Replays (talking.accepts doubt) ["w", "maybe"] ∧
      (talking.execute "!w maybe" "7" doubt 0).1.outcome = .badSyntax ∧
      ∃ tokens, talking.tokensOf? "!w maybe" = some tokens ∧
        ∃ a ∈ voices.grammar.argumentsAlong root
            (voices.grammar.walk (talking.accepts doubt) tokens) tokens,
          talking.accepts doubt a.slot a.value = false := by
  have hbad : (talking.execute "!w maybe" "7" doubt 0).1.outcome = .badSyntax := by
    decide +kernel
  obtain ⟨hreplays, hrefused⟩ := replays_of_built built_voices
  exact ⟨built_voices, hreplays _ _, hbad, hrefused talking rfl _ _ _ _ hbad⟩

example : voices.grammar.capture ["w", "maybe"] "voice.*" =
    .ok [⟨{ name := "state", kind := .toggle }, "maybe"⟩] := by
  decide +kernel

end Sample

end ChatCommands
