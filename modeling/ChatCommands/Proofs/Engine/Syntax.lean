import ChatCommands.Proofs.Engine.Frame
import ChatCommands.Proofs.Grammar.Replay

/-!
# Lines of bad syntax

The arguments of a line are checked after the command was selected, although the walk has asked the same
slots about the same words before. It went on only where they accepted the word, and it left a word alone
that an optional slot refused. So one argument alone can fail the check, the last.

* `Grammar.RefusedAt`: a walk stopped at a required parameter, whose slot refuses the word there.
* `refusedAt_of_refused`: an argument that is refused is the one that the walk stopped at.
* `mem_arguments_of_refusedAt`: where a walk stopped so, the word is captured and will be refused.

**Theorem (`outcome_eq_badSyntax_iff`).** A line has bad syntax exactly if it names a command that the
chatter may use and its walk stopped at a required parameter that refuses the word there.
-/

namespace ChatCommands

variable {C σ : Type}

namespace Grammar

/-! ## Where a walk is refused -/

/-- The walk from `id` stopped above the required parameter `child`, and `token` comes next, which the
slot of the parameter refuses. -/
structure RefusedAt (g : Grammar C) (accepts : Slot → String → Bool) (id : NodeId)
    (tokens : List String) (child : NodeId) (token : String) : Prop where
  branches : (g.node ((g.walkFrom accepts id tokens).entered.getLastD id)).branches =
    .parameter child
  required : (g.node child).slot.optional = false
  next : tokens[(g.walkFrom accepts id tokens).entered.length]? = some token
  refused : accepts (g.node child).slot token = false

section
variable {g : Grammar C} {accepts : Slot → String → Bool} {id next child : NodeId}
  {first token : String} {tokens : List String}

/-- A walk that enters a node is refused where the walk from there is. -/
theorem refusedAt_cons_of_some (hnext : g.next? accepts id first = some next) :
    g.RefusedAt accepts id (first :: tokens) child token ↔
      g.RefusedAt accepts next tokens child token := by
  have hwalk : g.walkFrom accepts id (first :: tokens) =
      (g.walkFrom accepts next tokens).via next := walkFrom_cons_of_next?_eq_some hnext
  constructor
  · rintro ⟨hbranches, hrequired, htoken, hrefused⟩
    rw [hwalk] at hbranches htoken
    simp only [Walk.via, List.getLastD_cons, List.length_cons, List.getElem?_cons_succ]
      at hbranches htoken
    exact ⟨hbranches, hrequired, htoken, hrefused⟩
  · rintro ⟨hbranches, hrequired, htoken, hrefused⟩
    refine ⟨?_, hrequired, ?_, hrefused⟩
    · rw [hwalk]
      simpa only [Walk.via, List.getLastD_cons] using hbranches
    · rw [hwalk]
      simpa only [Walk.via, List.length_cons, List.getElem?_cons_succ] using htoken

/-- A walk that enters nothing is refused at its first word, if at all. -/
theorem refusedAt_cons_of_none (hnext : g.next? accepts id first = none) :
    g.RefusedAt accepts id (first :: tokens) child token ↔
      (g.node id).branches = .parameter child ∧ (g.node child).slot.optional = false ∧
        first = token ∧ accepts (g.node child).slot token = false := by
  have hentered := (walkFrom_cons_of_next?_eq_none hnext tokens).1
  constructor
  · rintro ⟨hbranches, hrequired, htoken, hrefused⟩
    rw [hentered] at hbranches htoken
    exact ⟨hbranches, hrequired, Option.some.inj htoken, hrefused⟩
  · rintro ⟨hbranches, hrequired, rfl, hrefused⟩
    refine ⟨?_, hrequired, ?_, hrefused⟩
    · rwa [hentered]
    · rw [hentered]
      rfl

/-! ## The arguments of a walk -/

/-- The word at a parameter that a walk enters is accepted there. -/
theorem Grown.accepts_of_argumentAt (h : g.Grown) (hnext : g.next? accepts id first = some next)
    {a : Argument} (ha : g.argumentAt id first = some a) : accepts a.slot a.value = true := by
  cases h.leads_iff.2 hnext with
  | keyword hbranches =>
    rw [argumentAt, hbranches] at ha
    cases ha
  | parameter hbranches haccepts =>
    rw [argumentAt, hbranches] at ha
    cases ha
    exact haccepts

/-- **Only the last argument can be refused**, and it is the word that the walk stopped at. -/
theorem Grown.refusedAt_of_refused (h : g.Grown) {before after : List Argument} {a : Argument}
    (hsplit : g.argumentsAlong id (g.walkFrom accepts id tokens) tokens = before ++ a :: after)
    (hrefused : accepts a.slot a.value = false) :
    after = [] ∧ ∃ child, (g.node child).slot = a.slot ∧
      g.RefusedAt accepts id tokens child a.value := by
  induction tokens generalizing id before with
  | nil =>
    rw [argumentsAlong, List.take_nil, List.zip_nil_right] at hsplit
    exact absurd hsplit.symm (List.append_ne_nil_of_right_ne_nil _ (List.cons_ne_nil _ _))
  | cons first tokens ih =>
    cases hnext : g.next? accepts id first with
    | none =>
      -- The walk ends here, so there is one argument at most.
      rw [argumentsAlong_cons_of_none hnext] at hsplit
      split_ifs at hsplit with hstuck
      · obtain ⟨child, hbranches, hrequired, -⟩ :=
          (walkFrom_cons_of_next?_eq_none hnext tokens).2.1 hstuck
        simp only [argumentAt, hbranches, Option.toList_some] at hsplit
        obtain ⟨rfl, rfl, rfl⟩ : before = [] ∧ ⟨(g.node child).slot, first⟩ = a ∧ after = [] := by
          cases before with
          | nil => simpa using hsplit
          | cons b before => simp at hsplit
        exact ⟨rfl, child, rfl,
          (refusedAt_cons_of_none hnext).2 ⟨hbranches, hrequired, rfl, hrefused⟩⟩
      · exact absurd hsplit.symm (List.append_ne_nil_of_right_ne_nil _ (List.cons_ne_nil _ _))
    | some next =>
      rw [walkFrom_cons_of_next?_eq_some hnext, argumentsAlong_via] at hsplit
      -- What the first word gives is accepted, so the refused argument comes later.
      have hlater : ∃ before', g.argumentsAlong next (g.walkFrom accepts next tokens) tokens =
          before' ++ a :: after := by
        cases hargument : g.argumentAt id first with
        | none =>
          rw [hargument] at hsplit
          exact ⟨before, hsplit⟩
        | some b =>
          rw [hargument] at hsplit
          cases before with
          | nil =>
            obtain ⟨rfl, -⟩ := List.cons.inj hsplit
            cases hrefused.symm.trans (h.accepts_of_argumentAt hnext hargument)
          | cons _ before => exact ⟨before, (List.cons.inj hsplit).2⟩
      obtain ⟨before', hlater⟩ := hlater
      obtain ⟨hlast, child, hslot, hat⟩ := ih hlater
      exact ⟨hlast, child, hslot, (refusedAt_cons_of_some hnext).2 hat⟩

/-- **The word that a walk stopped at is captured.** -/
theorem mem_arguments_of_refusedAt (h : g.RefusedAt accepts id tokens child token) :
    ⟨(g.node child).slot, token⟩ ∈ g.argumentsAlong id (g.walkFrom accepts id tokens) tokens := by
  induction tokens generalizing id with
  | nil => cases h.next
  | cons first tokens ih =>
    cases hnext : g.next? accepts id first with
    | none =>
      obtain ⟨hbranches, hrequired, rfl, hrefused⟩ := (refusedAt_cons_of_none hnext).1 h
      have hstuck := (walkFrom_cons_of_next?_eq_none hnext tokens).2.2
        ⟨child, hbranches, hrequired, .inl hrefused⟩
      rw [argumentsAlong_cons_of_none hnext, if_pos hstuck, argumentAt, hbranches]
      exact List.mem_singleton_self _
    | some next =>
      rw [walkFrom_cons_of_next?_eq_some hnext, argumentsAlong_via]
      exact List.mem_append_right _ (ih ((refusedAt_cons_of_some hnext).1 h))

end

end Grammar

/-! ## In the engine -/

namespace Engine

variable {e : Engine C σ} {line chatter : String} {m : Message} {now : Int}

/-- The arguments of a selection can be captured, and are those of its walk. -/
theorem capture_select (hgrammar : e.grammar.Built) (m : Message) (tokens : List String) :
    e.grammar.capture tokens (e.select m tokens).path =
      .ok (e.grammar.argumentsAlong root (e.grammar.walk (e.accepts m) tokens) tokens) :=
  (hgrammar.grown.replays (e.accepts m) tokens).capture

/-- **The arguments are refused exactly if the walk was.** -/
theorem arguments?_eq_none_iff (hgrammar : e.grammar.Built) (m : Message) (tokens : List String) :
    e.arguments? m tokens (e.select m tokens).path = none ↔
      ∃ child token, e.grammar.RefusedAt (e.accepts m) root tokens child token := by
  have hcapture := capture_select hgrammar m tokens
  constructor
  · intro hnone
    obtain ⟨a, ha, hrefused⟩ := exists_refused_of_arguments?_eq_none hcapture hnone
    obtain ⟨before, after, hsplit⟩ := List.append_of_mem ha
    obtain ⟨-, child, -, hat⟩ := hgrammar.grown.refusedAt_of_refused hsplit hrefused
    exact ⟨child, a.value, hat⟩
  · rintro ⟨child, token, hat⟩
    unfold arguments?
    rw [hcapture]
    refine if_neg fun hall => ?_
    have haccepted := List.all_eq_true.1 hall _ (Grammar.mem_arguments_of_refusedAt hat)
    cases hat.refused.symm.trans haccepted

/-- The third stage settles a line that passes the second, if it refuses the arguments. -/
theorem outcome_eq_badSyntax_iff_passes :
    (e.execute line chatter m now).1.outcome = .badSyntax ↔
      ∃ tokens command, e.Passes line chatter m tokens command ∧
        e.arguments? m tokens (e.select m tokens).path = none := by
  have hcourse := e.course_execute line chatter m now
  generalize e.execute line chatter m now = result at hcourse
  constructor
  · intro hbad
    cases hcourse with
    | badSyntax hpasses harguments => exact ⟨_, _, hpasses, harguments⟩
    | called =>
      rcases outcome_invoke _ m _ with hout | hout
      · cases hbad.symm.trans hout
      · cases hbad.symm.trans hout
    | _ => cases hbad
  · rintro ⟨tokens, command, hpasses, hnone⟩
    cases hcourse with
    | unrecognized hnot => exact absurd hpasses.toNames (hnot tokens command)
    | forbidden hnames howner hpermits =>
      obtain ⟨rfl, rfl⟩ := hpasses.toNames.unique hnames
      cases hpermits.symm.trans (hpasses.permits howner)
    | badSyntax => rfl
    | rateLimited hpasses' harguments =>
      obtain ⟨rfl, -⟩ := hpasses.toNames.unique hpasses'.toNames
      cases hnone.symm.trans harguments
    | called hpasses' harguments =>
      obtain ⟨rfl, -⟩ := hpasses.toNames.unique hpasses'.toNames
      cases hnone.symm.trans harguments

/-- **A line has bad syntax exactly if the walk of its command was refused**, the chatter being an owner
or allowed to use the command. Of the arguments that are captured for any tokens the last alone can be
refused, and it is one that may not be left out. -/
theorem outcome_eq_badSyntax_iff (hgrammar : e.grammar.Built) (line chatter : String) (m : Message)
    (now : Int) :
    ((e.execute line chatter m now).1.outcome = .badSyntax ↔
      ∃ tokens command child token, e.tokensOf? line = some tokens ∧
        (e.select m tokens).command = some command ∧
        (e.isOwner chatter = true ∨
          e.permits (e.groups.groupsOf chatter) m command (e.select m tokens) = true) ∧
        e.grammar.RefusedAt (e.accepts m) root tokens child token) ∧
    ∀ tokens, ∃ arguments, e.grammar.capture tokens (e.select m tokens).path = .ok arguments ∧
      ∀ before a after, arguments = before ++ a :: after → e.accepts m a.slot a.value = false →
        after = [] ∧ a.slot.optional = false ∧ ∃ child, (e.grammar.node child).slot = a.slot ∧
          e.grammar.RefusedAt (e.accepts m) root tokens child a.value := by
  rw [outcome_eq_badSyntax_iff_passes]
  refine ⟨⟨?_, ?_⟩, fun tokens => ⟨_, capture_select hgrammar m tokens, ?_⟩⟩
  · rintro ⟨tokens, command, hpasses, hnone⟩
    obtain ⟨child, token, hat⟩ := (arguments?_eq_none_iff hgrammar m tokens).1 hnone
    refine ⟨tokens, command, child, token, hpasses.tokens_eq, hpasses.command_eq, ?_, hat⟩
    cases howner : e.isOwner chatter with
    | true => exact .inl rfl
    | false => exact .inr (hpasses.permits howner)
  · rintro ⟨tokens, command, child, token, htokens, hcommand, hallowed, hat⟩
    have hne : tokens ≠ [] := by
      rintro rfl
      cases hat.next
    refine ⟨tokens, command, ⟨⟨htokens, hne, hcommand⟩, fun howner => ?_⟩,
      (arguments?_eq_none_iff hgrammar m tokens).2 ⟨child, token, hat⟩⟩
    exact hallowed.resolve_left fun hisOwner => Bool.false_ne_true (howner.symm.trans hisOwner)
  · intro before a after hsplit hrefused
    obtain ⟨hlast, child, hslot, hat⟩ := hgrammar.grown.refusedAt_of_refused hsplit hrefused
    refine ⟨hlast, ?_, child, hslot, hat⟩
    rw [← hslot]
    exact hat.required

end Engine

/-! ## A sample -/

namespace Sample

/-- An engine whose owner is denied everything along with everyone else. -/
def doubted : Engine String Unit :=
  talking.run [(0, .setOwners ["7"]), (1, .setRule "everyone" .deny)]

/-- The denial does not bind the owner, whose word for the switch is still refused. -/
theorem badSyntax_of_owner :
    doubted.grammar.Built ∧ (doubted.execute "!w maybe" "7" doubt 2).1.outcome = .badSyntax ∧
      ∃ tokens command child token, doubted.tokensOf? "!w maybe" = some tokens ∧
        (doubted.select doubt tokens).command = some command ∧
        (doubted.isOwner "7" = true ∨
          doubted.permits (doubted.groups.groupsOf "7") doubt command (doubted.select doubt tokens) =
            true) ∧
        doubted.grammar.RefusedAt (doubted.accepts doubt) root tokens child token := by
  have hbuilt : doubted.grammar.Built := by
    rw [doubted, Engine.grammar_run]
    exact built_voices
  have hbad : (doubted.execute "!w maybe" "7" doubt 2).1.outcome = .badSyntax := by decide +kernel
  exact ⟨hbuilt, hbad, (Engine.outcome_eq_badSyntax_iff hbuilt "!w maybe" "7" doubt 2).1.1 hbad⟩

example : (doubted.execute "!w maybe" "8" doubt 2).1.outcome = .forbidden := by decide +kernel

end Sample

end ChatCommands
