import ChatCommands.Proofs.Engine.Effects
import ChatCommands.Proofs.Grammar.Replay

/-!
# The parameters of a command

The arguments of a call come from the whole walk, but the command may stand further up, and it finds its
arguments by name in a map. What it can count on are the parameters on the way down to its node.

* `Grammar.ParametersTo`: the parameters on the way from the root down to a node.
* `Argument.exists_get?_byName`: an argument hides another one only if both have the same name.

**Theorem (`Engine.exists_supplied_way`).** A command that is called stands at a node whose parameters
have got an argument each, and every argument is accepted by its slot. All arguments belong to parameters
on one way down.
-/

namespace ChatCommands

variable {C σ : Type}

/-! ## Parameters above a node -/

namespace Grammar

/-- The parameter that stands below a node, if there is one. -/
def parameterBelow (g : Grammar C) (id : NodeId) : List Slot :=
  match (g.node id).branches with
  | .parameter child => [(g.node child).slot]
  | _ => []

/-- The parameters on the way from the root down to a node, its own slot included. -/
inductive ParametersTo (g : Grammar C) : NodeId → List Slot → Prop
  | root : ParametersTo g root []
  | child {parent child : NodeId} {slots : List Slot} : ParametersTo g parent slots →
      g.Child parent child → ParametersTo g child (slots ++ g.parameterBelow parent)

theorem lt_size_of_mem_parameterBelow {g : Grammar C} {id : NodeId} {slot : Slot}
    (h : slot ∈ g.parameterBelow id) : id < g.nodes.size := by
  unfold parameterBelow at h
  split at h
  next child hbranches =>
    have hchild : g.Child id child := by
      rw [Child, hbranches]
      exact List.mem_singleton_self child
    exact hchild.parent_lt
  next => cases h

theorem map_slot_argumentAt (g : Grammar C) (id : NodeId) (token : String) :
    (g.argumentAt id token).toList.map Argument.slot = g.parameterBelow id := by
  unfold argumentAt parameterBelow
  cases (g.node id).branches <;> rfl

/-- Arguments are captured for parameters of the grammar only. -/
theorem exists_parameterBelow_of_mem_argumentsAlong {g : Grammar C} {id : NodeId} {w : Walk}
    {tokens : List String} {a : Argument} (h : a ∈ g.argumentsAlong id w tokens) :
    ∃ parent, a.slot ∈ g.parameterBelow parent := by
  obtain ⟨⟨parent, token⟩, -, ha⟩ := List.mem_filterMap.1 h
  refine ⟨parent, ?_⟩
  rw [← map_slot_argumentAt g parent token, show g.argumentAt parent token = some a from ha]
  exact List.mem_singleton_self a.slot

/-- **A walk captures an argument for every parameter** on the way to a node that it enters, before those
for parameters further down. -/
theorem ParametersTo.of_walkFrom {g : Grammar C} {accepts : Slot → String → Bool} {start : NodeId}
    {slots : List Slot} (hstart : g.ParametersTo start slots) {tokens : List String}
    {before after : List NodeId} {id : NodeId}
    (h : (g.walkFrom accepts start tokens).entered = before ++ id :: after) :
    ∃ further, g.ParametersTo id (slots ++ further) ∧
      further <+: (g.argumentsAlong start (g.walkFrom accepts start tokens) tokens).map
        Argument.slot := by
  induction tokens generalizing start slots before with
  | nil => exact absurd h.symm (List.append_ne_nil_of_right_ne_nil _ (List.cons_ne_nil _ _))
  | cons token tokens ih =>
    cases hnext : g.next? accepts start token with
    | none =>
      rw [(walkFrom_cons_of_next?_eq_none hnext tokens).1] at h
      exact absurd h.symm (List.append_ne_nil_of_right_ne_nil _ (List.cons_ne_nil _ _))
    | some next =>
      have hchain := g.isChain_walkFrom accepts start (token :: tokens)
      rw [walkFrom_cons_of_next?_eq_some hnext] at h hchain ⊢
      have hdown := hstart.child (List.isChain_cons_cons.1 hchain).1
      rw [argumentsAlong_via, List.map_append, map_slot_argumentAt]
      cases before with
      | nil =>
        obtain rfl : next = id := (List.cons.inj h).1
        exact ⟨_, hdown, List.prefix_append _ _⟩
      | cons _ before =>
        obtain ⟨further, hid, hfurther⟩ := ih hdown (List.cons.inj h).2
        refine ⟨g.parameterBelow start ++ further, ?_, (List.prefix_append_right_inj _).2 hfurther⟩
        rwa [← List.append_assoc]

/-- **All arguments of a walk belong to parameters on one way down**, that to the last node entered and
on to the parameter below it. -/
theorem ParametersTo.exists_way {g : Grammar C} {accepts : Slot → String → Bool} {start : NodeId}
    {slots : List Slot} (hstart : g.ParametersTo start slots) (tokens : List String) :
    ∃ last further, g.ParametersTo last (slots ++ further) ∧
      (g.argumentsAlong start (g.walkFrom accepts start tokens) tokens).map Argument.slot <+:
        further ++ g.parameterBelow last := by
  induction tokens generalizing start slots with
  | nil =>
    refine ⟨start, [], ?_, ?_⟩
    · rwa [List.append_nil]
    · rw [argumentsAlong, List.take_nil, List.zip_nil_right]
      exact List.nil_prefix
  | cons token tokens ih =>
    cases hnext : g.next? accepts start token with
    | none =>
      refine ⟨start, [], ?_, ?_⟩
      · rwa [List.append_nil]
      · rw [argumentsAlong_cons_of_none hnext, List.nil_append]
        split_ifs
        · exact map_slot_argumentAt g start token ▸ List.prefix_rfl
        · exact List.nil_prefix
    | some next =>
      have hchain := g.isChain_walkFrom accepts start (token :: tokens)
      rw [walkFrom_cons_of_next?_eq_some hnext] at hchain ⊢
      have hdown := hstart.child (List.isChain_cons_cons.1 hchain).1
      obtain ⟨last, further, hlast, hslots⟩ := ih hdown
      refine ⟨last, g.parameterBelow start ++ further, ?_, ?_⟩
      · rwa [← List.append_assoc]
      · rw [argumentsAlong_via, List.map_append, map_slot_argumentAt, List.append_assoc]
        exact (List.prefix_append_right_inj _).2 hslots

/-- **The selected command stands below parameters for which arguments are captured.** -/
theorem exists_parametersTo_of_select {g : Grammar C} {accepts : Slot → String → Bool}
    {tokens : List String} {c : C} (h : (g.select accepts tokens).command = some c) :
    ∃ id slots, (g.node id).command = some c ∧ g.ParametersTo id slots ∧
      slots <+: (g.argumentsAlong root (g.walk accepts tokens) tokens).map Argument.slot := by
  have hcommand : g.commandOf (g.walk accepts tokens) = some c := h
  rw [commandOf] at hcommand
  split_ifs at hcommand
  · exact ⟨root, [], hcommand, .root, List.nil_prefix⟩
  · obtain ⟨before, id, after, hentered, hid⟩ := lastCommand_eq_some hcommand
    obtain ⟨slots, hslots, hprefix⟩ := ParametersTo.root.of_walkFrom hentered
    exact ⟨id, slots, hid, hslots, hprefix⟩

end Grammar

/-! ## Arguments by name -/

namespace Argument

theorem byName_append_singleton (arguments : List Argument) (a : Argument) :
    byName (arguments ++ [a]) = Assoc.put a.slot.name a.value (byName arguments) := by
  rw [byName, List.foldl_append]
  rfl

/-- **An argument is found under its name**, unless another one of that name comes after it. -/
theorem exists_get?_byName {arguments : List Argument} {a : Argument} (h : a ∈ arguments) :
    ∃ b ∈ arguments, b.slot.name = a.slot.name ∧
      Assoc.get? a.slot.name (byName arguments) = some b.value := by
  -- The last argument is the last one put into the map.
  induction arguments using List.reverseRecOn with
  | nil => cases h
  | append_singleton arguments last ih =>
    rw [byName_append_singleton, Assoc.get?_put]
    by_cases hname : last.slot.name = a.slot.name
    · rw [if_pos hname]
      exact ⟨last, List.mem_append_right _ (List.mem_singleton_self last), hname, rfl⟩
    · rw [if_neg hname]
      have ha : a ∈ arguments := by
        refine (List.mem_append.1 h).resolve_right fun hlast => hname ?_
        rw [List.mem_singleton.1 hlast]
      obtain ⟨b, hb, hfound⟩ := ih ha
      exact ⟨b, List.mem_append_left _ hb, hfound⟩

end Argument

/-! ## In the engine -/

namespace Engine

/-- A call that has what the grammar promises: the parameters on the way to the command have got an
argument each, and all arguments belong to parameters that accept them. -/
structure Supplied (e : Engine C σ) (m : Message) (call : Call C) (arguments : List Argument) :
    Prop where
  arguments_eq : call.arguments = Argument.byName arguments
  command : ∃ id slots, (e.grammar.node id).command = some call.command ∧
    e.grammar.ParametersTo id slots ∧ slots <+: arguments.map Argument.slot
  parameter (a : Argument) (h : a ∈ arguments) : ∃ parent, a.slot ∈ e.grammar.parameterBelow parent
  accepted (a : Argument) (h : a ∈ arguments) : e.accepts m a.slot a.value = true

theorem accepts_of_arguments?_eq_some {e : Engine C σ} {m : Message} {tokens : List String}
    {path : String} {arguments : List Argument}
    (h : e.arguments? m tokens path = some arguments) {a : Argument} (ha : a ∈ arguments) :
    e.accepts m a.slot a.value = true := by
  unfold arguments? at h
  rw [capture_of_arguments?_eq_some h] at h
  dsimp only at h
  split_ifs at h with hall
  exact List.all_eq_true.1 hall a ha

/-- **Whatever is called is supplied**, in a grammar that steps built, and all its arguments belong to
parameters on one way down. -/
theorem exists_supplied_way {e : Engine C σ} (hgrammar : e.grammar.Built) {line chatter : String}
    {m : Message} {now : Int} {call : Call C}
    (h : call ∈ (e.execute line chatter m now).1.calls) :
    ∃ arguments, e.Supplied m call arguments ∧ ∃ last slots, e.grammar.ParametersTo last slots ∧
      arguments.map Argument.slot <+: slots ++ e.grammar.parameterBelow last := by
  have hcourse := e.course_execute line chatter m now
  generalize e.execute line chatter m now = result at h hcourse
  cases hcourse with
  | @called tokens command arguments hpasses harguments =>
    obtain rfl := List.mem_singleton.1 h
    have hcapture := capture_of_arguments?_eq_some harguments
    have hreplayed := (hgrammar.grown.replays (e.accepts m) tokens).capture
    obtain rfl := Except.ok.inj (hcapture.symm.trans hreplayed)
    exact ⟨_, ⟨rfl, Grammar.exists_parametersTo_of_select hpasses.command_eq,
      fun a => Grammar.exists_parameterBelow_of_mem_argumentsAlong,
      fun a => accepts_of_arguments?_eq_some harguments⟩, Grammar.ParametersTo.root.exists_way tokens⟩
  | _ => cases h

theorem supplied_of_mem_calls {e : Engine C σ} (hgrammar : e.grammar.Built) {line chatter : String}
    {m : Message} {now : Int} {call : Call C}
    (h : call ∈ (e.execute line chatter m now).1.calls) :
    ∃ arguments, e.Supplied m call arguments := by
  obtain ⟨arguments, hsupplied, -⟩ := exists_supplied_way hgrammar h
  exact ⟨arguments, hsupplied⟩

end Engine

end ChatCommands
