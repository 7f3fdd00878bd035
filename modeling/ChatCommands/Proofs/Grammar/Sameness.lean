import ChatCommands.Grammar.Arguments
import ChatCommands.Grammar.Selection
import ChatCommands.Proofs.Grammar.Order

/-!
# Slots that nothing tells apart

A parameter may be declared several times, and only the first slot is kept. That is no loss as long as the
others accept the same words, whatever message the words come with and whatever the registries hold by then.

* `SlotKind.Matches`: when two kinds count as the same, one case a kind. Choices are compared by the words
  that they hold, registries by their keys.
* `Slot.Interchangeable`: slots of one name and optionality that accept the same words, always.
* `Grammar.AgreesUpTo`: grammars that differ in their slots only.
* `Grammar.BehavesLike`: grammars that select the same, and whose arguments pass or fail alike.

**Theorem (`interchangeable_of_same`).** Slots that are the same are interchangeable.

**Theorem (`AgreesUpTo.behavesLike`).** Of the slots of a grammar nothing shows but whether they are keywords,
their names, whether they are optional, and what they accept.
-/

namespace ChatCommands

variable {C : Type}

/-! ## Slots that are the same -/

/-- Kinds of slots that count as the same. -/
inductive SlotKind.Matches : SlotKind → SlotKind → Prop
  | keyword (literal : String) : Matches (.keyword literal) (.keyword literal)
  | anything : Matches .anything .anything
  | mention : Matches .mention .mention
  | toggle : Matches .toggle .toggle
  /-- The same words in both sets. -/
  | choice {words words' : NameSet} (hwords : ∀ word, word ∈ words.stored ↔ word ∈ words'.stored) :
    Matches (.choice words) (.choice words')
  /-- One registry, whatever it holds. -/
  | registered (registry : String) : Matches (.registered registry) (.registered registry)

namespace SlotKind.Matches

theorem refl (k : SlotKind) : k.Matches k := by
  cases k with
  | keyword literal => exact .keyword literal
  | anything => exact .anything
  | mention => exact .mention
  | toggle => exact .toggle
  | choice words => exact .choice fun _ => Iff.rfl
  | registered registry => exact .registered registry

theorem symm {k l : SlotKind} (h : k.Matches l) : l.Matches k := by
  cases h with
  | choice hwords => exact .choice fun word => (hwords word).symm
  | _ => exact .refl _

theorem trans {k l m : SlotKind} (h : k.Matches l) (h' : l.Matches m) : k.Matches m := by
  cases h with
  | choice hwords =>
    cases h' with
    | choice hwords' => exact .choice fun word => (hwords word).trans (hwords' word)
  | _ => exact h'

end SlotKind.Matches

theorem NameSet.ext_mem {s t : NameSet} (h : ∀ word, word ∈ s.stored ↔ word ∈ t.stored) : s = t :=
  congrArg NameSet.mk (StringSet.ext_mem h)

/-- **The kinds that are told to be the same are those that match.** -/
theorem SlotKind.same_iff {k l : SlotKind} : k.same l = true ↔ k.Matches l := by
  constructor
  · intro h
    exact eq_of_same h ▸ .refl k
  · intro h
    cases h with
    | keyword literal => exact beq_self_eq_true literal
    | anything => rfl
    | mention => rfl
    | toggle => rfl
    | choice hwords => exact beq_iff_eq.2 (NameSet.ext_mem hwords)
    | registered registry => exact beq_self_eq_true registry

namespace Slot

/-- The slots are the same, so that one may be declared where the other one is. -/
abbrev Same (s t : Slot) : Prop := s.same t = true

/-- **Slots are the same if their names, their optionality and their kinds are.** -/
theorem same_iff {s t : Slot} :
    s.Same t ↔ s.name = t.name ∧ s.optional = t.optional ∧ s.kind.Matches t.kind := by
  rw [Same, same, Bool.and_eq_true, Bool.and_eq_true, SlotKind.same_iff, beq_iff_eq, beq_iff_eq]
  tauto

theorem equivalence_same : Equivalence Same where
  refl s := same_iff.2 ⟨rfl, rfl, .refl _⟩
  symm h := by
    obtain ⟨hname, hoptional, hkind⟩ := same_iff.1 h
    exact same_iff.2 ⟨hname.symm, hoptional.symm, hkind.symm⟩
  trans h h' := by
    obtain ⟨hname, hoptional, hkind⟩ := same_iff.1 h
    obtain ⟨hname', hoptional', hkind'⟩ := same_iff.1 h'
    exact same_iff.2 ⟨hname.trans hname', hoptional.trans hoptional', hkind.trans hkind'⟩

/-- Two slots are the same as a third one, or neither is, if they are the same. -/
theorem Same.congr {s s' : Slot} (h : s.Same s') (t : Slot) : s.same t = s'.same t :=
  Bool.eq_iff_iff.2 ⟨equivalence_same.trans (equivalence_same.symm h), equivalence_same.trans h⟩

/-! ## Slots that accept the same -/

/-- Slots that no word, no message and no contents of the registries tell apart. -/
structure Interchangeable (s t : Slot) : Prop where
  name : s.name = t.name
  optional : s.optional = t.optional
  accepts (registries : Registries) (message : Option Message) (word : String) :
    s.accepts registries message word = t.accepts registries message word

/-- What a slot accepts is a matter of its kind. The registries may hold anything: both slots look into the
same one. -/
theorem accepts_eq_of_matches {s t : Slot} (h : s.kind.Matches t.kind) (registries : Registries)
    (message : Option Message) (word : String) :
    s.accepts registries message word = t.accepts registries message word := by
  unfold accepts
  generalize s.kind = k at h
  generalize t.kind = l at h
  cases h with
  | choice hwords => exact decide_eq_decide.2 (hwords (Text.lower word))
  | keyword literal => rfl
  | anything => rfl
  | mention => rfl
  | toggle => rfl
  | registered registry => rfl

/-- **Slots that are the same are interchangeable.** -/
theorem interchangeable_of_same {s t : Slot} (h : s.Same t) : s.Interchangeable t := by
  obtain ⟨hname, hoptional, hkind⟩ := same_iff.1 h
  exact ⟨hname, hoptional, accepts_eq_of_matches hkind⟩

end Slot

/-! ## Grammars that differ in their slots -/

/-- Nodes that differ in their slots only, and in these by no more than `R` admits. -/
structure Node.AgreesUpTo (R : Slot → Slot → Prop) (n n' : Node C) : Prop where
  slot : R n.slot n'.slot
  segment : n.segment = n'.segment
  command : n.command = n'.command
  permissions : n.permissions = n'.permissions
  branches : n.branches = n'.branches

theorem Node.AgreesUpTo.mono {R R' : Slot → Slot → Prop} (hR : ∀ s t, R s t → R' s t)
    {n n' : Node C} (h : n.AgreesUpTo R n') : n.AgreesUpTo R' n' :=
  { h with slot := hR _ _ h.slot }

theorem Node.segment_eq_of_matches {n n' : Node C} (h : n.slot.kind.Matches n'.slot.kind) :
    n.segment = n'.segment := by
  unfold segment
  generalize n.slot.kind = k at h
  generalize n'.slot.kind = l at h
  cases h <;> rfl

/-- An argument as it is checked: the name and the value that the command is to get, and whether the slot
accepts the value. -/
def Argument.checked (registries : Registries) (message : Option Message) (a : Argument) :
    String × String × Bool :=
  (a.slot.name, a.value, a.slot.accepts registries message a.value)

namespace Grammar

/-- Grammars that differ in their slots only. -/
structure AgreesUpTo (R : Slot → Slot → Prop) (g g' : Grammar C) : Prop where
  size : g.nodes.size = g'.nodes.size
  node (id : NodeId) : (g.node id).AgreesUpTo R (g'.node id)

theorem AgreesUpTo.mono {R R' : Slot → Slot → Prop} (hR : ∀ s t, R s t → R' s t) {g g' : Grammar C}
    (h : g.AgreesUpTo R g') : g.AgreesUpTo R' g' :=
  ⟨h.size, fun id => (h.node id).mono hR⟩

/-- Grammars that select the same commands and check arguments alike, whatever the registries hold. -/
structure BehavesLike (g g' : Grammar C) : Prop where
  /-- The same command, path and permission suffixes. -/
  select (registries : Registries) (message : Option Message) (tokens : List String) :
    g.select (Slot.accepts registries message) tokens =
      g'.select (Slot.accepts registries message) tokens
  /-- The same arguments along every path, accepted by one grammar if by the other, or the same error. -/
  arguments (registries : Registries) (message : Option Message) (tokens : List String)
    (path : String) :
    (g.capture tokens path).map (List.map (Argument.checked registries message)) =
      (g'.capture tokens path).map (List.map (Argument.checked registries message))
  commandNames : g.commandNames = g'.commandNames

namespace BehavesLike

theorem symm {g g' : Grammar C} (h : g.BehavesLike g') : g'.BehavesLike g where
  select registries message tokens := (h.select registries message tokens).symm
  arguments registries message tokens path := (h.arguments registries message tokens path).symm
  commandNames := h.commandNames.symm

theorem trans {g₁ g₂ g₃ : Grammar C} (h : g₁.BehavesLike g₂) (h' : g₂.BehavesLike g₃) :
    g₁.BehavesLike g₃ where
  select registries message tokens :=
    (h.select registries message tokens).trans (h'.select registries message tokens)
  arguments registries message tokens path :=
    (h.arguments registries message tokens path).trans (h'.arguments registries message tokens path)
  commandNames := h.commandNames.trans h'.commandNames

end BehavesLike

/-- The checks of a list of arguments are those of its first one and of the others. -/
theorem map_checked_cons (check : Argument → String × String × Bool) (a : Argument)
    (later : Except CaptureError (List Argument)) :
    (do return a :: (← later) : Except CaptureError (List Argument)).map (List.map check) =
      (later.map (List.map check)).map (check a :: ·) := by
  cases later <;> rfl

namespace AgreesUpTo

variable {g g' : Grammar C} (h : g.AgreesUpTo Slot.Interchangeable g')
include h

theorem enterable_eq (id : NodeId) : g.enterable id = g'.enterable id := by
  rw [Grammar.enterable, Grammar.enterable, (h.node id).slot.optional, (h.node id).command]

/-- **The walks through both grammars go side by side.** -/
theorem walkFrom_eq (registries : Registries) (message : Option Message) (id : NodeId)
    (tokens : List String) :
    g.walkFrom (Slot.accepts registries message) id tokens =
      g'.walkFrom (Slot.accepts registries message) id tokens := by
  induction tokens generalizing id with
  | nil => rfl
  | cons token tokens ih =>
    simp only [Grammar.walkFrom, (h.node id).branches, ih]
    cases (g'.node id).branches with
    | leaf => rfl
    | keywords es => rfl
    | parameter next =>
      simp only [(h.node next).slot.accepts, (h.node next).slot.optional, h.enterable_eq]

/-! What is read off a walk is not read off the slots. -/

theorem commandOf_eq (w : Walk) : g.commandOf w = g'.commandOf w := by
  have hcommand : ∀ id, (g.node id).command = (g'.node id).command := fun id => (h.node id).command
  have hleaf : (g.node root).branches = .leaf ↔ (g'.node root).branches = .leaf := by
    rw [(h.node root).branches]
  simp only [Grammar.commandOf, lastCommand, hcommand, hleaf]

theorem segmentsOf_eq (w : Walk) : g.segmentsOf w = g'.segmentsOf w := by
  have hsegment : ∀ id, (g.node id).segment = (g'.node id).segment := fun id => (h.node id).segment
  simp only [Grammar.segmentsOf, hsegment]

theorem permissionsOf_eq (w : Walk) : g.permissionsOf w = g'.permissionsOf w := by
  have hpermissions : ∀ id, (g.node id).permissions = (g'.node id).permissions :=
    fun id => (h.node id).permissions
  simp only [Grammar.permissionsOf, hpermissions]

/-- **Capturing finds arguments that pass or fail alike.** -/
theorem map_checked_captureFrom (registries : Registries) (message : Option Message) (path : String)
    (id : NodeId) (segments tokens : List String) :
    (g.captureFrom path id segments tokens).map (List.map (Argument.checked registries message)) =
      (g'.captureFrom path id segments tokens).map
        (List.map (Argument.checked registries message)) := by
  induction segments generalizing id tokens with
  | nil => rfl
  | cons segment segments ih =>
    cases tokens with
    | nil => rfl
    | cons token tokens =>
      simp only [Grammar.captureFrom, (h.node id).branches]
      cases (g'.node id).branches with
      | leaf => rfl
      | keywords es =>
        dsimp only
        cases Branches.targetWhere? (· == segment) es with
        | none => rfl
        | some next => exact ih next tokens
      | parameter next =>
        dsimp only
        split_ifs
        · have harg : Argument.checked registries message ⟨(g.node next).slot, token⟩ =
              Argument.checked registries message ⟨(g'.node next).slot, token⟩ := by
            simp only [Argument.checked, (h.node next).slot.name, (h.node next).slot.accepts]
          rw [map_checked_cons, map_checked_cons, ih, harg]
        · rfl

theorem behavesLike : g.BehavesLike g' where
  select registries message tokens := by
    simp only [Grammar.select, walk, h.walkFrom_eq, h.commandOf_eq, h.segmentsOf_eq,
      h.permissionsOf_eq]
  arguments registries message tokens path := by
    unfold capture
    split_ifs
    · rfl
    · dsimp only
      split_ifs
      · rfl
      · exact h.map_checked_captureFrom registries message path root _ tokens
  commandNames := by
    rw [commandNames, commandNames, (h.node root).branches]

end AgreesUpTo

end Grammar

end ChatCommands
