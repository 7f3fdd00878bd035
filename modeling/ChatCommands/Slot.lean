import ChatCommands.Message
import ChatCommands.NameSet
import ChatCommands.Text.AsciiCase
import ChatCommands.Toggle

/-!
# Slots of the command grammar

A slot is one position of a command: a keyword, or a parameter that accepts some words and refuses
others. Whether a word is accepted may depend on the message it came with and on what a name
registry holds at that moment; a slot refers to its registry by the registry's key, so two
registries stay different even while they hold the same names.
-/

namespace ChatCommands

/-- The contents of the name registries, by key. -/
abbrev Registries := String → NameSet

inductive SlotKind where
  /-- A keyword in lowercase, matched up to ASCII case. -/
  | keyword (literal : String)
  | anything
  /-- A login that the message mentions. -/
  | mention
  | toggle
  | choice (words : NameSet)
  /-- A name that the registry with this key holds. -/
  | registered (registry : String)
  deriving DecidableEq

namespace SlotKind

/-- Whether the kinds are the same. Registries are compared by their keys, whatever they hold. -/
def same : SlotKind → SlotKind → Bool
  | keyword a, keyword b => a == b
  | anything, anything
  | mention, mention
  | toggle, toggle => true
  | choice a, choice b => a == b
  | registered a, registered b => a == b
  | _, _ => false

theorem eq_of_same {k l : SlotKind} (h : k.same l = true) : k = l := by
  unfold same at h
  split at h
  next a b => exact congrArg keyword (eq_of_beq h)
  next => rfl
  next => rfl
  next => rfl
  next a b => exact congrArg choice (eq_of_beq h)
  next a b => exact congrArg registered (eq_of_beq h)
  next => cases h

end SlotKind

structure Slot where
  name : String
  optional : Bool := false
  kind : SlotKind
  deriving DecidableEq

namespace Slot

def keyword (literal : String) : Slot :=
  { name := Text.lower literal, kind := .keyword (Text.lower literal) }

instance : Inhabited Slot := ⟨keyword ""⟩

def same (a b : Slot) : Bool :=
  a.kind.same b.kind && a.name == b.name && a.optional == b.optional

theorem eq_of_same {a b : Slot} (h : a.same b = true) : a = b := by
  obtain ⟨name, optional, kind⟩ := a
  obtain ⟨name', optional', kind'⟩ := b
  simp only [same, Bool.and_eq_true, beq_iff_eq] at h
  obtain ⟨⟨hkind, rfl⟩, rfl⟩ := h
  rw [SlotKind.eq_of_same hkind]

/-! ## Accepting words -/

def isLoginChar (c : Char) : Bool :=
  c.isAlphanum || c == '_'

/-- The login that a word stands for: one to 25 ASCII letters, digits and underscores, with or
without a leading `@`. -/
def loginOf? (word : String) : Option String :=
  let login := match word.toList with
    | '@' :: rest => rest
    | cs => cs
  if 1 ≤ login.length && login.length ≤ 25 && login.all isLoginChar then some (String.ofList login)
  else none

def mentions (message : Message) (word : String) : Bool :=
  match loginOf? word with
  | some login => message.mentions.any fun m => Text.sameUpToAsciiCase m (Text.lower login)
  | none => false

/-- A mention slot accepts nothing where there is no message. -/
def accepts (registries : Registries) (message : Option Message) (s : Slot) (word : String) :
    Bool :=
  match s.kind with
  | .keyword literal => Text.sameUpToAsciiCase word literal
  | .anything => true
  | .mention => message.any (mentions · word)
  | .toggle => (Toggle.parse? word).isSome
  | .choice words => words.contains word
  | .registered registry => (registries registry).contains word

end Slot

end ChatCommands
