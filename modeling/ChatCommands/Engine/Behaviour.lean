import ChatCommands.Grammar.Arguments
import ChatCommands.Message

/-!
# What commands do

The grammar only carries commands about; a behaviour says what they do to a state of type `σ`, which
also holds the name registries that slots refer to.
-/

namespace ChatCommands

inductive Ending where
  | success
  | error
  /-- The command broke down. -/
  | fault
  deriving DecidableEq

structure Effect (σ : Type) where
  state : σ
  replies : List Reply := []
  ending : Ending := .success

structure Behaviour (C σ : Type) where
  /-- The permission suffixes annotated in the grammar may grant the command. -/
  acceptsCustomPermission : C → Bool
  /-- The decision where no permission rule applies. -/
  allowedByDefault : C → Message → Bool
  registries : σ → Registries
  /-- Runs a command with its arguments. The flag tells whether replies can be sent. -/
  run : C → ArgumentMap → Message → Bool → σ → Effect σ

end ChatCommands
