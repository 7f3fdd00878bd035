/-! # Errors of grammar construction -/

namespace ChatCommands

/-- Why a step is refused. `site` is the path of the node that the step was to extend. -/
inductive BuildError where
  | emptyCommandName
  | invalidLiteral (literal : String)
  /-- Keywords and a parameter would stand side by side. -/
  | mixedChildren (site : String)
  /-- A parameter that differs from the one already there. -/
  | duplicateParameter (site existing parameter : String)
  /-- An optional parameter below a node without a command to fall back on. -/
  | optionalWithoutFallback (site parameter : String)
  | commandAlreadySet (site : String)
  | aliasTaken (name site : String)
  /-- The target of an alias is not a keyword below the node. -/
  | aliasTargetMissing (target site : String)
  deriving DecidableEq

namespace BuildError

def message : BuildError → String
  | emptyCommandName => "command name must not be empty"
  | invalidLiteral literal =>
    "invalid literal '" ++ literal ++ "' (must be non-empty without dots or spaces)"
  | mixedChildren site => "cannot mix static and dynamic parameters under '" ++ site ++ "'"
  | duplicateParameter site existing parameter =>
    "'" ++ site ++ "' already has dynamic parameter '" ++ existing ++ "', cannot add '" ++ parameter
      ++ "'"
  | optionalWithoutFallback site parameter =>
    "optional parameter '" ++ parameter ++ "' under '" ++ site ++ "' needs a command on '" ++ site
      ++ "'"
  | commandAlreadySet site => "a command is already registered at '" ++ site ++ "'"
  | aliasTaken name site => "alias '" ++ name ++ "' is already used under '" ++ site ++ "'"
  | aliasTargetMissing target site =>
    "alias target '" ++ target ++ "' is not a static parameter under '" ++ site ++ "'"

end BuildError

end ChatCommands
