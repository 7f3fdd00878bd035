/-! # Outcomes of a chat line -/

namespace ChatCommands

inductive Outcome where
  /-- No command: the line lacks the command prefix, is empty or names no command. -/
  | unrecognized
  | forbidden
  | badSyntax
  | rateLimited
  | executionFailed
  | success
  deriving DecidableEq, Repr

namespace Outcome

/-- The outcome in words, as shown on the console. -/
def display : Outcome → String
  | unrecognized => "unrecognized"
  | forbidden => "forbidden"
  | badSyntax => "bad syntax"
  | rateLimited => "rate limited"
  | executionFailed => "execution failed"
  | success => "success"

/-- The name of the outcome in documents. -/
def name : Outcome → String
  | unrecognized => "Unrecognized"
  | forbidden => "Forbidden"
  | badSyntax => "BadSyntax"
  | rateLimited => "RateLimited"
  | executionFailed => "ExecutionFailed"
  | success => "Success"

def all : List Outcome :=
  [unrecognized, forbidden, badSyntax, rateLimited, executionFailed, success]

def ofName? (name : String) : Option Outcome :=
  all.find? fun o => o.name == name

end Outcome

end ChatCommands
