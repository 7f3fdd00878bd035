/-!
# Verdicts

A permission rule allows or denies, or there is none. Where several verdicts on one matter are
combined, allowing wins over denying, and denying over silence.
-/

namespace ChatCommands

inductive Verdict where
  | unset
  | deny
  | allow
  deriving DecidableEq, Repr

namespace Verdict

instance : Inhabited Verdict := ⟨unset⟩

def orElse : Verdict → Verdict → Verdict
  | unset, other => other
  | verdict, _ => verdict

def isSet (v : Verdict) : Bool :=
  v ≠ unset

/-- Goes through verdicts until one allows, and remembers a denial on the way. -/
def settle (sofar : Verdict) : List Verdict → Verdict
  | [] => sofar
  | allow :: _ => allow
  | deny :: vs => settle deny vs
  | unset :: vs => settle sofar vs

def combine (vs : List Verdict) : Verdict :=
  settle unset vs

end Verdict

end ChatCommands
