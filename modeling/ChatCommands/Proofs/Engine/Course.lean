import Mathlib.Tactic.SplitIfs
import ChatCommands.Engine.Basic

/-!
# The course of a line

A line passes the stages of the engine in order until one of them settles it. `Course` lists where that
can be: for each stage, what held when the line came to it, what the line is reported with and the
engine that it leaves.

**Theorem (`course_execute`).** Nothing else becomes of a line. So what is to be known about all lines
is known from these five cases, without a look at how the stages follow each other.
-/

namespace ChatCommands

namespace Engine

variable {C σ : Type}

/-- The line has the tokens, at least one, and they select the command. -/
structure Names (e : Engine C σ) (line : String) (m : Message) (tokens : List String) (command : C) :
    Prop where
  tokens_eq : e.tokensOf? line = some tokens
  ne_nil : tokens ≠ []
  command_eq : (e.select m tokens).command = some command

/-- The line names the command, which the chatter may use. -/
structure Passes (e : Engine C σ) (line chatter : String) (m : Message) (tokens : List String)
    (command : C) : Prop extends e.Names line m tokens command where
  permits : e.isOwner chatter = false →
    e.permits (e.groups.groupsOf chatter) m command (e.select m tokens) = true

/-- A line names one command at most. -/
theorem Names.unique {e : Engine C σ} {line : String} {m : Message} {tokens tokens' : List String}
    {command command' : C} (h : e.Names line m tokens command)
    (h' : e.Names line m tokens' command') : tokens = tokens' ∧ command = command' := by
  obtain rfl := Option.some.inj (h.tokens_eq.symm.trans h'.tokens_eq)
  exact ⟨rfl, Option.some.inj (h.command_eq.symm.trans h'.command_eq)⟩

/-- The charge for the line that has these tokens. -/
def chargeFor (e : Engine C σ) (chatter : String) (m : Message) (tokens : List String) (now : Int) :
    Bool × Engine C σ :=
  e.charge chatter (e.groups.groupsOf chatter) (e.select m tokens).path now

/-- What can become of a line. -/
inductive Course (e : Engine C σ) (line chatter : String) (m : Message) (now : Int) :
    Report C × Engine C σ → Prop
  /-- The line names no command. -/
  | unrecognized (hnames : ∀ tokens command, ¬ e.Names line m tokens command) :
    Course e line chatter m now ({ outcome := .unrecognized }, e)
  /-- The chatter may not use the command. -/
  | forbidden {tokens : List String} {command : C} (hnames : e.Names line m tokens command)
    (howner : e.isOwner chatter = false)
    (hpermits : e.permits (e.groups.groupsOf chatter) m command (e.select m tokens) = false) :
    Course e line chatter m now ({ outcome := .forbidden }, e)
  /-- The arguments cannot be captured or are not accepted. -/
  | badSyntax {tokens : List String} {command : C} (hpasses : e.Passes line chatter m tokens command)
    (harguments : e.arguments? m tokens (e.select m tokens).path = none) :
    Course e line chatter m now ({ outcome := .badSyntax }, e)
  /-- No limit has room. -/
  | rateLimited {tokens : List String} {command : C} {arguments : List Argument}
    (hpasses : e.Passes line chatter m tokens command)
    (harguments : e.arguments? m tokens (e.select m tokens).path = some arguments)
    (hcharge : (e.chargeFor chatter m tokens now).1 = false) :
    Course e line chatter m now ({ outcome := .rateLimited }, (e.chargeFor chatter m tokens now).2)
  /-- The command runs. -/
  | called {tokens : List String} {command : C} {arguments : List Argument}
    (hpasses : e.Passes line chatter m tokens command)
    (harguments : e.arguments? m tokens (e.select m tokens).path = some arguments)
    (hcharge : (e.chargeFor chatter m tokens now).1 = true) :
    Course e line chatter m now
      ((e.chargeFor chatter m tokens now).2.invoke m ⟨command, Argument.byName arguments⟩)

theorem outcome_invoke (e : Engine C σ) (m : Message) (call : Call C) :
    (e.invoke m call).1.outcome = .success ∨ (e.invoke m call).1.outcome = .executionFailed := by
  simp only [invoke]
  split_ifs
  · exact .inl rfl
  · exact .inr rfl

variable {e : Engine C σ} {line chatter : String} {m : Message} {now : Int}

theorem course_dispatch {tokens : List String} {command : C}
    (hnames : e.Names line m tokens command) :
    e.Course line chatter m now
      (e.dispatch chatter m now tokens (e.select m tokens) command) := by
  simp only [dispatch]
  split_ifs with hpermits
  · rw [Bool.and_eq_true, Bool.not_eq_true', Bool.not_eq_true'] at hpermits
    exact .forbidden hnames hpermits.1 hpermits.2
  · have hpasses : e.Passes line chatter m tokens command :=
      { hnames with permits := fun howner => by simpa [howner] using hpermits }
    cases harguments : e.arguments? m tokens (e.select m tokens).path with
    | none => exact .badSyntax hpasses harguments
    | some arguments =>
      cases hcharge : e.charge chatter (e.groups.groupsOf chatter) (e.select m tokens).path now with
      | mk used e' =>
        have hchargeFor : e.chargeFor chatter m tokens now = (used, e') := hcharge
        cases used with
        | false =>
          have h := Course.rateLimited hpasses harguments (by rw [hchargeFor] : _ = false)
          rwa [hchargeFor] at h
        | true =>
          have h := Course.called hpasses harguments (by rw [hchargeFor] : _ = true)
          rwa [hchargeFor] at h

/-- **Every line takes one of the courses.** -/
theorem course_execute (e : Engine C σ) (line chatter : String) (m : Message) (now : Int) :
    e.Course line chatter m now (e.execute line chatter m now) := by
  unfold execute
  split
  next hnone =>
    refine .unrecognized fun tokens command hnames => ?_
    cases hnone.symm.trans hnames.tokens_eq
  next hnil =>
    refine .unrecognized fun tokens command hnames => hnames.ne_nil ?_
    exact Option.some.inj (hnames.tokens_eq.symm.trans hnil)
  next tokens hne htokens =>
    dsimp only
    cases hcommand : (e.select m tokens).command with
    | none =>
      refine .unrecognized fun tokens' command hnames => ?_
      obtain rfl := Option.some.inj (hnames.tokens_eq.symm.trans htokens)
      cases hcommand.symm.trans hnames.command_eq
    | some command =>
      refine course_dispatch ⟨htokens, ?_, hcommand⟩
      rintro rfl
      exact hne rfl

end Engine

end ChatCommands
