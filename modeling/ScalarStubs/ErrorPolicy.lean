/-
  Error policies: what generated code does when a call reports failure.

  * `ErrorPolicy` lists the four reactions, a `Choice` by the words for them; `ErrorPolicy.ofWord?`
    reads one.
  * `ErrorPolicy.check` is the text of the status check: one line and an empty line.
-/
import ScalarStubs.Settings.Basic
import ScalarStubs.Text.Padding

namespace ScalarStubs

/-- What to do when a call fails. -/
inductive ErrorPolicy where
  /-- Carry on, with a comment that says so. -/
  | ignore
  /-- Jump to the error label. -/
  | jump
  /-- Leave the enclosing loop. -/
  | leaveLoop
  /-- Hand the status to the caller. -/
  | handBack
deriving DecidableEq, Repr

namespace ErrorPolicy

/-- The policies in their order. -/
def all : List ErrorPolicy :=
  [ignore, jump, leaveLoop, handBack]

/-- The name of a policy, after what it generates. -/
def word : ErrorPolicy → String
  | ignore => "ignore"
  | jump => "goto"
  | leaveLoop => "break"
  | handBack => "return"

instance : Choice ErrorPolicy where
  all := all
  name := word
  mem_all p := by cases p <;> decide
  name_injective p q := by
    cases p <;> cases q <;> decide

/-- The policy that a word names. -/
def ofWord? (s : String) : Option ErrorPolicy :=
  Choice.ofName? s

/-- The refusal of a text that names no policy. -/
def unknown (s : String) : String :=
  "unknown error mode " ++ Text.quoted s ++ " (expected ignore, goto, break or return)"

/-- A policy is shown by its name alone, whatever the field asks for. -/
instance : Display ErrorPolicy where
  shown p _ := p.word

/-- What is done on failure, as a statement. -/
def reaction (s : Settings) : ErrorPolicy → String
  | ignore => ""
  | jump => "goto " ++ s.errorLabel ++ ";"
  | leaveLoop => "break;"
  | handBack => "return " ++ s.statusVar ++ ";"

/-- The check of the status behind a call. -/
def check (s : Settings) (p : ErrorPolicy) : String :=
  match p with
  | ignore => "/* " ++ s.statusVar ++ " ignored! */\n\n"
  | p => "if (" ++ s.statusVar ++ " != " ++ s.okStatus ++ ") \x7b " ++ p.reaction s ++ " \x7d\n\n"

end ErrorPolicy

end ScalarStubs
