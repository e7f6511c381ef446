/-
  Usage: what can be wrong with a command line.

  * `UsageError` lists the causes, with the arguments and the parameters as they are displayed.
    `UsageError.message` words them, with a mark around what comes from the command line or from
    its grammar.
  * `Halt` is why a command line asks for nothing to be done: it is wrong, or it asks about the
    program itself.
-/

namespace ScalarStubs.CommandLine

/-- What can be wrong with a value. -/
inductive ValueFault where
  | empty
  /-- It is refused, for a reason that may be left unsaid. -/
  | refused (reason : Option String)
deriving DecidableEq, Repr

/-- What can be wrong with a command line. -/
inductive UsageError where
  | unexpectedArgument (argument : String)
  | unexpectedValue (value parameter : String)
  | unknownCommand (name : String)
  | missingValue (parameter : String)
  | badValue (value parameter : String) (reason : Option String)
  | repeated (parameter : String)
  | missingOperands
  | missingCommand
deriving DecidableEq, Repr

/-- The name of the program. -/
def programName : String := "hidlc-gen"

/-- The wording of what is wrong. Arguments and parameters are marked, and stand between
    apostrophes. -/
def UsageError.message (mark : String → String) : UsageError → String
  | .unexpectedArgument a => "unexpected argument " ++ quoted a ++ " found"
  | .unexpectedValue v p =>
    "unexpected value " ++ quoted v ++ " for " ++ quoted p ++ " found; no more were expected"
  | .unknownCommand name => "unrecognized subcommand " ++ quoted name
  | .missingValue p => "a value is required for " ++ quoted p ++ " but none was supplied"
  | .badValue v p reason => "invalid value " ++ quoted v ++ " for " ++ quoted p ++
      match reason with
      | some r => ": " ++ r
      | none => ""
  | .repeated p => "the argument " ++ quoted p ++ " cannot be used multiple times"
  | .missingOperands => "the following required arguments were not provided:"
  | .missingCommand =>
    quoted programName ++ " requires a subcommand but one was not provided"
where
  quoted (s : String) : String := "'" ++ mark s ++ "'"

/-- The error of a value that has a fault. -/
def ValueFault.toError (value parameter : String) : ValueFault → UsageError
  | .empty => .missingValue parameter
  | .refused reason => .badValue value parameter reason

/-- Why a command line asks for nothing to be done. -/
inductive Halt where
  | usage (error : UsageError)
  | version
  | help
  | nothing
deriving DecidableEq, Repr

end ScalarStubs.CommandLine
