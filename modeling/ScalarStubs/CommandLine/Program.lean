/-
  The program: from a command line to what is printed.

  * `Outcome` is what is printed and the exit code. `Command.run` carries out a command under
    given settings, and `run` the whole program. Settings are loaded first, even where the command
    has no use for them.
  * All of it is over any place where files can be, a `FileStore`.
-/
import ScalarStubs.CommandLine.Command
import ScalarStubs.KindTable
import ScalarStubs.Settings.File
import ScalarStubs.Text.ControlSequence

namespace ScalarStubs.CommandLine

/-- What comes of a run of the program. -/
structure Outcome where
  /-- The code that the program ends with. -/
  code : UInt32 := 0
  out : String := ""
  /-- What is printed to tell of a failure. -/
  err : String := ""
deriving DecidableEq, Repr

namespace Outcome

/-- The outcome that prints a text. -/
def success (out : String) : Outcome where
  out := out

/-- The outcome that reports a failure. -/
def failure (message : String) : Outcome where
  code := 1
  err := "[ERROR] " ++ message ++ "\n"

/-- The version of the program. -/
def version : String := "0.1.0"

/-- What the program is for. -/
def purpose : String :=
  "Scalar type tables and backend fragments for the hidlc interface compiler"

/-- What is printed about a wrong command line. It is made for a terminal, and then all control
    sequences are left out, so that those in the arguments do no harm. -/
def complaint (e : UsageError) : String :=
  Text.withoutControls (Text.emphasised "error:" ++ " " ++ e.message Text.emphasised ++
    "\n\nFor more information, try '" ++ Text.emphasised "--help" ++ "'.\n")

/-- The outcome of a command line that asks for nothing to be done. -/
def ofHalt : Halt → Outcome
  | .usage e => { code := 2, err := complaint e }
  | .version => success (programName ++ " " ++ version ++ "\n")
  | .help => success (purpose ++ "\n")
  | .nothing => { code := 2, err := purpose ++ "\n" }

/-- The outcome of what makes a text or fails with a message. -/
def ofText (r : Except String String) : Outcome :=
  match r with
  | .ok text => success text
  | .error message => failure message

end Outcome

variable {m : Type → Type} [Monad m] [FileStore m]

/-- Carries out a command. -/
def Command.run (s : Settings) : Command → m Outcome
  | .kinds json =>
    pure (.success (if json then KindRow.json kindTable ++ "\n" else KindRow.text kindTable))
  | .fragment kind backend request =>
    pure (.ofText ((request.render kind backend s).mapError RenderError.message))
  | .listing specs request =>
    pure (.ofText ((request.render specs s).mapError ListingError.message))
  | .settingsFile path => do
    match ← Settings.toFile {} path with
    | .ok () => return .success ("Generated configuration: " ++ path ++ "\n")
    | .error e => return .failure ("Failed to write " ++ path ++ ": " ++ e.report)

/-- Loads the settings and carries out the command. -/
def Invocation.run (i : Invocation) : m Outcome := do
  match ← Settings.load i.settings with
  | .ok s => i.command.run s
  | .error e => return .failure e.message

/-- Runs the program. -/
def run (arguments : List String) : m Outcome :=
  match Invocation.parse arguments with
  | .ok i => i.run
  | .error h => pure (.ofHalt h)

end ScalarStubs.CommandLine
