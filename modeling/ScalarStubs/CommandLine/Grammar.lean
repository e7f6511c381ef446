/-
  The grammar of command lines: options, operands and commands.

  * `Grammar` lists what one level of a command line may hold, over what it amounts to, `α`. A
    `Parameter` takes values: an operand does, and so does an option that is not a flag.
  * `Grammar.scan` goes through arguments, up to the name of a command if the level has any. A
    value that stands apart from its option is *pending*: it is not looked at before the next
    option or operand has been recognised. So what is wrong with that one comes first if it is not
    recognised, and second otherwise.
  * `Scan.settle` looks at what is pending: there must be a value, it must be the first for its
    parameter, and it must be without fault.
-/
import ScalarStubs.CommandLine.Usage

namespace ScalarStubs.CommandLine

/-- Something that takes values: an operand, or an option that is not a flag. -/
structure Parameter (α : Type) where
  display : String
  repeats : Bool := false
  take : String → α → Except ValueFault α

/-- What an option does. -/
inductive Effect (α : Type) where
  | flag (set : α → α)
  | valued (placeholder : String) (take : String → α → Except ValueFault α)
  /-- Nothing else matters any more. -/
  | halt (why : Halt)

/-- An option. -/
structure Switch (α : Type) where
  name : String
  letter : Option Char := none
  effect : Effect α

namespace Switch

variable {α : Type}

/-- The name as it stands on a command line. -/
def bare (o : Switch α) : String :=
  "--" ++ o.name

/-- The parameter of an option that takes a value. -/
def parameter (o : Switch α) (placeholder : String) (take : String → α → Except ValueFault α) :
    Parameter α where
  display := o.bare ++ " <" ++ placeholder ++ ">"
  take := take

end Switch

/-- One level of a command line. -/
structure Grammar (α : Type) where
  switches : List (Switch α)
  operands : List (Parameter α) := []
  /-- The names of the commands that may follow this level. -/
  commands : List String := []

/-- How far a level has been scanned. -/
structure Scan (α : Type) where
  result : α
  /-- The parameters and flags given so far. -/
  given : List String := []
  /-- The parameter that came last, with its values if they have not been looked at. -/
  pending : Option (Parameter α × List String) := none
  operands : List (Parameter α)
  /-- Whether all further arguments are operands. -/
  trailing : Bool := false

namespace Scan

variable {α : Type}

/-- Takes a value, which must be without fault. -/
def takeValue (s : Scan α) (p : Parameter α) (value : String) : Except Halt (Scan α) :=
  match p.take value s.result with
  | .ok result => .ok { s with result }
  | .error f => .error (.usage (f.toError value p.display))

/-- Gives a parameter its values, of which there must be one at least. -/
def accept (s : Scan α) (p : Parameter α) (values : List String) : Except Halt (Scan α) :=
  if values = [] then .error (.usage (.missingValue p.display))
  else if p.display ∈ s.given ∧ !p.repeats then .error (.usage (.repeated p.display))
  else values.foldlM (fun s v => s.takeValue p v) { s with given := p.display :: s.given }

/-- Looks at what is pending. -/
def settle (s : Scan α) : Except Halt (Scan α) :=
  match s.pending with
  | none => .ok s
  | some (p, values) => { s with pending := none }.accept p values

/-- Whether an option waits for its value. -/
def awaits (s : Scan α) : Bool :=
  match s.pending with
  | some (_, []) => true
  | _ => false

/-- Sets a flag, which must be the first of its name. -/
def setFlag (s : Scan α) (display : String) (set : α → α) : Except Halt (Scan α) := do
  let s ← s.settle
  if display ∈ s.given then throw (.usage (.repeated display))
  return { s with result := set s.result, given := display :: s.given }

/-- Begins an option that takes a value, which may be attached to it. -/
def begin (s : Scan α) (p : Parameter α) (attached : Option String) : Except Halt (Scan α) := do
  let s ← s.settle
  match attached with
  | some value => s.accept p [value]
  | none => return { s with pending := some (p, []) }

/-- Adds a value to those of the parameter that came last. -/
def addValue (s : Scan α) (value : String) : Scan α :=
  { s with pending := s.pending.map fun (p, values) => (p, values ++ [value]) }

/-- Takes an operand for the next place. The values of one that repeats are gathered as long as
    no option comes between them. -/
def operand (s : Scan α) (value : String) (refusal : UsageError) : Except Halt (Scan α) :=
  match s.operands with
  | [] => .error (.usage refusal)
  | p :: rest =>
    if p.repeats then
      match s.pending with
      | some (q, _) =>
        if q.display = p.display then .ok (s.addValue value)
        else do return { ← s.settle with pending := some (p, [value]) }
      | none => .ok { s with pending := some (p, [value]) }
    else do
      let s ← s.settle
      return { s with pending := some (p, [value]), operands := rest }

end Scan

namespace Grammar

variable {α : Type} (g : Grammar α)

/-- The option of a name. -/
def named? (name : String) : Option (Switch α) :=
  g.switches.find? fun o => o.name == name

/-- The option of a letter. -/
def lettered? (c : Char) : Option (Switch α) :=
  g.switches.find? fun o => o.letter == some c

/-- Scans an option with its whole name, and with the value attached to it, if there is one. -/
def scanNamed (s : Scan α) (name : String) (attached : Option String) : Except Halt (Scan α) :=
  match g.named? name with
  | none => .error (.usage (.unexpectedArgument ("--" ++ name)))
  | some o =>
    match o.effect, attached with
    | .valued placeholder take, attached => s.begin (o.parameter placeholder take) attached
    | _, some value => .error (.usage (.unexpectedValue value o.bare))
    | .flag set, none => s.setFlag o.bare set
    | .halt why, none => s.settle >>= fun _ => .error why

/-- Scans options given by their letters. The first of them that takes a value has the rest of the
    argument for its value, unless that is empty. -/
def scanLetters (s : Scan α) : List Char → Except Halt (Scan α)
  | [] => .ok s
  | c :: cs =>
    match g.lettered? c with
    | none => .error (.usage (.unexpectedArgument (String.ofList ['-', c])))
    | some o =>
      match o.effect with
      | .flag set => do scanLetters (← s.setFlag o.bare set) cs
      | .halt why => s.settle >>= fun _ => .error why
      | .valued placeholder take =>
        s.begin (o.parameter placeholder take) <|
          match cs with
          | [] => none
          | '=' :: value => some (String.ofList value)
          | value => some (String.ofList value)

/-- What is wrong with an operand for which there is no place. -/
def refusal (s : Scan α) (value : String) : UsageError :=
  if g.commands = [] ∨ (s.trailing ∧ value ∈ g.commands) then .unexpectedArgument value
  else .unknownCommand value

/-- Scans an argument that is not the name of a command. -/
def scanArgument (s : Scan α) (argument : String) : Except Halt (Scan α) :=
  if s.trailing then s.operand argument (g.refusal s argument)
  else
    match argument.toList with
    | ['-', '-'] => .ok { s with trailing := true }
    | '-' :: '-' :: cs =>
      let name := String.ofList (cs.takeWhile (· != '='))
      match cs.dropWhile (· != '=') with
      | [] => g.scanNamed s name none
      | _ :: value => g.scanNamed s name (some (String.ofList value))
    | '-' :: c :: cs => g.scanLetters s (c :: cs)
    | _ =>
      if s.awaits then .ok (s.addValue argument)
      else s.operand argument (g.refusal s argument)

/-- Scans arguments, up to the name of a command. What remains are that name and the arguments
    behind it. -/
def scanFrom (s : Scan α) : List String → Except Halt (Scan α × Option (String × List String))
  | [] => .ok (s, none)
  | argument :: arguments =>
    if argument ∈ g.commands ∧ !s.trailing ∧ !s.awaits then .ok (s, some (argument, arguments))
    else do scanFrom (← g.scanArgument s argument) arguments

/-- Scans the arguments of a level. -/
def scan (initial : α) (arguments : List String) :
    Except Halt (Scan α × Option (String × List String)) :=
  g.scanFrom { result := initial, operands := g.operands } arguments

/-- What the arguments of a level amount to. -/
def parse (initial : α) (arguments : List String) : Except Halt α := do
  let (s, _) ← g.scan initial arguments
  return (← s.settle).result

end Grammar

end ScalarStubs.CommandLine
