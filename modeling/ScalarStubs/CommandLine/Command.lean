/-
  Commands: what a command line asks for.

  * `Command` lists what can be asked for, `Invocation` adds the file with the settings, and
    `Invocation.parse` reads one from the arguments of the program.
  * Each command has a grammar of its own over a draft of it, in which the operands may still be
    missing. The file with the settings can be given before the name of a command or behind it;
    if it is given in both places, the one behind it counts.
-/
import ScalarStubs.CommandLine.Grammar
import ScalarStubs.Fragment
import ScalarStubs.Listing
import ScalarStubs.Text.Numeral

namespace ScalarStubs.CommandLine

/-- What a command line can ask for. -/
inductive Command where
  /-- The table of kinds. -/
  | kinds (json : Bool)
  | fragment (kind : Scalar) (backend : Backend) (request : FragmentRequest)
  | listing (specs : List String) (request : ListingRequest)
  /-- A settings file with the defaults. -/
  | settingsFile (pathValue : String)
deriving DecidableEq, Repr

/-! ## Values -/

/-- A value that is any text. -/
def textValue {α : Type} (set : α → String → α) (value : String) (a : α) : Except ValueFault α :=
  .ok (set a value)

/-- A value that is a path, and so not empty. -/
def pathValue {α : Type} (set : α → String → α) (value : String) (a : α) : Except ValueFault α :=
  if value = "" then .error .empty else .ok (set a value)

/-- A value that names one of several things. -/
def choiceValue {α β : Type} (ofName? : String → Option β) (fault : String → ValueFault)
    (set : α → β → α) (value : String) (a : α) : Except ValueFault α :=
  match ofName? value with
  | some b => .ok (set a b)
  | none => .error (fault value)

/-- A value that is a depth, a number of 64 bits. -/
def depthValue {α : Type} (set : α → Nat → α) (value : String) (a : α) : Except ValueFault α :=
  match Text.Numeral.read UInt64.size value with
  | .ok n => .ok (set a n)
  | .error e => .error (.refused e.message)

/-! ## Levels -/

/-- What a level amounts to: the file with the settings, if it is given, and the rest. -/
structure Level (α : Type) where
  settings : Option String := none
  own : α

namespace Level

variable {α : Type}

/-- Changes what a level amounts to beside the settings. -/
def change {β : Type} (f : α → β → α) (l : Level α) (b : β) : Level α :=
  { l with own := f l.own b }

/-- The options that every level has. How much is logged makes no difference here. -/
def options : List (Switch (Level α)) :=
  [{ name := "config", letter := some 'c',
     effect := .valued "CONFIG" (pathValue fun l p => { l with settings := some p }) },
   { name := "log-level", effect := .valued "LOG_LEVEL" (textValue fun l _ => l) },
   { name := "help", letter := some 'h', effect := .halt .help }]

/-- An option that takes a value. -/
def valued (name placeholder : String)
    (take : String → Level α → Except ValueFault (Level α)) : Switch (Level α) where
  name := name
  effect := .valued placeholder take

/-- An option that takes none. -/
def flag (name : String) (set : α → α) : Switch (Level α) where
  name := name
  effect := .flag fun l => { l with own := set l.own }

end Level

open Level (change valued flag)

/-! ## The grammar of each command -/

/-- The level of the table of kinds; it amounts to whether JSON is wanted. -/
def kindsGrammar : Grammar (Level Bool) where
  switches := Level.options ++ [flag "json" fun _ => true]

/-- A fragment as far as it has been asked for. -/
structure FragmentDraft where
  kind : Option Scalar := none
  backend : Option Backend := none
  request : FragmentRequest := {}

namespace FragmentDraft

/-- The draft with the request changed by a value. -/
def revise {β : Type} (f : FragmentRequest → β → FragmentRequest) (d : FragmentDraft) (b : β) :
    FragmentDraft :=
  { d with request := f d.request b }

/-- The draft with the request changed. -/
def revised (f : FragmentRequest → FragmentRequest) (d : FragmentDraft) : FragmentDraft :=
  { d with request := f d.request }

/-- The command, if both operands have been given. -/
def finish? (d : FragmentDraft) : Option Command := do
  return .fragment (← d.kind) (← d.backend) d.request

end FragmentDraft

open FragmentDraft (revise revised)

/-- The refusal of a value that an empty text is no attempt at. -/
def refusedUnlessEmpty (value : String) : ValueFault :=
  if value = "" then .empty else .refused none

/-- The level of a fragment. -/
def fragmentGrammar : Grammar (Level FragmentDraft) where
  switches := Level.options ++
    [valued "name" "NAME" (textValue (change (revise fun r s => { r with name := s }))),
     valued "container" "CONTAINER"
       (textValue (change (revise fun r s => { r with container := s }))),
     flag "pointer" (revised fun r => { r with viaPointer := true }),
     flag "write" (revised fun r => { r with direction := .write }),
     flag "cast" (revised fun r => { r with cast := true }),
     valued "mode" "MODE"
       (choiceValue ErrorPolicy.ofWord? (fun s => .refused (ErrorPolicy.unknown s))
         (change (revise fun r p => { r with policy := p }))),
     valued "offset" "OFFSET" (textValue (change (revise fun r s => { r with offset := s }))),
     valued "depth" "DEPTH" (depthValue (change (revise fun r n => { r with depth := n })))]
  operands :=
    [{ display := "<KIND>"
       take := choiceValue Scalar.ofKeyword? (fun s => .refused (Scalar.unknown s))
         (change fun d k => { d with kind := some k }) },
     { display := "<BACKEND>"
       take := choiceValue Backend.ofWord? refusedUnlessEmpty
         (change fun d b => { d with backend := some b }) }]

/-- A listing as far as it has been asked for. -/
structure ListingDraft where
  specs : List String := []
  request : ListingRequest := {}

namespace ListingDraft

/-- The draft with the request changed by a value. -/
def amend {β : Type} (f : ListingRequest → β → ListingRequest) (d : ListingDraft) (b : β) :
    ListingDraft :=
  { d with request := f d.request b }

/-- The command, if there is a field at least. -/
def finish? (d : ListingDraft) : Option Command :=
  if d.specs = [] then none else some (.listing d.specs d.request)

end ListingDraft

open ListingDraft (amend)

/-- The level of a listing. -/
def listingGrammar : Grammar (Level ListingDraft) where
  switches := Level.options ++
    [valued "blob" "BLOB" (textValue (change (amend fun r s => { r with blob := s }))),
     valued "owner" "OWNER" (textValue (change (amend fun r s => { r with owner := s }))),
     flag "write" (fun d => { d with request := { d.request with direction := .write } }),
     valued "depth" "DEPTH" (depthValue (change (amend fun r n => { r with depth := n })))]
  operands :=
    [{ display := "<FIELDS>..."
       repeats := true
       take := textValue (change fun d s => { d with specs := d.specs ++ [s] }) }]

/-- The level of a settings file; it amounts to the path of the file. -/
def settingsFileGrammar : Grammar (Level String) where
  switches := Level.options ++
    [{ name := "output", letter := some 'o',
       effect := .valued "OUTPUT" (pathValue (change fun _ p => p)) }]

/-- The level in front of all commands. -/
def topGrammar : Grammar (Level Unit) where
  switches := Level.options ++
    [{ name := "version", letter := some 'V', effect := .halt .version }]
  commands := ["kinds", "emit", "layout", "gen-config", "help"]

/-! ## Whole command lines -/

/-- What is asked for, and the file with the settings for it. -/
structure Invocation where
  settings : Option String
  command : Command
deriving DecidableEq, Repr

/-- Reads the level of a command. Its operands are missed only after all else is in order. -/
def parseLevel {α : Type} (g : Grammar (Level α)) (initial : α) (finish? : α → Option Command)
    (arguments : List String) : Except Halt Invocation := do
  let l ← g.parse { own := initial } arguments
  match finish? l.own with
  | some command => return ⟨l.settings, command⟩
  | none => throw (.usage .missingOperands)

/-- Reads what help is wanted for: nothing, or the name of a command. -/
def parseHelp : List String → Except Halt Invocation
  | [] => throw .help
  | name :: rest =>
    if name ∈ topGrammar.commands then
      match rest with
      | [] => throw .help
      | other :: _ => throw (.usage (.unknownCommand other))
    else throw (.usage (.unknownCommand name))

/-- Reads what stands behind the name of a command. -/
def parseCommand (name : String) (arguments : List String) : Except Halt Invocation :=
  match name with
  | "kinds" => parseLevel kindsGrammar false (some ∘ .kinds) arguments
  | "emit" => parseLevel fragmentGrammar {} FragmentDraft.finish? arguments
  | "layout" => parseLevel listingGrammar {} ListingDraft.finish? arguments
  | "gen-config" => parseLevel settingsFileGrammar "hidlc.toml" (some ∘ .settingsFile) arguments
  | "help" => parseHelp arguments
  | name => throw (.usage (.unknownCommand name))

/-- Reads a whole command line. -/
def Invocation.parse (arguments : List String) : Except Halt Invocation := do
  let (s, rest) ← topGrammar.scan { own := () } arguments
  match rest with
  | some (name, arguments) =>
    let i ← parseCommand name arguments
    let s ← s.settle
    return { i with settings := i.settings <|> s.result.settings }
  | none =>
    let s ← s.settle
    throw (if s.given = [] then .nothing else .usage .missingCommand)

end ScalarStubs.CommandLine
