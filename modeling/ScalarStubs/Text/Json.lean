/-
  JSON: structured data as text over several lines.

  * `Json` is a document of texts, numbers, truth values, lists and objects; `Json.pretty` writes
    it, each item on a line of its own and two spaces deeper than what holds it.
  * `Json.quote` writes a text between double quotes. Control characters below the space are
    escaped, the common ones by a letter; all other characters stand for themselves.
  * `Json.ofChoice` is the document of one of several things with names, and `Json.toChoice` reads
    one: its name, or an object that has the name for its only key and nothing for the value.
-/
import ScalarStubs.Text.Choice

namespace ScalarStubs

/-- A document. -/
inductive Json where
  | null
  | text (s : String)
  | number (n : Nat)
  | truth (b : Bool)
  | list (items : List Json)
  | object (members : List (String × Json))

namespace Json

/-- A hexadecimal digit, in lower case. -/
def hexDigit (n : Nat) : Char :=
  if n < 10 then Char.ofNat ('0'.toNat + n) else Char.ofNat ('a'.toNat + (n - 10))

/-- What stands for a character between quotes. -/
def escape (c : Char) : List Char :=
  if c = '"' then ['\\', '"']
  else if c = '\\' then ['\\', '\\']
  else if c = '\n' then ['\\', 'n']
  else if c = '\r' then ['\\', 'r']
  else if c = '\t' then ['\\', 't']
  else if c = '\x08' then ['\\', 'b']
  else if c = '\x0c' then ['\\', 'f']
  else if c.toNat < 0x20 then
    ['\\', 'u', '0', '0', hexDigit (c.toNat / 16), hexDigit (c.toNat % 16)]
  else [c]

/-- A text between double quotes. -/
def quote (s : String) : String :=
  "\"" ++ String.ofList (s.toList.flatMap escape) ++ "\""

/-- A line break and the margin of a depth. -/
def newline (depth : Nat) : String :=
  "\n" ++ String.ofList (List.replicate (2 * depth) ' ')

mutual

/-- Writes a document that stands at a depth. -/
def prettyAt (depth : Nat) : Json → String
  | null => "null"
  | text s => quote s
  | number n => toString n
  | truth b => if b then "true" else "false"
  | list [] => "[]"
  | list (j :: js) => "[" ++ newline (depth + 1) ++ prettyAt (depth + 1) j ++
      prettyItems (depth + 1) js ++ newline depth ++ "]"
  | object [] => "\x7b\x7d"
  | object ((k, j) :: ms) => "\x7b" ++ newline (depth + 1) ++ quote k ++ ": " ++
      prettyAt (depth + 1) j ++ prettyMembers (depth + 1) ms ++ newline depth ++ "\x7d"

/-- Writes the items behind the first one. -/
def prettyItems (depth : Nat) : List Json → String
  | [] => ""
  | j :: js => "," ++ newline depth ++ prettyAt depth j ++ prettyItems depth js

/-- Writes the members behind the first one. -/
def prettyMembers (depth : Nat) : List (String × Json) → String
  | [] => ""
  | (k, j) :: ms =>
    "," ++ newline depth ++ quote k ++ ": " ++ prettyAt depth j ++ prettyMembers depth ms

end

/-- The text of a document. -/
def pretty (j : Json) : String :=
  prettyAt 0 j

end Json

/-! ## Choices -/

/-- Why a document is none of several things with names. -/
inductive ChoiceError where
  /-- It gives a name, but none of those that were expected. -/
  | unknown (name : String) (expected : List String)
  /-- It does not give a name. -/
  | malformed
deriving DecidableEq, Repr

/-- The wording of a refusal, unless it is left to the reader of documents. -/
def ChoiceError.message? : ChoiceError → Option String
  | .unknown name expected => some (Text.notAmong expected name)
  | .malformed => none

namespace Json

variable {α : Type} [Choice α]

/-- The document of one of several things. -/
def ofChoice (a : α) : Json :=
  .text (Choice.name a)

/-- The thing that a name stands for. -/
def choiceOfName (s : String) : Except ChoiceError α :=
  match Choice.ofName? s with
  | some a => .ok a
  | none => .error (.unknown s (Choice.all.map (Choice.name (α := α))))

/-- Reads one of several things. -/
def toChoice : Json → Except ChoiceError α
  | .text s => choiceOfName s
  | .object [(s, .null)] => choiceOfName s
  | _ => .error .malformed

theorem choiceOfName_eq_ok_iff {s : String} {a : α} :
    choiceOfName s = .ok a ↔ Choice.name a = s := by
  rw [← Choice.ofName?_eq_some_iff, choiceOfName]
  cases Choice.ofName? (α := α) s <;> simp

/-- What was written can be read back. -/
theorem toChoice_ofChoice (a : α) : toChoice (ofChoice a) = .ok a :=
  choiceOfName_eq_ok_iff.2 rfl

end Json

end ScalarStubs
