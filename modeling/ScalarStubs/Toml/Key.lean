/-
  Keys of TOML: names, and paths of names with points between them.

  * `Key` is a name together with the names of the tables that it stands in, outermost first.
  * `Key.read` reads a key; each of its names is bare or quoted. Paths have a greatest length,
    and `nestingLimit` holds for them as it holds for values inside each other.
-/
import ScalarStubs.Toml.Quotation.Basic

namespace ScalarStubs.Toml

open Reader

/-- So many levels are too many. -/
def nestingLimit : Nat := 80

/-- A name in a table, with the path to that table. -/
structure Key where
  path : List String
  name : String
deriving DecidableEq, Repr

/-- Whether a character may stand in a name without quotes. -/
def isBare (c : Char) : Bool :=
  c.isAlphanum || c == '_' || c == '-'

/-- Reads a name without quotes. -/
def bareName : Reader String := do
  let c ← oneOf isBare
  let cs ← span isBare
  return String.ofList (c :: cs)

/-- Reads a name with the blanks around it. -/
def name : Reader String := do
  blanks
  let s ← bareName <|> oneLineText
  blanks
  return s

namespace Key

/-- The key with names read from left to right. -/
def ofNames : String → List String → Key
  | s, [] => ⟨[], s⟩
  | s, t :: ts => let k := ofNames t ts; ⟨s :: k.path, k.name⟩

/-- All names of a key. -/
def names (k : Key) : List String :=
  k.path ++ [k.name]

/-- Reads a key, whose path must not be too long. -/
def read : Reader Key := do
  let s ← Toml.name
  let ss ← many (exactly "." *> Toml.name)
  guard (ss.length + 1 < nestingLimit)
  return ofNames s ss

end Key

end ScalarStubs.Toml
