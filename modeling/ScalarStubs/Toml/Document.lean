/-
  Documents of TOML: lines, and the tables that they make up.

  * `Line` is what a line of a document says; `Line.read` reads one, blank lines and comments
    being lines that say nothing.
  * `Document.read?` is the table that a document stands for, if it is one. All of its lines are
    read before any of them is carried out.
-/
import ScalarStubs.Toml.Value

namespace ScalarStubs.Toml

open Reader

/-- What a line of a document says. -/
inductive Line where
  | blank
  | entry (key : Key) (v : Value)
  | table (key : Key)
  /-- The heading of one more table of several. -/
  | item (key : Key)

namespace Line

/-- Reads a heading between marks. -/
def heading (left right : String) : Reader Key := do
  exactly left
  let key ← Key.read
  exactly right
  return key

/-- Reads an entry. -/
def readEntry : Reader Line := do
  let (key, v) ← pair (value (nestingLimit - 1))
  return .entry key v

/-- Reads a line with its end. -/
def read : Reader Line := do
  blanks
  let line ← item <$> heading "[[" "]]" <|> table <$> heading "[" "]" <|> readEntry <|> pure blank
  lineEnd
  return line

end Line

/-- A document up to some line: what it amounts to, and the table that entries go to. -/
structure Document where
  entries : Entries := []
  current : List String := []

namespace Document

/-- Carries out a line. -/
def step (d : Document) : Line → Option Document
  | .blank => some d
  | .entry key v => (d.entries.assign d.current key v).map fun es => { d with entries := es }
  | .table key => (d.entries.openTable key).map fun es => ⟨es, key.names⟩
  | .item key => (d.entries.openItem key).map fun es => ⟨es, key.names⟩

/-- The lines of a text. A byte order mark in front of them is skipped. -/
def lines? (s : String) : Option (List Line) :=
  let cs := match s.toList with
    | '\uFEFF' :: cs => cs
    | cs => cs
  match many Line.read cs with
  | some (lines, []) => some lines
  | _ => none

/-- The table that a text stands for, if it is a document. -/
def read? (s : String) : Option Entries := do
  let lines ← lines? s
  let d ← lines.foldlM step {}
  return d.entries

end Document

end ScalarStubs.Toml
