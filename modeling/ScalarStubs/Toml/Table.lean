/-
  Tables of TOML: what the entries and headings of a document amount to.

  * `Item` is what a name stands for: a value, a table or the last of several tables. A table
    remembers how it came about, its `Origin`, for that decides who may add to it.
  * `Entries.descend` changes the entries of the table at the end of a path, making tables on the
    way; `Entries.assign`, `Entries.openTable` and `Entries.openItem` do what a line of a document
    asks for. Each of them fails where a name already stands for something else.
-/
import ScalarStubs.Named
import ScalarStubs.Toml.Key

namespace ScalarStubs.Toml

/-- A value. Only texts are looked into; all others merely have to be well formed. -/
inductive Value where
  | text (s : String)
  | other
deriving DecidableEq, Repr

/-- How a table came about. -/
inductive Origin where
  /-- By a heading of its own, or as the document itself. -/
  | heading
  /-- On the way to another table that has a heading. -/
  | passed
  /-- On the way to a value, by the points in its key. -/
  | dotted
deriving DecidableEq, Repr

/-- What a name stands for. -/
inductive Item where
  | value (v : Value)
  | table (origin : Origin) (entries : List (String × Item))
  /-- Several tables, of which only the last can still grow. -/
  | tables (last : List (String × Item))

/-- The entries of a table in their order. -/
abbrev Entries := List (String × Item)

namespace Entries

/-- Changes the table at the end of a path. The points of a key do not lead into a table that has
    a heading of its own. -/
def descend (dotted : Bool) (change : Origin → Entries → Option Entries) :
    List String → Origin → Entries → Option Entries
  | [], origin, es => change origin es
  | k :: path, _, es =>
    match es.lookup k with
    | none =>
      let origin := if dotted then .dotted else .passed
      (descend dotted change path origin []).map fun t => Named.put k (.table origin t) es
    | some (.value _) => none
    | some (.table origin t) =>
      if dotted ∧ origin = .heading then none
      else (descend dotted change path origin t).map fun t => Named.put k (.table origin t) es
    | some (.tables last) =>
      (descend dotted change path .heading last).map fun t => Named.put k (.tables t) es

/-- Adds a value. A table that came about by points grows by points only, and no other does. -/
def add (key : Key) (v : Value) (origin : Origin) (es : Entries) : Option Entries :=
  if origin = .dotted ↔ key.path = [] then none
  else
    match es.lookup key.name with
    | none => some (Named.put key.name (.value v) es)
    | some _ => none

/-- Adds a value to the table at the end of a path, under a key that starts there. -/
def assign (table : List String) (key : Key) (v : Value) (es : Entries) : Option Entries :=
  descend false (descend true (add key v) key.path) table .heading es

/-- Opens a table by its heading. It may have been passed before, but not have had a heading. -/
def openTable (key : Key) (es : Entries) : Option Entries :=
  descend false (fun _ es =>
    match es.lookup key.name with
    | none => some (Named.put key.name (.table .heading []) es)
    | some (.table .passed t) => some (Named.put key.name (.table .heading t) es)
    | some _ => none) key.path .heading es

/-- Opens one more table of several by its heading. -/
def openItem (key : Key) (es : Entries) : Option Entries :=
  descend false (fun _ es =>
    match es.lookup key.name with
    | none | some (.tables _) => some (Named.put key.name (.tables []) es)
    | some _ => none) key.path .heading es

end Entries

end ScalarStubs.Toml
