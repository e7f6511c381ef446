/-
  Closed choices: texts that must be one of a few names.

  * `Choice` is a type of things with names: there is a list of all of them, and no two have the
    same name. `Choice.ofName?` reads a name.
  * `ofName?_eq_some_iff`: a text is read as the thing whose name it is, and as no other.
  * `Text.quoted` sets a text between back quotes, the way all messages of this library quote, and
    `Text.notAmong` words the refusal of a text that is none of the names.
-/

namespace ScalarStubs

/-- A type of things with names. -/
class Choice (α : Type) where
  /-- All of them, in their order. -/
  all : List α
  /-- The name of each. -/
  name : α → String
  mem_all (a : α) : a ∈ all
  name_injective : Function.Injective name

namespace Choice

variable {α : Type} [Choice α]

/-- The thing that a text names. -/
def ofName? (s : String) : Option α :=
  all.find? fun a => name a == s

theorem ofName?_eq_some_iff {s : String} {a : α} : ofName? s = some a ↔ name a = s := by
  constructor
  · intro h
    simpa using List.find?_some h
  · rintro rfl
    rw [ofName?]
    cases h : all.find? fun b : α => name b == name a with
    | none => simpa using List.find?_eq_none.1 h a (mem_all a)
    | some b =>
      have hb : name b = name a := by simpa using List.find?_some h
      rw [name_injective hb]

end Choice

namespace Text

/-- The text between back quotes. -/
def quoted (s : String) : String :=
  "`" ++ s ++ "`"

/-- The refusal of a text where one of `names` was expected. -/
def notAmong (names : List String) (s : String) : String :=
  "unknown variant " ++ quoted s ++ ", expected one of " ++ ", ".intercalate (names.map quoted)

end Text

end ScalarStubs
