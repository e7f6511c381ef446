/-
  Types of the interface language, as far as layout looks at them.

  * `IdlType` is a scalar, an enum, a typedef or a string; `IdlType.displayName` is the name under
    which messages and listings show it.
  * `EnumDecl` is an enum with its storage, which by its type is an integer. `EnumDecl.over?`
    declares an enum over a type that resolves to one.
  * `IdlType.scalar?` resolves a type to the scalar that stores it. Enums and typedefs are
    transparent; a string has none.
  * `IdlType.addNames` collects the declared names that a type mentions itself.
-/
import Std.Data.TreeSet.Basic
import ScalarStubs.Scalar

namespace ScalarStubs

/-- An enum: its name and the integer that stores it. -/
structure EnumDecl where
  name : String
  storage : Scalar
  isInteger_storage : storage.isInteger = true := by decide
deriving DecidableEq, Repr

/-- A type of the interface language. -/
inductive IdlType where
  | scalar (kind : Scalar)
  | enum (decl : EnumDecl)
  /-- Another name for a type. -/
  | typedef (name : String) (target : IdlType)
  | string
deriving DecidableEq, Repr

namespace IdlType

/-- The name under which a type is shown. -/
def displayName : IdlType → String
  | scalar k => k.keyword
  | enum d => d.name
  | typedef name _ => name
  | string => "string"

instance : Display IdlType where
  shown t p := p.apply t.displayName

/-- The scalar that stores values of the type, if there is one. -/
def scalar? : IdlType → Option Scalar
  | scalar k => some k
  | enum d => some d.storage
  | typedef _ target => target.scalar?
  | string => none

/-- Whether an enum can be declared over the type. -/
def storesEnums (t : IdlType) : Bool :=
  t.scalar?.any Scalar.isInteger

/-- The size of the type in bytes, which is its alignment too. -/
def width? (t : IdlType) : Option UInt64 :=
  t.scalar?.map Scalar.width

/-- Adds the declared name that the type mentions to a set of names. -/
def addNames (t : IdlType) (names : Std.TreeSet String) : Std.TreeSet String :=
  match t with
  | enum d => names.insert d.name
  | typedef name _ => names.insert name
  | scalar _ | string => names

end IdlType

/-- An enum was declared over a type that is not stored as an integer. -/
structure EnumStorageError where
  name : String
  storage : IdlType
deriving DecidableEq, Repr

/-- The wording of the refusal. -/
def EnumStorageError.message (e : EnumStorageError) : String :=
  "enum " ++ Text.quoted e.name ++ " cannot use " ++ Text.quoted e.storage.displayName ++
    " as its storage type"

/-- Declares an enum over a type that resolves to an integer. -/
def EnumDecl.over? (name : String) (t : IdlType) : Except EnumStorageError EnumDecl :=
  match t.scalar? with
  | some k => if h : k.isInteger = true then .ok ⟨name, k, h⟩ else .error ⟨name, t⟩
  | none => .error ⟨name, t⟩

end ScalarStubs
