/-
  Scalars: the twelve primitive kinds of the interface language and how each is spelt and stored.

  * `Scalar` lists the kinds; `Scalar.all` holds them in their order, and `Scalar.index` is the
    place in it.
  * `Scalar.spelling` is the one table from which every question about a kind is answered: its
    keyword, the native and the managed type, the names of its accessors, its tag in a test
    description and its width.
  * `Scalar.nativeType` spells a type in native code, for each way in which values are held.
  * Kinds are a `Choice` by their keywords; `Scalar.ofKeyword?` reads one.

  The managed side has no unsigned primitives, so an unsigned kind takes the managed type and the
  memory accessor of the signed kind of its width; on the wire the two stay apart.
-/
import ScalarStubs.Text.Choice
import ScalarStubs.Text.Padding

namespace ScalarStubs

/-- A primitive kind. -/
inductive Scalar where
  | bool
  | pointer
  | int8
  | uint8
  | int16
  | uint16
  | int32
  | uint32
  | int64
  | uint64
  | float
  | double
deriving DecidableEq, Repr

/-- How a value is held where it is used. -/
inductive StorageMode where
  | stack
  | argument
  | result
deriving DecidableEq, Repr

/-- How native code spells a type: in front of the declared name, and behind it. -/
structure NativeType where
  name : String
  extra : String
deriving DecidableEq, Repr

/-- What the generated code calls a kind, and how many bytes a value takes. -/
structure Spelling where
  keyword : String
  /-- The storage type of native code. -/
  native : String
  /-- The primitive type of managed code. -/
  managed : String
  /-- The boxed type of managed code. -/
  boxed : String
  /-- The ending of the `get` and `put` operations on memory, without the sign. -/
  accessor : String
  /-- The ending of the `read` and `write` operations on the wire, with the sign. -/
  wire : String
  /-- The tag in a test description. -/
  tag : String
  /-- The size in bytes, which is the alignment too. -/
  width : UInt64

namespace Scalar

/-- The table of kinds. One byte for `bool` is a convention, not a promise of any platform. -/
def spelling : Scalar → Spelling
  | bool => ⟨"bool", "bool", "boolean", "Boolean", "Bool", "Bool", "bool_t", 1⟩
  | pointer => ⟨"pointer", "void *", "long", "Long", "Pointer", "Pointer", "opaque", 8⟩
  | int8 => ⟨"int8_t", "int8_t", "byte", "Byte", "Int8", "Int8", "int8_t", 1⟩
  | uint8 => ⟨"uint8_t", "uint8_t", "byte", "Byte", "Int8", "Uint8", "uint8_t", 1⟩
  | int16 => ⟨"int16_t", "int16_t", "short", "Short", "Int16", "Int16", "int16_t", 2⟩
  | uint16 => ⟨"uint16_t", "uint16_t", "short", "Short", "Int16", "Uint16", "uint16_t", 2⟩
  | int32 => ⟨"int32_t", "int32_t", "int", "Int", "Int32", "Int32", "int32_t", 4⟩
  | uint32 => ⟨"uint32_t", "uint32_t", "int", "Int", "Int32", "Uint32", "uint32_t", 4⟩
  | int64 => ⟨"int64_t", "int64_t", "long", "Long", "Int64", "Int64", "int64_t", 8⟩
  | uint64 => ⟨"uint64_t", "uint64_t", "long", "Long", "Int64", "Uint64", "uint64_t", 8⟩
  | float => ⟨"float", "float", "float", "Float", "Float", "Float", "float_t", 4⟩
  | double => ⟨"double", "double", "double", "Double", "Double", "Double", "double_t", 8⟩

/-- The kinds in their order. -/
def all : List Scalar :=
  [bool, pointer, int8, uint8, int16, uint16, int32, uint32, int64, uint64, float, double]

theorem mem_all (k : Scalar) : k ∈ all := by
  cases k <;> decide

/-- The place of a kind in the order. -/
def index (k : Scalar) : Nat :=
  all.idxOf k

/-- Kinds in their order, equal ones next to each other. -/
def sort (ks : List Scalar) : List Scalar :=
  ks.mergeSort fun a b => a.index ≤ b.index

/-- The name of a kind in the interface language. -/
def keyword (k : Scalar) : String :=
  k.spelling.keyword

/-- The size of a value in bytes; a value is aligned to its own size. -/
def width (k : Scalar) : UInt64 :=
  k.spelling.width

/-- The native type of a value, however it is held. -/
def nativeType (k : Scalar) (_mode : StorageMode) : NativeType where
  name := k.spelling.native
  extra := ""

/-- Whether a kind is one of the eight integers. Only these can store an enum. -/
def isInteger : Scalar → Bool
  | int8 | uint8 | int16 | uint16 | int32 | uint32 | int64 | uint64 => true
  | bool | pointer | float | double => false

/-! ## Keywords -/

theorem keyword_injective : Function.Injective keyword := by
  intro a b
  cases a <;> cases b <;> decide

instance : Choice Scalar where
  all := all
  name := keyword
  mem_all := mem_all
  name_injective := keyword_injective

/-- The kind that a keyword names. -/
def ofKeyword? (s : String) : Option Scalar :=
  Choice.ofName? s

theorem ofKeyword?_eq_some_iff {s : String} {k : Scalar} : ofKeyword? s = some k ↔ k.keyword = s :=
  Choice.ofName?_eq_some_iff

/-- The refusal of a text that is no keyword. -/
def unknown (s : String) : String :=
  "unknown scalar type " ++ Text.quoted s

instance : Display Scalar where
  shown k p := p.apply k.keyword

end Scalar

end ScalarStubs
