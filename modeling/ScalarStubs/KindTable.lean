/-
  The table of kinds: all that is known about each scalar, for people and for programs.

  * `KindRow` is what the table says about one kind; `kindTable` has a row for each kind.
  * `KindRow.text` writes rows in columns under a heading, and `KindRow.json` as a list of
    objects.
-/
import ScalarStubs.Scalar
import ScalarStubs.Text.Json
import ScalarStubs.Text.Padding

namespace ScalarStubs

/-- What the table says about one kind. -/
structure KindRow where
  kind : Scalar
  native : String
  managed : String
  boxed : String
  accessor : String
  wire : String
  tag : String
  alignment : UInt64
  size : UInt64
  storesEnums : Bool
deriving DecidableEq, Repr

/-- The row of a kind. -/
def Scalar.row (kind : Scalar) : KindRow where
  kind := kind
  native := kind.spelling.native
  managed := kind.spelling.managed
  boxed := kind.spelling.boxed
  accessor := kind.spelling.accessor
  wire := kind.spelling.wire
  tag := kind.spelling.tag
  alignment := kind.width
  size := kind.width
  storesEnums := kind.isInteger

/-- The rows of all kinds, in their order. -/
def kindTable : List KindRow :=
  Scalar.all.map Scalar.row

namespace KindRow

/-- One line of ten columns. -/
def line (kind native managed boxed accessor wire tag alignment size enums : String) : String :=
  let left := [(10, kind), (10, native), (8, managed), (8, boxed), (8, accessor), (8, wire),
    (9, tag)].map fun (width, s) => Text.column width s
  let right := [(5, alignment), (4, size)].map fun (width, s) => Text.columnRight width s
  " ".intercalate (left ++ right) ++ "  " ++ enums ++ "\n"

/-- The line above the rows. -/
def heading : String :=
  line "KIND" "NATIVE" "JAVA" "BOXED" "BLOB" "PARCEL" "VTS" "ALIGN" "SIZE" "ENUM"

/-- The line of a row. -/
def toLine (r : KindRow) : String :=
  line r.kind.keyword r.native r.managed r.boxed r.accessor r.wire r.tag
    (toString r.alignment.toNat) (toString r.size.toNat) (if r.storesEnums then "yes" else "no")

/-- Rows in columns. -/
def text (rows : List KindRow) : String :=
  heading ++ String.join (rows.map toLine)

/-- The object of a row. -/
def toJson (r : KindRow) : Json :=
  .object
    [("kind", .text r.kind.keyword),
      ("native", .text r.native),
      ("managed", .text r.managed),
      ("managed_boxed", .text r.boxed),
      ("accessor_suffix", .text r.accessor),
      ("serialization_suffix", .text r.wire),
      ("test_spec_name", .text r.tag),
      ("alignment", .number r.alignment.toNat),
      ("size", .number r.size.toNat),
      ("enum_storage", .truth r.storesEnums)]

/-- Rows as a list of objects. -/
def json (rows : List KindRow) : String :=
  (Json.list (rows.map toJson)).pretty

end KindRow

end ScalarStubs
