/-
  Layout of structs: where the fields of a struct lie.

  * `Field` is a name with a type, `Placement` a field with its place, `StructLayout` the
    placements of a struct with its size and alignment.
  * `StructLayout.ofFields` places fields in their order: each at the next multiple of its
    alignment, the struct aligned like its most aligned field and padded to a multiple of that.
  * `LayoutError` tells a field without a size from an offset that leaves 64 bits.
-/
import ScalarStubs.IdlType
import ScalarStubs.Layout.Rounding

namespace ScalarStubs

/-- A field of a struct: a name with a type. -/
structure Field where
  name : String
  type : IdlType
deriving DecidableEq, Repr

/-- A field with its place in the struct, in bytes. -/
structure Placement extends Field where
  offset : UInt64
  size : UInt64
  alignment : UInt64
deriving DecidableEq, Repr

/-- Why a struct has no layout. -/
inductive LayoutError where
  /-- The field is of a type that is not stored as a scalar. -/
  | unsizedField (field : Field)
  | offset (cause : OffsetError)
deriving DecidableEq, Repr

/-- The wording of a refusal. -/
def LayoutError.message : LayoutError → String
  | .unsizedField f => "field " ++ Text.quoted f.name ++ " of type " ++
      Text.quoted f.type.displayName ++ " has no fixed size"
  | .offset cause => cause.message

/-- A struct with its fields placed. -/
structure StructLayout where
  fields : List Placement
  size : UInt64
  alignment : UInt64
deriving DecidableEq, Repr

/-- Places a field at the first offset not below `start` that suits it. -/
def Field.place (f : Field) (start : UInt64) : Except LayoutError Placement :=
  match f.type.width? with
  | none => .error (.unsizedField f)
  | some width =>
    match alignUp start width with
    | .ok offset => .ok { f with offset, size := width, alignment := width }
    | .error e => .error (.offset e)

/-- The offset just behind a placed field. -/
def Placement.stop (p : Placement) : Except LayoutError UInt64 :=
  (addOffset p.offset p.size).mapError .offset

namespace StructLayout

/-- Places fields from `start` on: the placements, and the offset behind the last of them. -/
def placeFrom (start : UInt64) : List Field → Except LayoutError (List Placement × UInt64)
  | [] => .ok ([], start)
  | f :: fs => do
    let p ← f.place start
    let (ps, stop) ← placeFrom (← p.stop) fs
    return (p :: ps, stop)

/-- The largest alignment among placed fields, one if there are none. -/
def maxAlignment (ps : List Placement) : UInt64 :=
  ps.foldl (fun a p => max a p.alignment) 1

/-- Lays out fields in their order, the struct aligned like its most aligned field and padded. -/
def ofFields (fs : List Field) : Except LayoutError StructLayout := do
  let (ps, stop) ← placeFrom 0 fs
  let alignment := maxAlignment ps
  let size ← (alignUp stop alignment).mapError .offset
  return { fields := ps, size, alignment }

end StructLayout

end ScalarStubs
