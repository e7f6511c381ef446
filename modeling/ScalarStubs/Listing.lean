/-
  Listings: a struct given by specifications of its fields, with its layout and accessors.

  * `Field.ofSpec` reads a specification, a name and a keyword with a colon between them. The
    first colon ends the name; `SpecError` tells what is wrong with a specification.
  * `ListingRequest.render` lists the placement of each field, the size and alignment of the
    struct, and then one accessor for each field. The first bad specification is reported.
-/
import ScalarStubs.Rendering
import ScalarStubs.Statement
import ScalarStubs.Text.Padding

namespace ScalarStubs

/-- What is wrong with a specification. -/
inductive SpecError where
  | missingSeparator (spec : String)
  | emptyName (spec : String)
  | unknownScalar (keyword : String)
deriving DecidableEq, Repr

/-- The wording of a refusal. -/
def SpecError.message : SpecError → String
  | .missingSeparator spec => "field " ++ Text.quoted spec ++ " must be written as name:kind"
  | .emptyName spec => "field " ++ Text.quoted spec ++ " has an empty name"
  | .unknownScalar keyword => Scalar.unknown keyword

/-- Reads the specification of a field. -/
def Field.ofSpec (spec : String) : Except SpecError Field :=
  let name := spec.toList.takeWhile (· != ':')
  match spec.toList.dropWhile (· != ':') with
  | [] => .error (.missingSeparator spec)
  | _ :: rest =>
    if name = [] then .error (.emptyName spec)
    else
      match Scalar.ofKeyword? (String.ofList rest) with
      | some kind => .ok { name := String.ofList name, type := .scalar kind }
      | none => .error (.unknownScalar (String.ofList rest))

/-- What is asked for in a listing. -/
structure ListingRequest where
  /-- The memory that the struct lies in. -/
  blob : String := "_hidl_blob"
  /-- The object whose members the fields are; empty if they are variables. -/
  owner : String := ""
  direction : Direction := .read
  depth : Nat := 0
deriving DecidableEq, Repr

/-- Why there is no listing. -/
inductive ListingError where
  | spec (error : SpecError)
  | layout (error : LayoutError)
  | render (error : RenderError)
deriving DecidableEq, Repr

/-- The wording of a failure. -/
def ListingError.message : ListingError → String
  | .spec e => e.message
  | .layout e => e.message
  | .render e => e.message

/-- The line of a listing that tells where a field lies. -/
def Placement.comment (p : Placement) : String :=
  "// " ++ Text.column 16 p.name ++ " " ++ Text.column 10 p.type.displayName ++ " offset " ++
    Text.columnRight 3 (toString p.offset.toNat) ++ " size " ++ toString p.size.toNat ++ "\n"

/-- The line of a listing that tells how large the struct is. -/
def StructLayout.comment (l : StructLayout) : String :=
  "// size " ++ toString l.size.toNat ++ " align " ++ toString l.alignment.toNat ++ "\n"

namespace ListingRequest

/-- The accesses to the fields of a struct that a listing ends with. -/
def access (r : ListingRequest) (l : StructLayout) : StructAccess where
  layout := l
  blob := r.blob
  owner := r.owner
  base := "_hidl_offset"
  direction := r.direction

/-- The texts of a listing, in the order in which they are written. -/
def pieces (r : ListingRequest) (s : Settings) (l : StructLayout) : List String :=
  l.fields.map Placement.comment ++ [l.comment] ++ (Statement.structAccess (r.access l)).pieces s

/-- The text of a listing. -/
def render (r : ListingRequest) (specs : List String) (s : Settings) :
    Except ListingError String := do
  let fields ← (specs.mapM Field.ofSpec).mapError .spec
  let layout ← (StructLayout.ofFields fields).mapError .layout
  (s.render r.depth (r.pieces s layout)).mapError .render

end ListingRequest

end ScalarStubs
