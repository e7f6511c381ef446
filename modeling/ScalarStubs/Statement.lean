/-
  Statements: what is generated for values of scalar types.

  * `Statement` is one thing to generate: the transfer of a value to or from the wire, the check
    of a status, an access to a field in memory, the transfer of an argument in managed code, a
    declaration in a test description, or one access for each field of a struct.
  * `Statement.pieces` lists the texts that make it up, in the order in which they are written;
    `Printer.emit` writes them. A failure of the sink between two pieces leaves the rest out.
  * `EmitError` is such a failure, as the one who asked for the statement sees it.
-/
import ScalarStubs.ErrorPolicy
import ScalarStubs.Layout.Basic
import ScalarStubs.Printer.Basic

namespace ScalarStubs

/-- Whether a value is fetched or stored. -/
inductive Direction where
  | read
  | write
deriving DecidableEq, Repr

/-- The transfer of a value between a variable and a parcel, in native code. -/
structure Transfer where
  kind : Scalar
  name : String := "value"
  parcel : String := "parcel"
  /-- Whether `parcel` is a pointer to the parcel. -/
  viaPointer : Bool := false
  direction : Direction := .read
  /-- Whether the argument is cast to the native type. -/
  cast : Bool := false
  policy : ErrorPolicy := .jump
deriving DecidableEq, Repr

/-- An access to a value in memory, in managed code. -/
structure FieldAccess where
  kind : Scalar
  blob : String := "blob"
  name : String := "value"
  /-- The offset in the memory, as an expression. -/
  offset : String := "0"
  direction : Direction := .read
deriving DecidableEq, Repr

/-- The transfer of an argument between a variable and a parcel, in managed code. -/
structure ArgumentTransfer where
  kind : Scalar
  parcel : String := "parcel"
  name : String := "value"
  direction : Direction := .read
deriving DecidableEq, Repr

/-- Accesses to all fields of a struct in memory, in managed code. -/
structure StructAccess where
  layout : StructLayout
  blob : String := "blob"
  /-- The object whose members the fields are; empty if they are variables. -/
  owner : String := ""
  /-- The offset of the struct in the memory, as an expression. -/
  base : String := "0"
  direction : Direction := .read
deriving DecidableEq, Repr

/-- Something to generate. -/
inductive Statement where
  | transfer (t : Transfer)
  | statusCheck (policy : ErrorPolicy)
  | fieldAccess (a : FieldAccess)
  | argument (t : ArgumentTransfer)
  | declaration (kind : Scalar)
  | structAccess (a : StructAccess)
deriving DecidableEq, Repr

/-! ## Texts -/

/-- The word of a direction in a call. -/
def Direction.operation : Direction → String
  | .read => "read"
  | .write => "write"

/-- The call up to its argument, the argument's cast, its address operator, the argument, and the
    check of the status. -/
def Transfer.pieces (s : Settings) (t : Transfer) : List String :=
  let arrow := if t.viaPointer then "->" else "."
  let call := s.statusVar ++ " = " ++ t.parcel ++ arrow ++ t.direction.operation ++
    t.kind.spelling.wire ++ "("
  let star := match t.direction with
    | .read => " *"
    | .write => ""
  let cast := if t.cast then ["(" ++ t.kind.spelling.native ++ star ++ ")"] else []
  let address := match t.direction with
    | .read => ["&"]
    | .write => []
  [call] ++ cast ++ address ++ [t.name ++ ");\n", t.policy.check s]

/-- The line of an access: it stores into a variable what it fetches, or stores a variable. -/
def FieldAccess.line (a : FieldAccess) : String :=
  match a.direction with
  | .read =>
    a.name ++ " = " ++ a.blob ++ ".get" ++ a.kind.spelling.accessor ++ "(" ++ a.offset ++ ");\n"
  | .write =>
    a.blob ++ ".put" ++ a.kind.spelling.accessor ++ "(" ++ a.offset ++ ", " ++ a.name ++ ");\n"

/-- The line of a transfer: it stores into a variable what it fetches, or stores a variable. -/
def ArgumentTransfer.line (t : ArgumentTransfer) : String :=
  match t.direction with
  | .read => t.name ++ " = " ++ t.parcel ++ ".read" ++ t.kind.spelling.accessor ++ "();\n"
  | .write => t.parcel ++ ".write" ++ t.kind.spelling.accessor ++ "(" ++ t.name ++ ");\n"

/-- The access to one field of the struct; none if the field is not stored as a scalar. -/
def StructAccess.field? (a : StructAccess) (p : Placement) : Option FieldAccess :=
  p.type.scalar?.map fun kind =>
    { kind
      blob := a.blob
      name := if a.owner = "" then p.name else a.owner ++ "." ++ p.name
      offset := a.base ++ " + " ++ toString p.offset.toNat
      direction := a.direction }

/-- The accesses to the fields of the struct, in their order. -/
def StructAccess.fields (a : StructAccess) : List FieldAccess :=
  a.layout.fields.filterMap a.field?

/-- The lines of a declaration. -/
def Scalar.declaration (kind : Scalar) : List String :=
  ["type: TYPE_SCALAR\n", "scalar_type: \"" ++ kind.spelling.tag ++ "\"\n"]

/-- The texts of a statement, in the order in which they are written. -/
def Statement.pieces (s : Settings) : Statement → List String
  | .transfer t => t.pieces s
  | .statusCheck policy => [policy.check s]
  | .fieldAccess a => [a.line]
  | .argument t => [t.line]
  | .declaration kind => kind.declaration
  | .structAccess a => a.fields.map FieldAccess.line

/-! ## Writing -/

/-- A statement did not get through to a sink that fails for causes in `ε`. -/
structure EmitError (ε : Type) where
  cause : SinkError ε
deriving DecidableEq, Repr

/-- The wording of a failure, by the wording of the sink's own causes. -/
def EmitError.message {ε : Type} (wording : ε → String) (e : EmitError ε) : String :=
  "failed to write generated code: " ++ e.cause.message wording

/-- Writes a statement piece by piece, up to the first failure. -/
def Printer.emit {σ ε : Type} [ByteSink σ ε] (s : Settings) (p : Printer σ) (stmt : Statement) :
    Printer σ × Option (EmitError ε) :=
  let (q, e) := p.writeEach (stmt.pieces s)
  (q, e.map EmitError.mk)

end ScalarStubs
