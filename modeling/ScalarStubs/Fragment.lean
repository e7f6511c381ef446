/-
  Fragments: one statement for one scalar, as one of the backends generates it.

  * `Backend` lists the backends, a `Choice` by the words for them; `Backend.ofWord?` reads one.
  * `FragmentRequest` holds all that a backend may want to know; `FragmentRequest.statement` is
    the statement that a backend makes of it.
  * `FragmentRequest.render` renders that statement at the depth of the request.
-/
import ScalarStubs.Rendering
import ScalarStubs.Statement

namespace ScalarStubs

/-- A generator of code. -/
inductive Backend where
  /-- Native code that talks to a parcel. -/
  | parcel
  /-- Managed code that accesses a field in memory. -/
  | managedField
  /-- Managed code that talks to a parcel. -/
  | managedArgument
  /-- Test descriptions. -/
  | testDescription
deriving DecidableEq, Repr

namespace Backend

/-- The backends in their order. -/
def all : List Backend :=
  [parcel, managedField, managedArgument, testDescription]

/-- The name of a backend. -/
def word : Backend → String
  | parcel => "parcel"
  | managedField => "java-field"
  | managedArgument => "java-parcel"
  | testDescription => "vts"

instance : Choice Backend where
  all := all
  name := word
  mem_all b := by cases b <;> decide
  name_injective b c := by
    cases b <;> cases c <;> decide

/-- The backend that a word names. -/
def ofWord? (s : String) : Option Backend :=
  Choice.ofName? s

/-- The refusal of a text that names no backend. -/
def unknown (s : String) : String :=
  "invalid variant: " ++ s

end Backend

/-- What is asked for in a fragment. Each backend takes from it what it needs. -/
structure FragmentRequest where
  name : String := "value"
  /-- The parcel or the memory. -/
  container : String := "parcel"
  viaPointer : Bool := false
  direction : Direction := .read
  cast : Bool := false
  policy : ErrorPolicy := .jump
  /-- The offset in the memory, as an expression. -/
  offset : String := "0"
  depth : Nat := 0
deriving DecidableEq, Repr

namespace FragmentRequest

/-- The statement that a backend makes of the request. -/
def statement (r : FragmentRequest) (kind : Scalar) : Backend → Statement
  | .parcel => .transfer
      { kind
        name := r.name
        parcel := r.container
        viaPointer := r.viaPointer
        direction := r.direction
        cast := r.cast
        policy := r.policy }
  | .managedField => .fieldAccess
      { kind
        blob := r.container
        name := r.name
        offset := r.offset
        direction := r.direction }
  | .managedArgument => .argument
      { kind
        parcel := r.container
        name := r.name
        direction := r.direction }
  | .testDescription => .declaration kind

/-- The text of a fragment. -/
def render (r : FragmentRequest) (kind : Scalar) (b : Backend) (s : Settings) :
    Except RenderError String :=
  s.render r.depth ((r.statement kind b).pieces s)

end FragmentRequest

end ScalarStubs
