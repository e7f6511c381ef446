/-
  Settings: the names that generated code uses, and its indentation.

  * `Settings` holds the four texts; the defaults are those of a field left out.
  * `Settings.fault?` is the first thing that is wrong with settings, if anything is: both names
    must be identifiers, the success value must not be blank, and the indentation must be a
    nonempty run of spaces and tabs.
  * `isIdentifier` is the test for a name, ASCII letters, digits and underscores only.
  * `fault?_eq_none_iff`: nothing is wrong if all four texts pass their tests.
-/
import ScalarStubs.Text.Blank
import ScalarStubs.Text.Choice

namespace ScalarStubs

/-- What the generated code calls things. -/
structure Settings where
  /-- The variable that receives the status of a call. -/
  statusVar : String := "_hidl_err"
  /-- The expression for success. -/
  okStatus : String := "::android::OK"
  /-- The label to jump to on failure. -/
  errorLabel : String := "_hidl_error"
  /-- One level of indentation. -/
  indent : String := "    "
deriving DecidableEq, Repr

/-- What can be wrong with settings. -/
inductive SettingsFault where
  | statusVar (name : String)
  | errorLabel (name : String)
  | okStatusBlank
  | indent
deriving DecidableEq, Repr

/-- The wording of a fault. -/
def SettingsFault.message : SettingsFault → String
  | .statusVar name => "status_var " ++ Text.quoted name ++ " is not an identifier"
  | .errorLabel name => "error_label " ++ Text.quoted name ++ " is not an identifier"
  | .okStatusBlank => "ok_status is empty"
  | .indent => "indent must be a non-empty run of spaces or tabs"

/-- Whether a character may begin an identifier. -/
def isIdentifierStart (c : Char) : Bool :=
  c == '_' || c.isAlpha

/-- Whether a character may stand in an identifier. -/
def isIdentifierRest (c : Char) : Bool :=
  c == '_' || c.isAlphanum

/-- Whether a text is an identifier. -/
def isIdentifier (s : String) : Bool :=
  match s.toList with
  | [] => false
  | c :: cs => isIdentifierStart c && cs.all isIdentifierRest

/-- Whether a text is a nonempty run of spaces and tabs. -/
def isIndentation (s : String) : Bool :=
  s.toList != [] && s.toList.all fun c => c == ' ' || c == '\t'

namespace Settings

/-- The first fault of the settings. -/
def fault? (s : Settings) : Option SettingsFault :=
  if !isIdentifier s.statusVar then some (.statusVar s.statusVar)
  else if !isIdentifier s.errorLabel then some (.errorLabel s.errorLabel)
  else if s.okStatus.toList.all Text.isBlank then some .okStatusBlank
  else if !isIndentation s.indent then some .indent
  else none

theorem fault?_eq_none_iff {s : Settings} : s.fault? = none ↔
    isIdentifier s.statusVar = true ∧ isIdentifier s.errorLabel = true ∧
      s.okStatus.toList.all Text.isBlank = false ∧ isIndentation s.indent = true := by
  unfold fault?
  cases isIdentifier s.statusVar <;> cases isIdentifier s.errorLabel <;>
    cases s.okStatus.toList.all Text.isBlank <;> cases isIndentation s.indent <;> simp

end Settings

end ScalarStubs
