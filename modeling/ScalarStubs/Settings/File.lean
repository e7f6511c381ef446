/-
  Settings files: settings as TOML text.

  * `Setting` names the four settings, a `Choice` by their keys; an entry of a settings file is a
    line for one of them.
  * `Settings.toToml` writes all four, and `Settings.ofToml` reads a document. Settings left out
    keep their defaults, other keys are ignored, and what was read must be without fault.
  * `Settings.ofFile` and `Settings.toFile` do the same with a file, and `SettingsError` is what
    can go wrong. `Settings.load` takes the defaults if there is no file, and says in a
    `LoadError` which file it could not load.
-/
import ScalarStubs.Files.Basic
import ScalarStubs.Settings.Basic
import ScalarStubs.Toml.Document
import ScalarStubs.Toml.Quotation.Written

namespace ScalarStubs

/-- One of the settings. -/
inductive Setting where
  | statusVar
  | okStatus
  | errorLabel
  | indent
deriving DecidableEq, Repr

namespace Setting

/-- The settings in the order in which they are written. -/
def all : List Setting :=
  [statusVar, okStatus, errorLabel, indent]

/-- The key of a setting in a file. -/
def key : Setting → String
  | statusVar => "status_var"
  | okStatus => "ok_status"
  | errorLabel => "error_label"
  | indent => "indent"

theorem mem_all (f : Setting) : f ∈ all := by
  cases f <;> decide

theorem key_injective : Function.Injective key := by
  intro f g
  cases f <;> cases g <;> decide

instance : Choice Setting where
  all := all
  name := key
  mem_all := mem_all
  name_injective := key_injective

/-- The setting of a key. -/
def ofKey? (s : String) : Option Setting :=
  Choice.ofName? s

end Setting

/-- Why settings could not be read or written. -/
inductive SettingsError where
  | file (cause : FileError)
  /-- A setting cannot be written. -/
  | unwritable (cause : Toml.QuoteError)
  | malformed
  | invalid (fault : SettingsFault)
deriving DecidableEq, Repr

/-- The wording of what went wrong. -/
def SettingsError.message : SettingsError → String
  | .file cause => "I/O error: " ++ cause.message
  | .unwritable cause => cause.message
  | .malformed => "TOML parse error"
  | .invalid fault => "Invalid configuration: " ++ fault.message

/-- The wording of what went wrong, and then of what caused it. -/
def SettingsError.report (e : SettingsError) : String :=
  match e with
  | .file cause => e.message ++ ": " ++ cause.message
  | e => e.message

/-- Why settings could not be loaded, and where from. -/
structure LoadError where
  path : String
  cause : SettingsError
deriving DecidableEq, Repr

/-- The wording of what went wrong, with the file that it went wrong with. -/
def LoadError.message (e : LoadError) : String :=
  "Failed to load config " ++ e.path ++ ": " ++ e.cause.report

namespace Settings

/-- The text of a setting. -/
def get (s : Settings) : Setting → String
  | .statusVar => s.statusVar
  | .okStatus => s.okStatus
  | .errorLabel => s.errorLabel
  | .indent => s.indent

/-- The settings with a new text for one of them. -/
def set (s : Settings) (text : String) : Setting → Settings
  | .statusVar => { s with statusVar := text }
  | .okStatus => { s with okStatus := text }
  | .errorLabel => { s with errorLabel := text }
  | .indent => { s with indent := text }

/-! ## As text -/

/-- The line for a setting, if its text can be written. -/
def entry (s : Settings) (f : Setting) : Except Toml.QuoteError String := do
  return f.key ++ " = " ++ (← Toml.quote (s.get f)) ++ "\n"

/-- All settings as a TOML text, if they can be written. -/
def toToml (s : Settings) : Except Toml.QuoteError String := do
  return String.join (← Setting.all.mapM s.entry)

/-- Takes a setting from the entries of a table, if it has one there. That must be a text. -/
def override (entries : Toml.Entries) (s : Settings) (f : Setting) :
    Except SettingsError Settings :=
  match entries.lookup f.key with
  | none => .ok s
  | some (.value (.text t)) => .ok (s.set t f)
  | some _ => .error .malformed

/-- The same settings, if nothing is wrong with them. -/
def validate (s : Settings) : Except SettingsError Settings :=
  match s.fault? with
  | none => .ok s
  | some f => .error (.invalid f)

/-- The settings of a TOML text. -/
def ofToml (text : String) : Except SettingsError Settings :=
  match Toml.Document.read? text with
  | none => .error .malformed
  | some entries => Setting.all.foldlM (override entries) {} >>= validate

/-! ## In files -/

variable {m : Type → Type} [Monad m] [FileStore m]

/-- The settings of a file. -/
def ofFile (path : String) : m (Except SettingsError Settings) := do
  return (← FileStore.readText path).mapError .file >>= ofToml

/-- Writes all settings to a file. -/
def toFile (s : Settings) (path : String) : m (Except SettingsError Unit) := do
  match s.toToml with
  | .ok text => return (← FileStore.writeText path text).mapError .file
  | .error e => return .error (.unwritable e)

/-- The settings of a file, or the defaults if there is no path to one. -/
def load : Option String → m (Except LoadError Settings)
  | none => pure (.ok {})
  | some path => do return (← ofFile path).mapError (LoadError.mk path)

end Settings

end ScalarStubs
