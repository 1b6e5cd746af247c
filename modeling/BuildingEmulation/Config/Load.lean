import BuildingEmulation.Config.Decode
import BuildingEmulation.FileAccess
import BuildingEmulation.Text.Blank
import BuildingEmulation.Toml.Reader

/-!
# Loading configurations

A configuration is read from a TOML file: from the one that the environment names, or else from the
first candidate that exists. It is validated as it is read.
-/
namespace BuildingEmulation.Config

/-- Why a text is no usable configuration. -/
inductive ParseFault (α : Type)
  | malformed
  | invalid (fault : ConfigurationFault α)
  deriving Repr

def ParseFault.message {α : Type} [Scalar α] [Decimal.Numeral α] : ParseFault α → String
  | malformed => "failed to parse configuration"
  | invalid fault => fault.message

/-- Why no configuration could be loaded. -/
inductive LoadFault (α : Type)
  | noneFound (candidates : List String)
  | unreadable (path : String)
  | unusable (path : String) (fault : ParseFault α)
  deriving Repr

namespace LoadFault

variable {α : Type}

/-- What went wrong, without the reason. -/
def headline : LoadFault α → String
  | noneFound candidates =>
    let listed := ", ".intercalate candidates
    s!"no configuration files found. inspected: {listed}"
  | unreadable path => s!"unable to read config file {path}"
  | unusable path _ => s!"failed to parse config file {path}"

def message [Scalar α] [Decimal.Numeral α] : LoadFault α → String
  | unusable path fault => (unusable path fault).headline ++ ": " ++ fault.message
  | fault => fault.headline

end LoadFault

/-- A configuration and the path it came from. -/
structure Loaded (α : Type) where
  configuration : Configuration α
  source : String

variable {α : Type} [Scalar α] [Decimal.Numeral α]

/-- The configuration that a TOML text gives, if it is valid. Mirrors `from_str`. -/
def parse (text : String) : Except (ParseFault α) (Configuration α) :=
  match Toml.ofToml? text >>= configuration? .toml with
  | none => .error .malformed
  | some c =>
    match c.validate with
    | .error fault => .error (.invalid fault)
    | .ok () => .ok c

/-- The configuration that the text of a file gives, if it could be read. -/
def ofFile (path : String) : Option String → Except (LoadFault α) (Loaded α)
  | none => .error (.unreadable path)
  | some text =>
    match parse text with
    | .error fault => .error (.unusable path fault)
    | .ok configuration => .ok { configuration, source := path }

section

variable {m : Type → Type} [Monad m]

/-- The path to load from: the one that the environment names unless it is blank, or the first
candidate that exists. -/
def choose (files : FileAccess m) (environment : Option String) (candidates : List String) :
    m (Option String) :=
  match environment.filter fun path => !Text.isBlankText path with
  | some path => pure (some path)
  | none => candidates.findM? files.holds

/-- The configuration from the file that is chosen. Mirrors `load_with_source`. -/
def load (files : FileAccess m) (environment : Option String) (candidates : List String) :
    m (Except (LoadFault α) (Loaded α)) := do
  match ← choose files environment candidates with
  | some path => pure (ofFile path (← files.read path))
  | none => pure (.error (.noneFound candidates))

end

end BuildingEmulation.Config
