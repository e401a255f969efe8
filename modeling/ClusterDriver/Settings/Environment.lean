import ClusterDriver.Settings.Basic
/-!
# Settings from the environment

Every known option has a variable that overrides its built-in value. A text that does not read as
the option's kind is kept as a string, so that the builder that needs the option reports it.
-/
namespace ClusterDriver

/-- The raw values of variables by name. -/
structure Environment where
  values : Table String ByteArray := .empty

namespace Environment

/-- A value that is not UTF-8 counts as unset. -/
def text? (env : Environment) (name : String) : Option String :=
  (env.values.get? name).bind String.fromUTF8?

def detectionVariable : String := "DRIVER_DETECT_CYCLES"

def valueOf (option : KnownOption) (raw : String) : OptionValue :=
  (OptionValue.ofText? option.kind raw).getD (.string raw)

def override (env : Environment) (s : Settings) (option : KnownOption) : Settings :=
  match env.text? option.variableName with
  | none => s
  | some raw => s.set option.path (valueOf option raw)

def switchesOn (raw : String) : Bool :=
  raw = "1" || raw.map Char.toLower = "true"

def settings (env : Environment) : Settings :=
  let s := KnownOption.all.foldl env.override .builtin
  match env.text? detectionVariable with
  | none => s
  | some raw => { s with detectCycles := switchesOn raw }

end Environment
end ClusterDriver
