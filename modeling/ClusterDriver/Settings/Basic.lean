import ClusterDriver.Settings.Option
import ClusterDriver.Table
import ClusterDriver.Error
/-!
# Settings

Typed values by path, with the switch for cycle detection. A typed read names the option when the
value is missing or has another type. Values are not checked before they are read.
-/
namespace ClusterDriver

structure Settings where
  values : Table String OptionValue := .empty
  detectCycles : Bool := false

namespace Settings

def get? (s : Settings) (path : String) : Option OptionValue := s.values.get? path

def set (s : Settings) (path : String) (value : OptionValue) : Settings :=
  { s with values := s.values.insert path value }

def remove (s : Settings) (path : String) : Settings := { s with values := s.values.erase path }

def empty : Settings := {}

def builtinValues : List (KnownOption × OptionValue) :=
  [(.loadBalancingPolicy, .string "default"),
    (.reconnectionPolicy, .string "constant"),
    (.reconnectionBaseDelay, .duration (.ofSeconds 1)),
    (.addressTranslator, .string "pass-through"),
    (.compression, .string "none"),
    (.maxFrameLength, .integer (256 * 1024 * 1024)),
    (.connectTimeout, .duration (.ofSeconds 5)),
    (.tcpNoDelay, .boolean true)]

def builtin : Settings :=
  builtinValues.foldl (fun s v => s.set v.1.path v.2) empty

def mismatch (path expected : String) (value : OptionValue) : AccessError :=
  .config path ("expected " ++ expected ++ ", found " ++ value.found)

def optionalString (s : Settings) (path : String) : Except AccessError (Option String) :=
  match s.get? path with
  | none => .ok none
  | some (.string value) => .ok (some value)
  | some value => .error (mismatch path "a string" value)

def string (s : Settings) (path : String) : Except AccessError String :=
  match s.get? path with
  | none => .error (.missingOption path)
  | some (.string value) => .ok value
  | some value => .error (mismatch path "a string" value)

def integer (s : Settings) (path : String) : Except AccessError Int :=
  match s.get? path with
  | none => .error (.missingOption path)
  | some (.integer value) => .ok value
  | some value => .error (mismatch path "an integer" value)

def boolean (s : Settings) (path : String) : Except AccessError Bool :=
  match s.get? path with
  | none => .error (.missingOption path)
  | some (.boolean value) => .ok value
  | some value => .error (mismatch path "a boolean" value)

def duration (s : Settings) (path : String) : Except AccessError Span :=
  match s.get? path with
  | none => .error (.missingOption path)
  | some (.duration value) => .ok value
  | some value => .error (mismatch path "a duration" value)

/-- A list may be missing, which means that it is empty. -/
def list (s : Settings) (path : String) : Except AccessError (List String) :=
  match s.get? path with
  | none => .ok []
  | some (.list value) => .ok value
  | some value => .error (mismatch path "a list" value)

end Settings
end ClusterDriver
