import ClusterDriver.Text.Quoted
import ClusterDriver.Json
/-!
# Errors

`AccessError` is what a caller of the driver sees. It can be kept and handed out again, because a
failed component answers every later caller with the error of its first build. `Failure` is what a
builder raises: an error of either kind under any number of added contexts.
-/
namespace ClusterDriver

inductive AccessError where
  /-- The names from a component to itself, in the order in which they were requested. -/
  | cycle (chain : List String)
  | config (option reason : String)
  | build (component message : String)
  | closed
  deriving DecidableEq, Repr, Inhabited

namespace AccessError

def message : AccessError → String
  | .cycle chain => "Detected cycle in context initialization: " ++ " -> ".intercalate chain
  | .config option reason => "Invalid configuration for option '" ++ option ++ "': " ++ reason
  | .build component message => "Failed to build component '" ++ component ++ "': " ++ message
  | .closed => "Driver context is closed"

def missingOption (option : String) : AccessError :=
  .config option "missing value, check your configuration"

def isCycle : AccessError → Bool
  | .cycle _ => true
  | _ => false

def option? : AccessError → Option String
  | .config option _ => some option
  | _ => none

/-- What every caller but the builder's own gets of a component whose builder panicked. -/
def panicked (component : String) : AccessError := .build component "builder panicked"

def toJson (e : AccessError) : Json :=
  let shown (kind : String) (fields : List (String × Json)) : Json :=
    .object ([("error", .text kind), ("message", .text e.message)] ++ fields)
  match e with
  | .cycle chain => shown "Cycle" [("chain", .texts chain)]
  | .config option reason => shown "Config" [("option", .text option), ("reason", .text reason)]
  | .build component message =>
    shown "Build" [("component", .text component), ("detail", .text message)]
  | .closed => shown "Closed" []

end AccessError

/-- A result as it is reported: its value, or the error itself. -/
def resultJson {β : Type} (f : β → Json) : Except AccessError β → Json
  | .ok b => .object [("ok", f b)]
  | .error e => e.toJson

inductive TextError where
  | invalidVersion (raw : String)
  | emptyPreRelease (raw : String)
  | unknownProtocolVersion (raw : String)
  deriving DecidableEq, Repr

namespace TextError

def message : TextError → String
  | .invalidVersion raw => "invalid version " ++ Text.quoted raw
  | .emptyPreRelease raw => "empty pre-release in version " ++ Text.quoted raw
  | .unknownProtocolVersion raw =>
    "unknown protocol version " ++ Text.quoted raw ++ " (known: V3, V4, V5)"

def kind : TextError → String
  | .invalidVersion _ => "InvalidVersion"
  | .emptyPreRelease _ => "EmptyPreRelease"
  | .unknownProtocolVersion _ => "UnknownProtocolVersion"

def toJson (e : TextError) : Json :=
  .object [("error", .text e.kind), ("message", .text e.message)]

end TextError

inductive Cause where
  | access (error : AccessError)
  /-- An error from elsewhere, the innermost message last. -/
  | foreign (messages : List String)
  deriving DecidableEq, Repr

structure Failure where
  /-- Added contexts, the outermost first. -/
  contexts : List String := []
  cause : Cause
  deriving DecidableEq, Repr

namespace Failure

def ofAccess (error : AccessError) : Failure := { cause := .access error }

def ofText (error : TextError) : Failure := { cause := .foreign [error.message] }

def addContexts (contexts : List String) (failure : Failure) : Failure :=
  { failure with contexts := contexts ++ failure.contexts }

/-- An access error is kept as it is, under any contexts. Any other error becomes a failure to
build `component`, with its whole chain of messages. -/
def attributedTo (component : String) (failure : Failure) : AccessError :=
  match failure.cause with
  | .access error => error
  | .foreign messages => .build component (": ".intercalate (failure.contexts ++ messages))

end Failure
end ClusterDriver
