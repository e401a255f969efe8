import ClusterDriver.Text.Blank
import ClusterDriver.Text.Split
import ClusterDriver.Span
/-!
# Options

The options that the built-in builders read, the kind of value each expects, and the values
themselves with their reading from text.
-/
namespace ClusterDriver

inductive OptionKind where
  | string
  | integer
  | boolean
  | duration
  | list
  deriving DecidableEq, Repr

inductive KnownOption where
  | loadBalancingPolicy
  | reconnectionPolicy
  | reconnectionBaseDelay
  | addressTranslator
  | authProvider
  | authUsername
  | authPassword
  | sslEngineFactory
  | compression
  | protocolVersion
  | maxFrameLength
  | connectTimeout
  | tcpNoDelay
  | contactPoints
  deriving DecidableEq, Repr

inductive OptionValue where
  | string (s : String)
  | integer (n : Int)
  | boolean (b : Bool)
  | duration (d : Span)
  | list (items : List String)
  deriving DecidableEq, Repr

def OptionKind.name : OptionKind → String
  | .string => "String"
  | .integer => "Integer"
  | .boolean => "Boolean"
  | .duration => "Duration"
  | .list => "List"

namespace KnownOption

def all : List KnownOption :=
  [.loadBalancingPolicy, .reconnectionPolicy, .reconnectionBaseDelay, .addressTranslator,
    .authProvider, .authUsername, .authPassword, .sslEngineFactory, .compression, .protocolVersion,
    .maxFrameLength, .connectTimeout, .tcpNoDelay, .contactPoints]

def path : KnownOption → String
  | .loadBalancingPolicy => "load-balancing-policy.class"
  | .reconnectionPolicy => "connection.reconnection-policy.class"
  | .reconnectionBaseDelay => "connection.reconnection-policy.base-delay"
  | .addressTranslator => "address-translator.class"
  | .authProvider => "protocol.auth-provider.class"
  | .authUsername => "protocol.auth-provider.username"
  | .authPassword => "protocol.auth-provider.password"
  | .sslEngineFactory => "ssl-engine-factory.class"
  | .compression => "protocol.compression"
  | .protocolVersion => "protocol.version"
  | .maxFrameLength => "protocol.max-frame-length"
  | .connectTimeout => "connection.connect-timeout"
  | .tcpNoDelay => "connection.tcp-no-delay"
  | .contactPoints => "contact-points"

def kind : KnownOption → OptionKind
  | .reconnectionBaseDelay | .connectTimeout => .duration
  | .maxFrameLength => .integer
  | .tcpNoDelay => .boolean
  | .contactPoints => .list
  | _ => .string

/-- The environment variable that overrides the option: its path in capitals, with underscores for
dots and dashes. -/
def variableName (o : KnownOption) : String :=
  "DRIVER_" ++ o.path.map fun c => if c = '.' ∨ c = '-' then '_' else c.toUpper

end KnownOption

namespace OptionValue
open Text

def milliseconds? (cs : List Char) : Option Span := (natural? u64Limit cs).map Span.ofMillis

def seconds? (cs : List Char) : Option Span := (natural? u64Limit cs).map Span.ofSeconds

def minutes? (cs : List Char) : Option Span :=
  ((natural? u64Limit cs).filter fun n => n * 60 ≤ u64Limit).map fun n => Span.ofSeconds (n * 60)

/-- A numeral with one of the units ms, s and m, the longest that fits. Without a unit it counts
milliseconds. -/
def duration? (cs : List Char) : Option Span :=
  match withoutEnding? ['m', 's'] cs with
  | some number => milliseconds? (trim number)
  | none =>
    match withoutEnding? ['s'] cs with
    | some number => seconds? (trim number)
    | none =>
      match withoutEnding? ['m'] cs with
      | some number => minutes? (trim number)
      | none => milliseconds? cs

def boolean? (cs : List Char) : Option Bool :=
  match String.ofList (cs.map Char.toLower) with
  | "1" | "true" | "yes" => some true
  | "0" | "false" | "no" => some false
  | _ => none

/-- The trimmed parts between commas, without the blank ones. -/
def items (cs : List Char) : List (List Char) :=
  ((parts ',' cs).map trim).filter fun item => ¬ item.isEmpty

/-- Reads a value of the given kind; blanks around it do not count. -/
def ofText? (kind : OptionKind) (raw : String) : Option OptionValue :=
  let cs := trim raw.toList
  match kind with
  | .string => some (.string (String.ofList cs))
  | .integer => (integer? cs).map .integer
  | .boolean => (boolean? cs).map .boolean
  | .duration => (duration? cs).map .duration
  | .list => some (.list ((items cs).map String.ofList))

def typeName : OptionValue → String
  | .string _ => "a string"
  | .integer _ => "an integer"
  | .boolean _ => "a boolean"
  | .duration _ => "a duration"
  | .list _ => "a list"

/-- How a value is named in a complaint about its type; a string is quoted. -/
def found : OptionValue → String
  | .string raw => "the string " ++ quoted raw
  | value => value.typeName

def toJson : OptionValue → Json
  | .string s => .object [("string", .text s)]
  | .integer n => .object [("integer", .integer n)]
  | .boolean b => .object [("boolean", .bool b)]
  | .duration d => .object [("duration", d.toJson)]
  | .list items => .object [("list", .texts items)]

end OptionValue
end ClusterDriver
