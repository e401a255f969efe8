import ClusterDriver.Settings.Environment
import ClusterDriver.Channel.Transport
import ClusterDriver.Channel.Security
import ClusterDriver.Cluster.ContactPoints
import ClusterDriver.Scenario.Plan
/-!
# Sessions over settings
-/
namespace ClusterDriver.Scenario

inductive SettingsBase where
  | builtin
  | empty
  | environment

/-- Settings as a session declares them; the parts apply in the order of the fields. -/
structure SettingsDeclaration where
  base : SettingsBase := .builtin
  environment : Environment := {}
  removed : List String := []
  set : List (String × OptionValue) := []
  detectCycles : Option Bool := none

def SettingsDeclaration.settings (d : SettingsDeclaration) : Settings :=
  let s := match d.base with
    | .builtin => Settings.builtin
    | .empty => Settings.empty
    | .environment => d.environment.settings
  let s := d.removed.foldl Settings.remove s
  let s := d.set.foldl (fun s v => s.set v.1 v.2) s
  { s with detectCycles := d.detectCycles.getD s.detectCycles }

inductive SettingsCommand where
  | set (path : String) (value : OptionValue)
  | remove (path : String)
  | get (path : String)
  | contains (path : String)
  | read (getter : Getter) (path : String)
  | dump
  | contactPoints
  | transport
  | auth

def endpointsJson (endpoints : List Endpoint) : Json := .texts (endpoints.map Endpoint.text)

def contactPointsJson (s : Settings) : Json :=
  resultJson endpointsJson (ContactPoints.ofSettings s)

def transportJson (s : Settings) : Json :=
  resultJson TransportOptions.toJson (TransportOptions.ofSettings s)

/-- The known options that are set, and the switch for detection. -/
def dumpJson (s : Settings) : Json :=
  let shown := KnownOption.all.filterMap fun o =>
    (s.get? o.path).map fun value => (o.path, value.toJson)
  .object [("options", .object shown), ("detect_cycles", .bool s.detectCycles)]

def credentialsJson (c : PlainCredentials) : Json :=
  .object
    [("username", .text c.username), ("mechanism", .text c.provider.mechanism),
      ("token", .text (Text.hexOfBytes c.token)), ("debug", .text c.shape.line)]

namespace SettingsSession

def step (s : Settings) : SettingsCommand → Json × Settings
  | .set path value => (.null, s.set path value)
  | .remove path => (.option OptionValue.toJson (s.get? path), s.remove path)
  | .get path => (.option OptionValue.toJson (s.get? path), s)
  | .contains path => (.bool (s.get? path).isSome, s)
  | .read getter path => (resultJson id (readJson s path getter), s)
  | .dump => (dumpJson s, s)
  | .contactPoints => (contactPointsJson s, s)
  | .transport => (transportJson s, s)
  | .auth => (resultJson credentialsJson (PlainCredentials.ofSettings s), s)

def run (s : Settings) : List SettingsCommand → List Json
  | [] => []
  | command :: rest =>
    let (reply, s) := step s command
    reply :: run s rest

end SettingsSession
end ClusterDriver.Scenario
