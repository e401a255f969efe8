import ClusterDriver.Settings.Basic
import ClusterDriver.Net.AddressText
/-!
# Credentials and TLS
-/
namespace ClusterDriver

structure AuthProvider where
  /-- The name of the SASL mechanism. -/
  mechanism : String
  initialResponse : Endpoint → List UInt8

structure PlainCredentials where
  username : String
  password : String
  deriving DecidableEq, Repr

namespace PlainCredentials

/-- The username is read first; both are needed. -/
def ofSettings (s : Settings) : Except AccessError PlainCredentials :=
  match s.string KnownOption.authUsername.path with
  | .error e => .error e
  | .ok username =>
    match s.string KnownOption.authPassword.path with
    | .error e => .error e
    | .ok password => .ok { username, password }

/-- NUL, the username, NUL, the password. -/
def token (c : PlainCredentials) : List UInt8 :=
  0 :: (c.username.toUTF8.toList ++ 0 :: c.password.toUTF8.toList)

def provider (c : PlainCredentials) : AuthProvider where
  mechanism := "PLAIN"
  initialResponse _ := c.token

/-- The password is never shown. -/
def shape (c : PlainCredentials) : Text.Shape :=
  .record "PlainTextAuthProvider"
    [("username", .text c.username), ("password", .text "<redacted>")] false

end PlainCredentials

structure SslEngine where
  /-- The name to present to a peer. -/
  serverName : Endpoint → Option String
  hostnameValidation : Bool := true

structure SslTarget where
  peer : Endpoint
  serverName : Option String
  hostnameValidation : Bool
  deriving DecidableEq, Repr

def SslEngine.target (e : SslEngine) (peer : Endpoint) : SslTarget where
  peer
  serverName := e.serverName peer
  hostnameValidation := e.hostnameValidation

def SslTarget.toJson (t : SslTarget) : Json :=
  .object
    [("peer", .text t.peer.text), ("server_name", .option .text t.serverName),
      ("hostname_validation", .bool t.hostnameValidation)]

end ClusterDriver
