import ClusterDriver.Settings.Basic
import ClusterDriver.Net.AddressText
/-!
# Contact points

The addresses that a driver starts from. An entry is an endpoint, or an IP address, which stands for
that address at the default port.
-/
namespace ClusterDriver.ContactPoints

def defaultPort : UInt16 := 9042

/-- A complete endpoint is tried first. -/
def ofChars? (cs : List Char) : Option Endpoint :=
  AddressText.endpoint? cs <|> (AddressText.ip? cs).map fun ip => .ofIp ip defaultPort

def entry? (raw : String) : Option Endpoint := ofChars? (Text.trim raw.toList)

def ofEntries : List String → Except AccessError (List Endpoint)
  | [] => .ok []
  | raw :: rest =>
    match entry? raw with
    | none =>
      .error (.config KnownOption.contactPoints.path ("invalid address " ++ Text.quoted raw))
    | some e => (ofEntries rest).map (e :: ·)

def ofSettings (s : Settings) : Except AccessError (List Endpoint) :=
  (s.list KnownOption.contactPoints.path).bind ofEntries

end ClusterDriver.ContactPoints
