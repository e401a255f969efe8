import ClusterDriver.Text.Blank
import ClusterDriver.Text.Split
import ClusterDriver.Error
import ClusterDriver.Json
/-!
# Server versions

Two or three numbers with dots between them, then perhaps a dash and the name of a pre-release.
-/
namespace ClusterDriver

structure ServerVersion where
  major : UInt32
  minor : UInt32
  patch : UInt32
  preRelease : Option String := none
  deriving DecidableEq, Repr

namespace ServerVersion
open Text

def number? (cs : List Char) : Option UInt32 := (natural? u32Limit cs).map Nat.toUInt32

def numbers? (cs : List Char) : Option (UInt32 × UInt32 × UInt32) :=
  match (parts '.' cs).mapM number? with
  | some [major, minor] => some (major, minor, 0)
  | some [major, minor, patch] => some (major, minor, patch)
  | _ => none

/-- Blanks around the text do not count. An empty pre-release is reported before a bad number. -/
def ofChars (raw : List Char) : Except TextError ServerVersion :=
  let cs := trim raw
  let read (numbers : List Char) (preRelease : Option String) : Except TextError ServerVersion :=
    match numbers? numbers with
    | some (major, minor, patch) => .ok { major, minor, patch, preRelease }
    | none => .error (.invalidVersion (String.ofList cs))
  match cut? '-' cs with
  | none => read cs none
  | some (_, []) => .error (.emptyPreRelease (String.ofList cs))
  | some (numbers, rest) => read numbers (some (String.ofList rest))

def ofText (raw : String) : Except TextError ServerVersion := ofChars raw.toList

def text (v : ServerVersion) : String :=
  let ending := match v.preRelease with
    | none => ""
    | some name => "-" ++ name
  decimalText v.major.toNat ++ "." ++ decimalText v.minor.toNat ++ "." ++
    decimalText v.patch.toNat ++ ending

def toJson (v : ServerVersion) : Json :=
  .object [("major", .nat v.major.toNat), ("minor", .nat v.minor.toNat),
    ("patch", .nat v.patch.toNat), ("pre_release", .option .text v.preRelease)]

end ServerVersion
end ClusterDriver
