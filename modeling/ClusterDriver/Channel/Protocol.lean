import ClusterDriver.Settings.Basic
/-!
# Protocol versions

The versions of the native protocol, oldest first, and the choice between them: a pinned version is
kept, otherwise the driver starts at the highest one that is not a beta and goes down on refusal.
-/
namespace ClusterDriver

inductive ProtocolVersion where
  | v3
  | v4
  | v5
  deriving DecidableEq, Repr

namespace ProtocolVersion
open Text

def all : List ProtocolVersion := [.v3, .v4, .v5]

def code : ProtocolVersion → Nat
  | .v3 => 3
  | .v4 => 4
  | .v5 => 5

/-- A beta is used only where it is pinned. -/
def isBeta (v : ProtocolVersion) : Bool := v = .v5

def name (v : ProtocolVersion) : String := "V" ++ decimalText v.code

def lowered (cs : List Char) : List Char := cs.map Char.toLower

/-- Blanks around the name and the case of ASCII letters do not count. -/
def ofText (raw : String) : Except TextError ProtocolVersion :=
  match all.find? fun v => lowered v.name.toList = lowered (trim raw.toList) with
  | some v => .ok v
  | none => .error (.unknownProtocolVersion raw)

/-- The latest of some versions. -/
def latest? (versions : List ProtocolVersion) : Option ProtocolVersion :=
  versions.foldl
    (fun best v => match best with
      | none => some v
      | some b => if b.code ≤ v.code then some v else some b)
    none

def highestStable : ProtocolVersion := (latest? (all.filter fun v => ¬ v.isBeta)).getD .v3

end ProtocolVersion

structure VersionChoice where
  pinned : Option ProtocolVersion := none
  deriving DecidableEq, Repr

namespace VersionChoice

def ofSettings (s : Settings) : Except AccessError VersionChoice :=
  let path := KnownOption.protocolVersion.path
  match s.optionalString path with
  | .error e => .error e
  | .ok none => .ok {}
  | .ok (some raw) =>
    match ProtocolVersion.ofText raw with
    | .ok v => .ok { pinned := some v }
    | .error e => .error (.config path e.message)

def initial (c : VersionChoice) : ProtocolVersion := c.pinned.getD .highestStable

/-- What to try after a version was refused. -/
def downgrade (c : VersionChoice) (refused : ProtocolVersion) : Option ProtocolVersion :=
  match c.pinned with
  | some _ => none
  | none => ProtocolVersion.latest? (ProtocolVersion.all.filter fun v => v.code < refused.code)

def shape (c : VersionChoice) : Text.Shape :=
  .record "ProtocolVersionRegistry"
    [("pinned", .option (fun v => .word v.name) c.pinned)] false

def toJson (c : VersionChoice) : Json :=
  .object
    [("pinned", .option (fun v => .text v.name) c.pinned),
      ("initial", .text c.initial.name),
      ("highest_non_beta", .text ProtocolVersion.highestStable.name),
      ("downgrade", .list (ProtocolVersion.all.map fun v =>
        .option (fun w => .text w.name) (c.downgrade v)))]

end VersionChoice
end ClusterDriver
