import ClusterDriver.Text.Numeral
/-!
# Universally unique identifiers

Numbers of 128 bits, written as groups of 8, 4, 4, 4 and 12 hexadecimal digits.
-/
namespace ClusterDriver

structure Uuid where
  value : BitVec 128
  deriving DecidableEq, Repr

namespace Uuid

def digits (u : Uuid) : List Char :=
  let shown := Nat.toDigits 16 u.value.toNat
  List.replicate (32 - shown.length) '0' ++ shown

def text (u : Uuid) : String :=
  let ds := u.digits
  String.ofList (ds.take 8 ++ '-' :: (ds.drop 8).take 4 ++ '-' :: (ds.drop 12).take 4 ++
    '-' :: (ds.drop 16).take 4 ++ '-' :: ds.drop 20)

def hasDashes (cs : List Char) : Bool :=
  cs.length = 36 && cs[8]? = some '-' && cs[13]? = some '-' && cs[18]? = some '-' &&
    cs[23]? = some '-'

def ofText? (s : String) : Option Uuid :=
  let cs := s.toList
  if hasDashes cs then
    let ds := cs.take 8 ++ (cs.drop 9).take 4 ++ (cs.drop 14).take 4 ++ (cs.drop 19).take 4 ++
      cs.drop 24
    (ds.mapM Text.hexDigit?).map fun ns => ⟨BitVec.ofNat 128 (ns.foldl (fun n d => n * 16 + d) 0)⟩
  else none

end Uuid
end ClusterDriver
