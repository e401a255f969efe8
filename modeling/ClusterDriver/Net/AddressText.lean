import ClusterDriver.Net.Address
import ClusterDriver.Text.Numeral
/-!
# The text of addresses

Reading takes a value off the front of the text and says what is left. An IPv4 address is four
numerals without leading zeros; an IPv6 address is eight groups of hexadecimal digits, of which one
run of zeros may be left out as `::` and of which the last two may be written as an IPv4 address.
Endpoints end in a colon and a port, and put IPv6 addresses into brackets, with a scope after `%`.
-/
namespace ClusterDriver.AddressText
open Text

def charIf (c : Char) : List Char → Option (List Char)
  | [] => none
  | d :: rest => if d = c then some rest else none

/-- A whole run of digits with a value of at most `limit`. `size` bounds its length. -/
def number? (radix : Nat) (digit : Char → Option Nat) (size : Option Nat) (leadingZeros : Bool)
    (limit : Nat) (cs : List Char) : Option (Nat × List Char) :=
  let run := cs.takeWhile fun c => (digit c).isSome
  let rest := cs.dropWhile fun c => (digit c).isSome
  let value := run.foldl (fun n c => n * radix + (digit c).getD 0) 0
  if run.isEmpty then none
  else if size.any fun n => n < run.length then none
  else if !leadingZeros && run.head? = some '0' && 1 < run.length then none
  else if limit < value then none
  else some (value, rest)

def octet? (cs : List Char) : Option (UInt8 × List Char) :=
  (number? 10 digit? (some 3) false 255 cs).map fun r => (r.1.toUInt8, r.2)

def group? (cs : List Char) : Option (UInt16 × List Char) :=
  (number? 16 hexDigit? (some 4) true 65535 cs).map fun r => (r.1.toUInt16, r.2)

def readIpv4 (cs : List Char) : Option (Ipv4 × List Char) := do
  let (a, cs) ← octet? cs
  let (b, cs) ← octet? (← charIf '.' cs)
  let (c, cs) ← octet? (← charIf '.' cs)
  let (d, cs) ← octet? (← charIf '.' cs)
  return (⟨a, b, c, d⟩, cs)

/-- The two groups that hold the same bits. -/
def pairOf (ip : Ipv4) : List UInt16 :=
  [ip.a.toUInt16 * 256 + ip.b.toUInt16, ip.c.toUInt16 * 256 + ip.d.toUInt16]

structure GroupRun where
  groups : List UInt16
  endsInIpv4 : Bool
  rest : List Char

/-- At most `room` groups between colons, as many as can be read. An IPv4 address fills two. -/
def readGroups (room : Nat) (first : Bool) (cs : List Char) : GroupRun :=
  match room with
  | 0 => ⟨[], false, cs⟩
  | room + 1 =>
    match (if first then some cs else charIf ':' cs) with
    | none => ⟨[], false, cs⟩
    | some body =>
      match (if room = 0 then none else readIpv4 body) with
      | some (ip, rest) => ⟨pairOf ip, true, rest⟩
      | none =>
        match group? body with
        | none => ⟨[], false, cs⟩
        | some (g, rest) =>
          let more := readGroups room false rest
          ⟨g :: more.groups, more.endsInIpv4, more.rest⟩

def ofGroups? (groups : List UInt16) : Option Ipv6 :=
  if h : groups.length = 8 then some ⟨groups, h⟩ else none

def readIpv6 (cs : List Char) : Option (Ipv6 × List Char) :=
  let front := readGroups 8 true cs
  if front.groups.length = 8 then (ofGroups? front.groups).map fun ip => (ip, front.rest)
  else if front.endsInIpv4 then none
  else do
    let rest ← charIf ':' front.rest
    let rest ← charIf ':' rest
    let back := readGroups (7 - front.groups.length) true rest
    let gap := List.replicate (8 - front.groups.length - back.groups.length) 0
    let ip ← ofGroups? (front.groups ++ gap ++ back.groups)
    return (ip, back.rest)

def readPort (cs : List Char) : Option (UInt16 × List Char) := do
  let (n, cs) ← number? 10 digit? none true 65535 (← charIf ':' cs)
  return (n.toUInt16, cs)

/-- The scope, zero where none is written. -/
def readScope (cs : List Char) : UInt32 × List Char :=
  match (charIf '%' cs).bind (number? 10 digit? none true u32Limit) with
  | some (n, rest) => (n.toUInt32, rest)
  | none => (0, cs)

def readEndpointV4 (cs : List Char) : Option (Endpoint × List Char) := do
  let (ip, cs) ← readIpv4 cs
  let (port, cs) ← readPort cs
  return (.v4 ip port, cs)

def readEndpointV6 (cs : List Char) : Option (Endpoint × List Char) := do
  let (ip, cs) ← readIpv6 (← charIf '[' cs)
  let (scope, cs) := readScope cs
  let (port, cs) ← readPort (← charIf ']' cs)
  return (.v6 ip port 0 scope, cs)

/-- What a reader makes of the whole text. -/
def whole {α : Type} (read : List Char → Option (α × List Char)) (cs : List Char) : Option α :=
  match read cs with
  | some (a, []) => some a
  | _ => none

def ip? (cs : List Char) : Option Ip :=
  whole (fun cs => ((readIpv4 cs).map fun r => (Ip.v4 r.1, r.2)) <|>
    ((readIpv6 cs).map fun r => (Ip.v6 r.1, r.2))) cs

def endpoint? (cs : List Char) : Option Endpoint :=
  whole (fun cs => readEndpointV4 cs <|> readEndpointV6 cs) cs

def ipv4Chars (ip : Ipv4) : List Char :=
  decimal ip.a.toNat ++ '.' :: decimal ip.b.toNat ++ '.' :: decimal ip.c.toNat ++
    '.' :: decimal ip.d.toNat

def groupChars : List UInt16 → List Char
  | [] => []
  | [g] => Nat.toDigits 16 g.toNat
  | g :: gs => Nat.toDigits 16 g.toNat ++ ':' :: groupChars gs

/-- Start and length of the first of the longest runs of zeros. -/
def longestZeros (groups : List UInt16) : Nat × Nat :=
  let step := fun (s : (Nat × Nat) × Nat × Nat) (g : UInt16) =>
    let (best, length, index) := s
    if g = 0 then
      let run := (index - length, length + 1)
      (if best.2 < run.2 then run else best, length + 1, index + 1)
    else (best, 0, index + 1)
  (groups.foldl step ((0, 0), 0, 0)).1

/-- The address inside an IPv4-mapped address. -/
def mapped? (ip : Ipv6) : Option Ipv4 :=
  match ip.groups with
  | [0, 0, 0, 0, 0, 0xffff, g, h] =>
    some ⟨(g / 256).toUInt8, g.toUInt8, (h / 256).toUInt8, h.toUInt8⟩
  | _ => none

def ipv6Chars (ip : Ipv6) : List Char :=
  match mapped? ip with
  | some ip => "::ffff:".toList ++ ipv4Chars ip
  | none =>
    let (start, length) := longestZeros ip.groups
    if 1 < length then
      groupChars (ip.groups.take start) ++ ':' :: ':' ::
        groupChars (ip.groups.drop (start + length))
    else groupChars ip.groups

def ipChars : Ip → List Char
  | .v4 ip => ipv4Chars ip
  | .v6 ip => ipv6Chars ip

def endpointChars : Endpoint → List Char
  | .v4 ip port => ipv4Chars ip ++ ':' :: decimal port.toNat
  | .v6 ip port _ scope =>
    let scopeChars := if scope = 0 then [] else '%' :: decimal scope.toNat
    '[' :: ipv6Chars ip ++ scopeChars ++ ']' :: ':' :: decimal port.toNat

end ClusterDriver.AddressText
namespace ClusterDriver

def Ip.text (ip : Ip) : String := String.ofList (AddressText.ipChars ip)

def Endpoint.text (e : Endpoint) : String := String.ofList (AddressText.endpointChars e)

def Ip.ofText? (s : String) : Option Ip := AddressText.ip? s.toList

def Endpoint.ofText? (s : String) : Option Endpoint := AddressText.endpoint? s.toList

end ClusterDriver
