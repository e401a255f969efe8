import ClusterDriver.Text.Numeral
/-!
# JSON values

Values as they appear in reports, and their compact text. Objects keep the order of their fields.
There are no fractional numbers.
-/
namespace ClusterDriver

inductive Json where
  | null
  | bool (b : Bool)
  | number (n : Int)
  | text (s : String)
  | list (items : List Json)
  | object (fields : List (String × Json))
  deriving Inhabited, Repr

namespace Json

/-- The largest size of an integer that a reader with floating point numbers holds exactly. -/
def exactLimit : Nat := 9007199254740991

/-- An integer, as its decimal text where it is not sure to be held exactly. -/
def integer (n : Int) : Json :=
  if n.natAbs ≤ exactLimit then .number n else .text (Text.integerText n)

def nat (n : Nat) : Json := integer (Int.ofNat n)

def option {α : Type} (f : α → Json) : Option α → Json
  | none => .null
  | some a => f a

def texts (items : List String) : Json := .list (items.map .text)

/-- The four hexadecimal digits of a code unit. -/
def unit4 (n : Nat) : String :=
  String.ofList <| [n / 4096, n / 256, n / 16, n].map fun d => Nat.digitChar (d % 16)

def escapedUnit (n : Nat) : String := "\\u" ++ unit4 n

/-- How a character stands inside a string; `ascii` also escapes what is not ASCII, a character
beyond the basic plane as two surrogates. -/
def escaped (ascii : Bool) (c : Char) : String :=
  let n := c.toNat
  if c = '"' then "\\\""
  else if c = '\\' then "\\\\"
  else if c = '\n' then "\\n"
  else if c = '\r' then "\\r"
  else if c = '\t' then "\\t"
  else if n = 8 then "\\b"
  else if n = 12 then "\\f"
  else if n < 32 then escapedUnit n
  else if n < 127 || !ascii then c.toString
  else if n < 0x10000 then escapedUnit n
  else escapedUnit (0xd800 + (n - 0x10000) / 1024) ++ escapedUnit (0xdc00 + (n - 0x10000) % 1024)

def quote (ascii : Bool) (s : String) : String :=
  "\"" ++ String.join (s.toList.map (escaped ascii)) ++ "\""

mutual
/-- The text without blanks between tokens. -/
def compact (ascii : Bool) : Json → String
  | .null => "null"
  | .bool b => if b then "true" else "false"
  | .number n => Text.integerText n
  | .text s => quote ascii s
  | .list items => "[" ++ ",".intercalate (compactAll ascii items) ++ "]"
  | .object fields => "\x7b" ++ ",".intercalate (compactFields ascii fields) ++ "\x7d"
def compactAll (ascii : Bool) : List Json → List String
  | [] => []
  | j :: rest => j.compact ascii :: compactAll ascii rest
def compactFields (ascii : Bool) : List (String × Json) → List String
  | [] => []
  | (name, j) :: rest => (quote ascii name ++ ":" ++ j.compact ascii) :: compactFields ascii rest
end

mutual
/-- The same value with the fields of every object in the order of their names. -/
def sorted : Json → Json
  | .list items => .list (sortedAll items)
  | .object fields =>
    .object ((sortedFields fields).mergeSort fun a b => decide (a.1 ≤ b.1))
  | j => j
def sortedAll : List Json → List Json
  | [] => []
  | j :: rest => j.sorted :: sortedAll rest
def sortedFields : List (String × Json) → List (String × Json)
  | [] => []
  | (name, j) :: rest => (name, j.sorted) :: sortedFields rest
end

end Json
end ClusterDriver
