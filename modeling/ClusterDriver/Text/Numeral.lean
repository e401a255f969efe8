/-!
# Decimal numerals

A natural numeral is an optional plus sign and one or more ASCII digits; an integer numeral may have
a minus sign instead. Both are read with a limit: a value outside it is refused, never wrapped.
-/
namespace ClusterDriver.Text

def digit? (c : Char) : Option Nat :=
  if '0' ≤ c ∧ c ≤ '9' then some (c.toNat - '0'.toNat) else none

def hexDigit? (c : Char) : Option Nat :=
  if '0' ≤ c ∧ c ≤ '9' then some (c.toNat - '0'.toNat)
  else if 'a' ≤ c ∧ c ≤ 'f' then some (c.toNat - 'a'.toNat + 10)
  else if 'A' ≤ c ∧ c ≤ 'F' then some (c.toNat - 'A'.toNat + 10)
  else none

/-- The value of a run of digits, continuing from `acc`. -/
def digits? (acc : Nat) : List Char → Option Nat
  | [] => some acc
  | c :: cs => (digit? c).bind fun d => digits? (acc * 10 + d) cs

def magnitude? : List Char → Option Nat
  | [] => none
  | cs => digits? 0 cs

def withoutPlus : List Char → List Char
  | '+' :: cs => cs
  | cs => cs

def natural? (limit : Nat) (cs : List Char) : Option Nat :=
  (magnitude? (withoutPlus cs)).filter fun n => n ≤ limit

def u32Limit : Nat := 4294967295

def u64Limit : Nat := 18446744073709551615

def i64Limit : Nat := 9223372036854775807

/-- Integers of 64 bits with a sign; there is one more below zero than above. -/
def integer? : List Char → Option Int
  | '-' :: cs => ((magnitude? cs).filter fun n => n ≤ i64Limit + 1).map fun n => -Int.ofNat n
  | cs => (natural? i64Limit cs).map Int.ofNat

def decimal (n : Nat) : List Char := Nat.toDigits 10 n

def decimalText (n : Nat) : String := String.ofList (decimal n)

def integerText (n : Int) : String :=
  match n with
  | .ofNat n => decimalText n
  | .negSucc n => "-" ++ decimalText (n + 1)

def hexText (n : Nat) : String := String.ofList (Nat.toDigits 16 n)

def hexOfBytes (bytes : List UInt8) : String :=
  String.ofList <|
    bytes.flatMap fun b => [Nat.digitChar (b.toNat / 16), Nat.digitChar (b.toNat % 16)]

def bytesOfHex? : List Char → Option (List UInt8)
  | [] => some []
  | [_] => none
  | a :: b :: rest => do
    let high ← hexDigit? a
    let low ← hexDigit? b
    let bytes ← bytesOfHex? rest
    return (16 * high + low).toUInt8 :: bytes

end ClusterDriver.Text
