import ClusterDriver.Text.Shape
import ClusterDriver.Json
/-!
# Time spans

A length of time, counted in nanoseconds.
-/
namespace ClusterDriver

structure Span where
  nanoseconds : Nat
  deriving DecidableEq, Repr, Inhabited

namespace Span

def ofMillis (n : Nat) : Span := ⟨n * 1000000⟩

def ofSeconds (n : Nat) : Span := ⟨n * 1000000000⟩

def seconds (s : Span) : Nat := s.nanoseconds / 1000000000

/-- The nanoseconds beyond the last whole second. -/
def subsecond (s : Span) : Nat := s.nanoseconds % 1000000000

/-- `count` units, and `rest` of the `10 ^ places` parts of one as a fraction without trailing
zeros. -/
def inUnits (count rest places : Nat) (unit : String) : String :=
  let digits := Text.decimal rest
  let fraction := List.replicate (places - digits.length) '0' ++ digits
  let fraction := (fraction.reverse.dropWhile fun c => c = '0').reverse
  let point := if fraction.isEmpty then "" else "." ++ String.ofList fraction
  Text.decimalText count ++ point ++ unit

/-- The largest unit of s, ms, µs and ns of which the span holds one. -/
def text (s : Span) : String :=
  let n := s.nanoseconds
  if n ≥ 1000000000 then inUnits (n / 1000000000) (n % 1000000000) 9 "s"
  else if n ≥ 1000000 then inUnits (n / 1000000) (n % 1000000) 6 "ms"
  else if n ≥ 1000 then inUnits (n / 1000) (n % 1000) 3 "µs"
  else inUnits n 0 0 "ns"

def toJson (s : Span) : Json :=
  .object [("secs", .nat s.seconds), ("nanos", .nat s.subsecond)]

def shape (s : Span) : Text.Shape := .word s.text

end Span
end ClusterDriver
