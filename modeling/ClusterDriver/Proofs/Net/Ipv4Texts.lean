import ClusterDriver.Net.AddressText
import ClusterDriver.Proofs.Text.Numerals
import Mathlib.Data.List.Induction
/-!
# The numbers in an address, and IPv4 addresses

A reader takes the whole run of digits that it finds. Each reader is characterized by the texts that
it takes off, and an IPv4 address is written in one way only, which is how it is printed.
-/
namespace ClusterDriver.AddressText
open Text
variable {cs ds rest run : List Char} {n radix limit : Nat} {digit : Char → Option Nat}
  {size : Option Nat} {leadingZeros : Bool}

theorem charIf_eq_some {c : Char} : charIf c cs = some rest ↔ cs = c :: rest := by
  cases cs with
  | nil => simp [charIf]
  | cons d cs =>
    rw [charIf]
    by_cases same : d = c <;> simp [same]

/-- A run of digits does not go on here. -/
def Ends (digit : Char → Option Nat) (rest : List Char) : Prop := ∀ c ∈ rest.head?, digit c = none

theorem ends_nil : Ends digit [] := nofun

theorem ends_cons {c : Char} : Ends digit (c :: rest) ↔ digit c = none := by simp [Ends]

/-- What is accepted as a run of digits, and its value. -/
structure Run (radix : Nat) (digit : Char → Option Nat) (size : Option Nat) (leadingZeros : Bool)
    (limit : Nat) (run : List Char) (n : Nat) : Prop where
  nonempty : run ≠ []
  digits : ∀ c ∈ run, (digit c).isSome = true
  size : ∀ m ∈ size, run.length ≤ m
  zeros : leadingZeros = false → run.head? = some '0' → run.length ≤ 1
  value : run.foldl (fun n c => n * radix + (digit c).getD 0) 0 = n
  limit : n ≤ limit

theorem run_append (digits : ∀ c ∈ run, (digit c).isSome = true) (ends : Ends digit rest) :
    (run ++ rest).takeWhile (fun c => (digit c).isSome) = run ∧
      (run ++ rest).dropWhile (fun c => (digit c).isSome) = rest := by
  rw [List.takeWhile_append_of_pos digits, List.dropWhile_append_of_pos digits]
  cases rest with
  | nil => exact ⟨List.append_nil run, rfl⟩
  | cons c rest => simp [ends_cons.1 ends]

theorem number_eq_some : number? radix digit size leadingZeros limit cs = some (n, rest) ↔
    ∃ run, cs = run ++ rest ∧ Ends digit rest ∧ Run radix digit size leadingZeros limit run n := by
  rw [number?]
  constructor
  · intro h
    split at h
    · cases h
    rename_i nonempty
    split at h
    · cases h
    rename_i short
    split at h
    · cases h
    rename_i plain
    split at h
    · cases h
    rename_i within
    cases h
    refine ⟨_, List.takeWhile_append_dropWhile.symm, fun c first => ?_, ?_, fun c among => ?_,
      fun m is => ?_, fun allowed first => ?_, rfl, Nat.le_of_not_lt within⟩
    · have stops := List.head?_dropWhile_not (fun c => (digit c).isSome) cs
      rw [Option.mem_def.1 first] at stops
      simpa using stops
    · simpa using nonempty
    · exact List.mem_takeWhile_imp (p := fun c => (digit c).isSome) among
    · rw [Option.mem_def.1 is] at short
      simpa using short
    · simpa [allowed, first] using plain
  · rintro ⟨run, rfl, ends, accepted⟩
    obtain ⟨take, drop⟩ := run_append accepted.digits ends
    have nonempty : ¬ run.isEmpty = true := by simpa using accepted.nonempty
    have short : ¬ size.any (fun n => n < run.length) = true := by
      cases size with
      | none => simp
      | some m => simpa using accepted.size m rfl
    have plain : ¬ (!leadingZeros && run.head? = some '0' && 1 < run.length) = true := by
      simp only [Bool.and_eq_true, Bool.not_eq_true', decide_eq_true_eq]
      rintro ⟨⟨allowed, first⟩, long⟩
      exact Nat.not_le_of_lt long (accepted.zeros allowed first)
    have within : ¬ limit < n := Nat.not_lt_of_le accepted.limit
    simp only [take, drop, accepted.value]
    rw [if_neg nonempty, if_neg short, if_neg plain, if_neg within]

theorem isSome_digit (c : Char) : (digit? c).isSome = c.isDigit := by
  rw [digit_eq]
  cases c.isDigit <;> rfl

theorem run_decimal : Run 10 digit? none true limit ds n ↔ IsDecimal ds n ∧ n ≤ limit := by
  have fold (all : ∀ c ∈ ds, c.isDigit = true) :
      ds.foldl (fun n c => n * 10 + (digit? c).getD 0) 0 = Nat.ofDigitChars 10 ds 0 := by
    rw [Nat.ofDigitChars_eq_foldl]
    refine List.foldl_ext _ _ 0 fun m c among => ?_
    rw [digit_eq, if_pos (all c among), Nat.mul_comm]
    rfl
  constructor
  · intro accepted
    have all : ∀ c ∈ ds, c.isDigit = true := fun c among =>
      isSome_digit c ▸ accepted.digits c among
    exact ⟨⟨accepted.nonempty, all, by rw [← fold all, accepted.value]⟩, accepted.limit⟩
  · rintro ⟨⟨nonempty, all, rfl⟩, within⟩
    exact {
      nonempty := nonempty
      digits := fun c among => (isSome_digit c).trans (all c among)
      size := nofun
      zeros := nofun
      value := fold all
      limit := within }

theorem digitChar_of_isDigit {c : Char} (digit : c.isDigit = true) :
    Nat.digitChar (c.toNat - '0'.toNat) = c := by
  rw [Char.isDigit_iff_toNat] at digit
  have low : '0'.toNat ≤ c.toNat := digit.1
  have high : c.toNat < '0'.toNat + 10 := Nat.lt_succ_of_le digit.2
  rw [← Char.toNat_inj, Nat.toNat_digitChar_of_lt_ten (by omega)]
  exact Nat.add_sub_cancel' low

/-- A number has one decimal numeral without a leading zero. -/
theorem eq_decimal (isDecimal : IsDecimal ds n)
    (plain : ds.head? = some '0' → ds.length ≤ 1) : ds = decimal n := by
  obtain ⟨nonempty, digits, rfl⟩ := isDecimal
  induction ds using List.reverseRecOn with
  | nil => exact absurd rfl nonempty
  | append_singleton ds c ih =>
    have last : c.isDigit = true := digits c (by simp)
    have small : c.toNat - '0'.toNat < 10 := by
      rw [Char.isDigit_iff_toNat] at last
      have high : c.toNat < '0'.toNat + 10 := Nat.lt_succ_of_le last.2
      omega
    rw [Nat.ofDigitChars_append, Nat.ofDigitChars_cons, Nat.ofDigitChars_nil, decimal]
    rcases eq_or_ne ds [] with rfl | more
    · rw [Nat.ofDigitChars_nil, Nat.mul_zero, Nat.zero_add, Nat.toDigits_of_lt_base small,
        digitChar_of_isDigit last, List.nil_append]
    · have opens : ds.head? ≠ some '0' := fun zero => by
        have longer := plain (by rw [List.head?_append, zero, Option.some_or])
        rw [List.length_append, List.length_singleton] at longer
        exact more (List.eq_nil_of_length_eq_zero (by omega))
      have front := ih (fun zero => absurd zero opens) more
        fun d among => digits d (List.mem_append_left _ among)
      have positive : Nat.ofDigitChars 10 ds 0 ≠ 0 := fun zero => by
        rw [zero] at front
        exact opens (by rw [front]; rfl)
      rw [Nat.toDigits_of_base_le (by decide) (by omega)]
      have quotient : (10 * Nat.ofDigitChars 10 ds 0 + (c.toNat - '0'.toNat)) / 10 =
          Nat.ofDigitChars 10 ds 0 := by omega
      have remainder : (10 * Nat.ofDigitChars 10 ds 0 + (c.toNat - '0'.toNat)) % 10 =
          c.toNat - '0'.toNat := by omega
      rw [quotient, remainder, digitChar_of_isDigit last]
      exact congrArg (· ++ [c]) front

theorem eq_zero_of_head (zero : (decimal n).head? = some '0') : n = 0 := by
  induction n using Nat.strongRecOn with
  | ind n ih =>
    rcases Nat.lt_or_ge n 10 with small | large
    · rw [decimal, Nat.toDigits_of_lt_base small] at zero
      exact Nat.digitChar_eq_zero.1 (Option.some.inj zero)
    · have step : decimal n = decimal (n / 10) ++ [(n % 10).digitChar] :=
        Nat.toDigits_of_base_le (by decide) large
      have nonempty : decimal (n / 10) ≠ [] := Nat.toDigits_ne_nil
      rw [step, List.head?_append_of_ne_nil _ nonempty] at zero
      have smaller := ih (n / 10) (by omega) zero
      omega

theorem octet_eq_some {b : UInt8} :
    octet? cs = some (b, rest) ↔ cs = decimal b.toNat ++ rest ∧ Ends digit? rest := by
  simp only [octet?, Option.map_eq_some_iff, Prod.exists, number_eq_some, Prod.mk.injEq]
  constructor
  · rintro ⟨n, _, ⟨run, rfl, ends, accepted⟩, rfl, rfl⟩
    have decimal := run_decimal.1 { accepted with size := nofun, zeros := nofun }
    have whole : n.toUInt8.toNat = n := UInt8.toNat_ofNat_of_lt (Nat.lt_succ_of_le accepted.limit)
    rw [whole, ← eq_decimal decimal.1 (accepted.zeros rfl)]
    exact ⟨rfl, ends⟩
  · rintro ⟨rfl, ends⟩
    refine ⟨b.toNat, rest, ⟨decimal b.toNat, rfl, ends, ?_⟩, UInt8.ofNat_toNat, rfl⟩
    have within : b.toNat ≤ 255 := Nat.le_of_lt_succ b.toNat_lt
    exact { run_decimal.2 ⟨isDecimal_decimal b.toNat, within⟩ with
      size := fun m is => by
        cases is
        exact (Nat.length_toDigits_le_iff (by decide) (by decide)).2 (by omega)
      zeros := fun _ zero => by rw [eq_zero_of_head zero]; decide }

theorem readIpv4_eq_some {ip : Ipv4} :
    readIpv4 cs = some (ip, rest) ↔ cs = ipv4Chars ip ++ rest ∧ Ends digit? rest := by
  simp only [readIpv4, Option.bind_eq_bind, Option.bind_eq_some_iff, Prod.exists, octet_eq_some,
    charIf_eq_some, Option.pure_def, Option.some.injEq, Prod.mk.injEq]
  constructor
  · rintro ⟨a, _, ⟨rfl, -⟩, _, rfl, b, _, ⟨rfl, -⟩, _, rfl, c, _, ⟨rfl, -⟩, _, rfl, d, rest',
      ⟨rfl, ends⟩, rfl, rfl⟩
    exact ⟨by simp [ipv4Chars], ends⟩
  · rintro ⟨rfl, ends⟩
    have dot (later : List Char) : Ends digit? ('.' :: later) := ends_cons.2 rfl
    have parts : ipv4Chars ip ++ rest = decimal ip.a.toNat ++ '.' :: (decimal ip.b.toNat ++
        '.' :: (decimal ip.c.toNat ++ '.' :: (decimal ip.d.toNat ++ rest))) := by simp [ipv4Chars]
    exact ⟨ip.a, _, ⟨parts, dot _⟩, _, rfl, ip.b, _, ⟨rfl, dot _⟩, _, rfl, ip.c, _, ⟨rfl, dot _⟩, _,
      rfl, ip.d, rest, ⟨rfl, ends⟩, rfl, rfl⟩

theorem readPort_eq_some {port : UInt16} : readPort cs = some (port, rest) ↔
    ∃ ds, cs = ':' :: ds ++ rest ∧ IsDecimal ds port.toNat ∧ Ends digit? rest := by
  simp only [readPort, Option.bind_eq_bind, Option.bind_eq_some_iff, Prod.exists, number_eq_some,
    charIf_eq_some, Option.pure_def, Option.some.injEq, Prod.mk.injEq, run_decimal]
  constructor
  · rintro ⟨_, rfl, n, _, ⟨ds, rfl, ends, decimal, within⟩, rfl, rfl⟩
    have whole : n.toUInt16.toNat = n := UInt16.toNat_ofNat_of_lt (Nat.lt_succ_of_le within)
    exact ⟨ds, rfl, whole.symm ▸ decimal, ends⟩
  · rintro ⟨ds, rfl, decimal, ends⟩
    exact ⟨ds ++ rest, rfl, port.toNat, rest,
      ⟨ds, rfl, ends, decimal, Nat.le_of_lt_succ port.toNat_lt⟩, UInt16.ofNat_toNat, rfl⟩

end ClusterDriver.AddressText
