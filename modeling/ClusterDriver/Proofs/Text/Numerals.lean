import ClusterDriver.Text.Numeral
import ClusterDriver.Proofs.Text.Trimming
/-!
# Numerals

A natural numeral is read exactly if it is an optional plus sign and one or more ASCII digits with a
value within the limit, and it is read as that value. What is written for a number is a numeral of
it.
-/
namespace ClusterDriver.Text
variable {cs ds : List Char} {n limit : Nat}

/-- One or more ASCII digits, and the number that they stand for. -/
def IsDecimal (ds : List Char) (n : Nat) : Prop :=
  ds ≠ [] ∧ (∀ c ∈ ds, c.isDigit = true) ∧ n = Nat.ofDigitChars 10 ds 0

/-- Digits, perhaps after a plus sign. -/
def IsNumeral (cs : List Char) (n : Nat) : Prop :=
  ∃ ds, (cs = ds ∨ cs = '+' :: ds) ∧ IsDecimal ds n

theorem digit_eq (c : Char) :
    digit? c = if c.isDigit then some (c.toNat - '0'.toNat) else none := by
  have same : ('0' ≤ c ∧ c ≤ '9') ↔ c.isDigit = true := by
    rw [Char.isDigit_iff_toNat, Char.le_def, Char.le_def, UInt32.le_iff_toNat_le,
      UInt32.le_iff_toNat_le]
    rfl
  exact if_congr same rfl rfl

theorem digits_eq_some {acc : Nat} : digits? acc cs = some n ↔
    (∀ c ∈ cs, c.isDigit = true) ∧ n = Nat.ofDigitChars 10 cs acc := by
  induction cs generalizing acc with
  | nil => simp [digits?, eq_comm (a := n)]
  | cons c rest ih =>
    rw [digits?, digit_eq, Nat.ofDigitChars_cons, Nat.mul_comm 10 acc]
    by_cases digit : c.isDigit = true
    · simp [digit, ih]
    · simp [digit]

theorem magnitude_eq_some : magnitude? cs = some n ↔ IsDecimal cs n := by
  cases cs with
  | nil => simp [magnitude?, IsDecimal]
  | cons c rest => simp [magnitude?, IsDecimal, digits_eq_some]

theorem IsDecimal.plus_not_mem (decimal : IsDecimal ds n) : '+' ∉ ds := fun among =>
  absurd (decimal.2.1 _ among) (by decide)

theorem magnitude_withoutPlus : magnitude? (withoutPlus cs) = some n ↔ IsNumeral cs n := by
  rw [magnitude_eq_some]
  constructor
  · intro decimal
    refine ⟨withoutPlus cs, ?_, decimal⟩
    rw [withoutPlus.eq_def]
    split
    · exact Or.inr rfl
    · exact Or.inl rfl
  · rintro ⟨ds, rfl | rfl, decimal⟩
    · rwa [withoutPlus.eq_2]
      rintro rest rfl
      exact decimal.plus_not_mem (.head _)
    · exact decimal

theorem natural_eq_some : natural? limit cs = some n ↔ IsNumeral cs n ∧ n ≤ limit := by
  rw [natural?, Option.filter_eq_some_iff, magnitude_withoutPlus, decide_eq_true_iff]

theorem isDecimal_decimal (n : Nat) : IsDecimal (decimal n) n :=
  ⟨Nat.toDigits_ne_nil, fun _ among => Nat.isDigit_of_mem_toDigits (by decide) (by decide) among,
    Nat.ofDigitChars_ten_toDigits.symm⟩

theorem IsDecimal.isNumeral (decimal : IsDecimal ds n) : IsNumeral ds n := ⟨ds, Or.inl rfl, decimal⟩

theorem isBlank_of_isDigit {c : Char} (digit : c.isDigit = true) : isBlank c = false := by
  rw [Char.isDigit_iff_toNat] at digit
  have low : 48 ≤ c.toNat := digit.1
  have high : c.toNat ≤ 57 := digit.2
  simp only [isBlank, Bool.or_eq_false_iff, Bool.and_eq_false_iff, decide_eq_false_iff_not]
  omega

theorem IsDecimal.head (decimal : IsDecimal ds n) : ∃ c, ds.head? = some c ∧ c.isDigit = true :=
  ⟨_, List.head?_eq_some_head decimal.1, decimal.2.1 _ (List.head_mem decimal.1)⟩

theorem IsDecimal.getLast (decimal : IsDecimal ds n) :
    ∃ c, ds.getLast? = some c ∧ c.isDigit = true :=
  ⟨_, List.getLast?_eq_some_getLast decimal.1, decimal.2.1 _ (List.getLast_mem decimal.1)⟩

/-- Every character of a numeral is a digit or its plus sign. -/
theorem IsNumeral.mem (numeral : IsNumeral cs n) {c : Char} (among : c ∈ cs) :
    c = '+' ∨ c.isDigit = true := by
  obtain ⟨ds, rfl | rfl, _, digits, _⟩ := numeral
  · exact Or.inr (digits c among)
  · exact (List.mem_cons.1 among).imp_right (digits c)

theorem IsNumeral.isBlank_eq_false (numeral : IsNumeral cs n) {c : Char} (among : c ∈ cs) :
    isBlank c = false := by
  rcases numeral.mem among with rfl | digit
  · rfl
  · exact isBlank_of_isDigit digit

theorem IsNumeral.bare (numeral : IsNumeral cs n) : Bare cs :=
  ⟨fun _ first => numeral.isBlank_eq_false (List.mem_of_head? first),
    fun _ last => numeral.isBlank_eq_false (List.mem_of_getLast? last)⟩

end ClusterDriver.Text
