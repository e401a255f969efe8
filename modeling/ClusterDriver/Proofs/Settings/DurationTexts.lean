import ClusterDriver.Settings.Option
import ClusterDriver.Proofs.Text.Numerals
import ClusterDriver.Proofs.Text.Splitting
/-!
# The text of durations

A duration is read exactly from its grammar: a numeral, and then perhaps blanks and a unit. It is as
many nanoseconds as the number says, without any rounding, and a number that would not fit is
refused. The unit is the longest one that the text ends with.
-/
namespace ClusterDriver.OptionValue
open Text
variable {cs number : List Char} {n : Nat} {d : Span}

/-- The units of durations. Without a unit a number counts milliseconds. -/
inductive TimeUnit where
  | unwritten
  | ms
  | s
  | m
  deriving DecidableEq, Repr

namespace TimeUnit
variable {unit other : TimeUnit}

def suffix : TimeUnit → List Char
  | unwritten => []
  | ms => ['m', 's']
  | s => ['s']
  | m => ['m']

/-- Minutes are counted in seconds, the other units in themselves. -/
def multiple : TimeUnit → Nat
  | unwritten | ms | s => 1
  | m => 60

def nanoseconds : TimeUnit → Nat
  | unwritten | ms => 1000000
  | s => 1000000000
  | m => 60000000000

def span (unit : TimeUnit) (n : Nat) : Span := ⟨n * unit.nanoseconds⟩

/-- A numeral, perhaps blanks and the unit. What is counted stays within 64 bits. -/
def Spells (unit : TimeUnit) (n : Nat) (cs : List Char) : Prop :=
  n * unit.multiple ≤ u64Limit ∧ ∃ number gap, IsNumeral number n ∧ Blanks gap ∧
    (unit = unwritten → gap = []) ∧ cs = number ++ gap ++ unit.suffix

/-- What is made of the number before the unit. -/
def read : TimeUnit → List Char → Option Span
  | unwritten | ms => milliseconds?
  | s => seconds?
  | m => minutes?

theorem read_eq_some : unit.read cs = some d ↔
    ∃ n, IsNumeral cs n ∧ n * unit.multiple ≤ u64Limit ∧ d = unit.span n := by
  cases unit with
  | unwritten | ms =>
    simp [read, milliseconds?, natural_eq_some, Span.ofMillis, multiple, span, nanoseconds,
      and_assoc, eq_comm (a := d)]
  | s =>
    simp [read, seconds?, natural_eq_some, Span.ofSeconds, multiple, span, nanoseconds,
      and_assoc, eq_comm (a := d)]
  | m =>
    simp only [read, minutes?, Option.map_eq_some_iff, Option.filter_eq_some_iff, natural_eq_some,
      decide_eq_true_iff, multiple]
    constructor
    · rintro ⟨n, ⟨⟨numeral, _⟩, fits⟩, rfl⟩
      exact ⟨n, numeral, fits, by simp [Span.ofSeconds, span, nanoseconds, Nat.mul_assoc]⟩
    · rintro ⟨n, numeral, fits, rfl⟩
      exact ⟨n, ⟨⟨numeral, by omega⟩, fits⟩,
        by simp [Span.ofSeconds, span, nanoseconds, Nat.mul_assoc]⟩

/-- No letter of a unit stands before the unit. -/
theorem letter_not_mem {number gap : List Char} (numeral : IsNumeral number n) (blank : Blanks gap)
    {letter : Char} (among : letter ∈ ['m', 's']) : letter ∉ number ++ gap := by
  have other : ¬ (letter = '+' ∨ letter.isDigit = true) ∧ isBlank letter ≠ true := by
    simp only [List.mem_cons, List.not_mem_nil, or_false] at among
    rcases among with rfl | rfl <;> decide
  rw [List.mem_append]
  rintro (before | between)
  · exact other.1 (numeral.mem before)
  · exact other.2 (blank letter between)

/-- A text with a unit does not end with a longer one. -/
theorem Spells.longest (spelled : unit.Spells n cs) (ends : other.suffix <:+ cs) :
    other.suffix.length ≤ unit.suffix.length := by
  obtain ⟨_, number, gap, numeral, blank, _, rfl⟩ := spelled
  have noM := letter_not_mem numeral blank (by decide : 'm' ∈ ['m', 's'])
  have noS := letter_not_mem numeral blank (by decide : 's' ∈ ['m', 's'])
  obtain ⟨front, same⟩ := ends
  generalize number ++ gap = body at *
  cases unit with
  | unwritten =>
    rw [suffix, List.append_nil] at same
    cases other with
    | unwritten => exact Nat.le_refl _
    | ms | m => exact absurd (same ▸ by simp [suffix]) noM
    | s => exact absurd (same ▸ by simp [suffix]) noS
  | s =>
    cases other with
    | unwritten | s | m => decide
    | ms =>
      have whole : front ++ ['m'] ++ ['s'] = body ++ ['s'] := by simpa [suffix] using same
      exact absurd (List.append_cancel_right whole ▸ by simp) noM
  | m =>
    cases other with
    | unwritten | s | m => decide
    | ms =>
      have letters := congrArg List.getLast? same
      simp [suffix] at letters
  | ms => cases other <;> decide

theorem suffix_inj : unit.suffix = other.suffix ↔ unit = other := by
  cases unit <;> cases other <;> simp [suffix]

theorem Spells.suffix (spelled : unit.Spells n cs) : unit.suffix <:+ cs := by
  obtain ⟨_, number, gap, _, _, _, rfl⟩ := spelled
  exact List.suffix_append _ _

/-- The unit is the longest one that the text ends with. -/
theorem Spells.eq_of_longest (spelled : unit.Spells n cs) (ends : other.suffix <:+ cs)
    (longest : ∀ u : TimeUnit, u.suffix <:+ cs → u.suffix.length ≤ other.suffix.length) :
    unit = other := by
  have least := longest unit spelled.suffix
  have most := spelled.longest ends
  have part := List.suffix_of_suffix_length_le spelled.suffix ends least
  exact suffix_inj.1 (part.eq_of_length (Nat.le_antisymm least most))

/-- What is made of the number before a unit, with the gap between them. -/
theorem read_trim (bare : Bare (number ++ unit.suffix)) : unit.read (trim number) = some d ↔
    ∃ n, unit.Spells n (number ++ unit.suffix) ∧ d = unit.span n := by
  rw [read_eq_some]
  constructor
  · rintro ⟨n, numeral, fits, rfl⟩
    have parted : ∃ gap, Blanks gap ∧ (unit = unwritten → gap = []) ∧
        number = trim number ++ gap := by
      by_cases unit = unwritten
      · rename_i unitless
        subst unitless
        rw [TimeUnit.suffix, List.append_nil] at bare
        exact ⟨[], by simp [Blanks], fun _ => rfl, by rw [trim_of_bare bare, List.append_nil]⟩
      · rename_i written
        obtain ⟨before, gap, front, blank, same⟩ := exists_padding number
        cases before with
        | nil => exact ⟨gap, blank, fun h => absurd h written, same⟩
        | cons b before =>
          have opens : (number ++ unit.suffix).head? = some b := by rw [same]; rfl
          exact absurd (front b (.head _)) (by simp [bare.1 b opens])
    obtain ⟨gap, blank, unitless, same⟩ := parted
    exact ⟨n, ⟨fits, trim number, gap, numeral, blank, unitless, by rw [← same]⟩, rfl⟩
  · rintro ⟨n, ⟨fits, number', gap, numeral, blank, _, same⟩, rfl⟩
    have alone : trim number = number' := by
      rw [List.append_cancel_right same]
      exact trim_padded (by simp [Blanks] : Blanks []) numeral.bare blank
    exact ⟨n, alone ▸ numeral, fits, rfl⟩

end TimeUnit

/-- A unit is tried before those that it may hide. -/
theorem duration_eq (cs : List Char) : duration? cs =
    match withoutEnding? TimeUnit.ms.suffix cs with
    | some number => TimeUnit.ms.read (trim number)
    | none => match withoutEnding? TimeUnit.s.suffix cs with
      | some number => TimeUnit.s.read (trim number)
      | none => match withoutEnding? TimeUnit.m.suffix cs with
        | some number => TimeUnit.m.read (trim number)
        | none => TimeUnit.unwritten.read cs := rfl

/-- If a text spells a duration, then with the longest unit that it ends with. -/
theorem read_of_longest {unit : TimeUnit} (bare : Bare cs) (ends : cs = number ++ unit.suffix)
    (longest : ∀ u : TimeUnit, u.suffix <:+ cs → u.suffix.length ≤ unit.suffix.length) :
    unit.read (trim number) = some d ↔
      ∃ unit : TimeUnit, ∃ n, unit.Spells n cs ∧ d = unit.span n := by
  rw [ends] at bare
  rw [TimeUnit.read_trim bare, ← ends]
  constructor
  · rintro ⟨n, spelled, same⟩
    exact ⟨unit, n, spelled, same⟩
  · rintro ⟨other, n, spelled, rfl⟩
    obtain rfl := spelled.eq_of_longest ⟨number, ends.symm⟩ longest
    exact ⟨n, spelled, rfl⟩

theorem duration_eq_some (bare : Bare cs) : duration? cs = some d ↔
    ∃ unit : TimeUnit, ∃ n, unit.Spells n cs ∧ d = unit.span n := by
  rw [duration_eq]
  split
  · rename_i number ends
    refine read_of_longest bare (withoutEnding_eq_some.1 ends) fun u _ => ?_
    cases u <;> decide
  rename_i noMs
  rw [withoutEnding_eq_none] at noMs
  have single : ∀ u : TimeUnit, u.suffix <:+ cs → u.suffix.length ≤ 1 := by
    intro u also
    cases u with
    | ms => exact absurd also noMs
    | unwritten | s | m => decide
  split
  · rename_i number ends
    exact read_of_longest bare (withoutEnding_eq_some.1 ends) single
  rename_i noS
  rw [withoutEnding_eq_none] at noS
  split
  · rename_i number ends
    exact read_of_longest bare (withoutEnding_eq_some.1 ends) single
  · rename_i noM
    rw [withoutEnding_eq_none] at noM
    have whole : cs = cs ++ TimeUnit.unwritten.suffix := (List.append_nil cs).symm
    have bareUnit := read_of_longest (d := d) bare whole fun u also => by
      cases u with
      | unwritten => decide
      | ms => exact absurd also noMs
      | s => exact absurd also noS
      | m => exact absurd also noM
    rwa [trim_of_bare bare] at bareUnit

theorem ofText_duration_eq_some {raw : String} {v : OptionValue} :
    ofText? .duration raw = some v ↔
      ∃ unit : TimeUnit, ∃ n, unit.Spells n (trim raw.toList) ∧ v = .duration (unit.span n) := by
  have read : ofText? .duration raw = (duration? (trim raw.toList)).map .duration := rfl
  rw [read, Option.map_eq_some_iff]
  constructor
  · rintro ⟨d, found, rfl⟩
    obtain ⟨unit, n, spelled, rfl⟩ := (duration_eq_some (bare_trim _)).1 found
    exact ⟨unit, n, spelled, rfl⟩
  · rintro ⟨unit, n, spelled, rfl⟩
    exact ⟨unit.span n, (duration_eq_some (bare_trim _)).2 ⟨unit, n, spelled, rfl⟩, rfl⟩

/-- The decimal text of a number, with a unit behind it. -/
theorem ofText_decimal (unit : TimeUnit) (fits : n * unit.multiple ≤ u64Limit) :
    ofText? .duration (decimalText n ++ String.ofList unit.suffix) =
      some (.duration (unit.span n)) := by
  have numeral := (isDecimal_decimal n).isNumeral
  obtain ⟨c, first, opens⟩ := (isDecimal_decimal n).head
  obtain ⟨d, last, digit⟩ := (isDecimal_decimal n).getLast
  have closes : ∃ d, (decimal n ++ unit.suffix).getLast? = some d ∧ isBlank d = false := by
    cases unit with
    | unwritten => exact ⟨d, by simp [TimeUnit.suffix, last], isBlank_of_isDigit digit⟩
    | ms | s => exact ⟨'s', by simp [TimeUnit.suffix], by decide⟩
    | m => exact ⟨'m', by simp [TimeUnit.suffix], by decide⟩
  obtain ⟨e, last', closes⟩ := closes
  have bare : Bare (decimal n ++ unit.suffix) :=
    bare_of_ends (by simp [List.head?_append, first]) last' (isBlank_of_isDigit opens) closes
  refine ofText_duration_eq_some.2 ⟨unit, n, ?_, rfl⟩
  rw [decimalText, String.toList_append, String.toList_ofList, String.toList_ofList,
    trim_of_bare bare]
  exact ⟨fits, decimal n, [], numeral, by simp [Blanks], fun _ => rfl, by simp⟩

/-- A text is read as a duration exactly if it is, but for blanks around it, a numeral and a unit
with nothing but blanks between, whose count stays within 64 bits, and then the duration is exactly
that many of the unit. The unit is the longest one that the text ends with. Every number of
milliseconds within 64 bits is read back from its decimal text, with the unit or without. -/
theorem durations_read_exactly (raw : String) :
    (∀ v, ofText? .duration raw = some v ↔
        ∃ unit : TimeUnit, ∃ n, unit.Spells n (trim raw.toList) ∧
          v = .duration ⟨n * unit.nanoseconds⟩) ∧
      (∀ unit : TimeUnit, ∀ n, unit.Spells n (trim raw.toList) →
        ∀ other : TimeUnit, other.suffix <:+ trim raw.toList →
          other.suffix.length ≤ unit.suffix.length) ∧
      ∀ n, n ≤ u64Limit →
        ofText? .duration (decimalText n) = some (.duration ⟨n * 1000000⟩) ∧
          ofText? .duration (decimalText n ++ "ms") = some (.duration ⟨n * 1000000⟩) := by
  refine ⟨fun v => ofText_duration_eq_some, fun unit n spelled other ends => spelled.longest ends,
    fun n within => ?_⟩
  have fits : n * 1 ≤ u64Limit := by omega
  have unitless := ofText_decimal .unwritten fits
  rw [TimeUnit.suffix, String.ofList_nil, String.append_empty] at unitless
  exact ⟨unitless, ofText_decimal .ms fits⟩

/-- With a plus sign, a leading zero, a gap and blanks around. -/
theorem spaced_minutes_read :
    ofText? .duration "\t+07 m " = some (.duration ⟨7 * 60000000000⟩) := by
  have numeral : IsNumeral ['+', '0', '7'] 7 :=
    ⟨['0', '7'], Or.inr rfl, by decide, List.all_eq_true.1 (by decide), by decide⟩
  have spelled : TimeUnit.m.Spells 7 (trim "\t+07 m ".toList) :=
    ⟨by decide, ['+', '0', '7'], [' '], numeral, by decide, by decide, by decide⟩
  exact ((durations_read_exactly "\t+07 m ").1 _).2 ⟨.m, 7, spelled, rfl⟩

end ClusterDriver.OptionValue
