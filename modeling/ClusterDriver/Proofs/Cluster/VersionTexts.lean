import ClusterDriver.Cluster.Version
import ClusterDriver.Proofs.Text.Numerals
import ClusterDriver.Proofs.Text.Splitting
import Mathlib.Data.List.Forall2
/-!
# The text of versions

A version is read exactly from its grammar, whatever blanks are around it, and every other text is
reported in one of two ways. What is written for a version is read back, so that reading and writing
once more changes nothing.
-/
namespace ClusterDriver.ServerVersion
open Text
variable {v : ServerVersion} {cs t raw : List Char} {major minor patch : UInt32}

/-- Two or three numerals with dots between them. A third number that is left out is zero. -/
inductive NumbersText : UInt32 → UInt32 → UInt32 → List Char → Prop
  | two {major minor : UInt32} {a b : List Char} (first : IsNumeral a major.toNat)
      (second : IsNumeral b minor.toNat) : NumbersText major minor 0 (a ++ '.' :: b)
  | three {major minor patch : UInt32} {a b c : List Char} (first : IsNumeral a major.toNat)
      (second : IsNumeral b minor.toNat) (third : IsNumeral c patch.toNat) :
    NumbersText major minor patch (a ++ '.' :: (b ++ '.' :: c))

/-- The numbers, and if there is a pre-release a dash and its name, which is not empty. -/
def Spells (v : ServerVersion) (cs : List Char) : Prop :=
  ∃ numbers, NumbersText v.major v.minor v.patch numbers ∧
    (v.preRelease = none ∧ cs = numbers ∨
      ∃ name, name ≠ [] ∧ v.preRelease = some (String.ofList name) ∧ cs = numbers ++ '-' :: name)

/-- Nothing follows its first dash. -/
def EndsAtDash (cs : List Char) : Prop := ∃ front, '-' ∉ front ∧ cs = front ++ ['-']

theorem number_eq_some {n : UInt32} : number? cs = some n ↔ IsNumeral cs n.toNat := by
  rw [number?, Option.map_eq_some_iff]
  constructor
  · rintro ⟨m, read, rfl⟩
    obtain ⟨numeral, within⟩ := natural_eq_some.1 read
    have whole : m.toUInt32.toNat = m := UInt32.toNat_ofNat_of_lt (Nat.lt_succ_of_le within)
    rwa [whole]
  · intro numeral
    have within : n.toNat ≤ u32Limit := Nat.le_of_lt_succ n.toNat_lt
    exact ⟨n.toNat, natural_eq_some.2 ⟨numeral, within⟩, UInt32.ofNat_toNat⟩

theorem mapM_eq_some {α β : Type} {f : α → Option β} {as : List α} {bs : List β} :
    as.mapM f = some bs ↔ List.Forall₂ (fun a b => f a = some b) as bs := by
  induction as generalizing bs with
  | nil =>
    rw [List.mapM_nil, List.forall₂_nil_left_iff]
    exact ⟨fun h => (Option.some.inj h).symm, fun h => h ▸ rfl⟩
  | cons a as ih =>
    simp only [List.mapM_cons, Option.bind_eq_bind, Option.pure_def, Option.bind_eq_some_iff,
      Option.some.injEq, ih, List.forall₂_cons_left_iff]
    constructor
    · rintro ⟨b, here, rest, later, rfl⟩
      exact ⟨b, rest, here, later, rfl⟩
    · rintro ⟨b, rest, here, later, rfl⟩
      exact ⟨b, here, rest, later, rfl⟩

/-- There are no dots in a numeral, so it is one part. -/
theorem dot_not_mem {n : Nat} (numeral : IsNumeral cs n) : '.' ∉ cs := fun among =>
  absurd (numeral.mem among) (by decide)

theorem mapM_parts {ns : List UInt32} : (parts '.' cs).mapM number? = some ns ↔
    ns ≠ [] ∧ ∃ texts, List.Forall₂ (fun text n => IsNumeral text n.toNat) texts ns ∧
      cs = ['.'].intercalate texts := by
  simp only [mapM_eq_some, number_eq_some]
  constructor
  · intro each
    obtain ⟨nonempty, _, whole⟩ := parts_eq_iff.1 (Eq.refl (parts '.' cs))
    refine ⟨?_, parts '.' cs, each, whole⟩
    rintro rfl
    exact nonempty (List.forall₂_nil_right_iff.1 each)
  · rintro ⟨nonempty, texts, each, whole⟩
    have dotless : ∀ text ∈ texts, '.' ∉ text := ((List.forall₂_and_left texts ns).1
      (each.imp fun _ _ numeral => ⟨dot_not_mem numeral, numeral⟩)).1
    have known : texts ≠ [] := by
      rintro rfl
      exact nonempty (List.forall₂_nil_left_iff.1 each)
    rwa [parts_eq_iff.2 ⟨known, dotless, whole⟩]

theorem numbers_eq_some :
    numbers? cs = some (major, minor, patch) ↔ NumbersText major minor patch cs := by
  rw [numbers?]
  constructor
  · intro read
    split at read
    · rename_i pair
      obtain ⟨_, texts, each, rfl⟩ := mapM_parts.1 pair
      obtain _ | ⟨first, _ | ⟨second, _ | _⟩⟩ := each
      cases read
      simpa using NumbersText.two first second
    · rename_i triple
      obtain ⟨_, texts, each, rfl⟩ := mapM_parts.1 triple
      obtain _ | ⟨first, _ | ⟨second, _ | ⟨third, _ | _⟩⟩⟩ := each
      cases read
      simpa using NumbersText.three first second third
    · cases read
  · rintro (⟨first, second⟩ | ⟨first, second, third⟩)
    · rename_i a b
      rw [mapM_parts.2 ⟨List.cons_ne_nil _ _, [a, b], .cons first (.cons second .nil), by simp⟩]
    · rename_i a b c
      rw [mapM_parts.2 ⟨List.cons_ne_nil _ _, [a, b, c],
        .cons first (.cons second (.cons third .nil)), by simp⟩]

/-- There are no dashes in numbers, so the first dash ends them. -/
theorem NumbersText.dash_not_mem (numbers : NumbersText major minor patch cs) : '-' ∉ cs := by
  have undashed : ∀ {part : List Char} {n : Nat}, IsNumeral part n → '-' ∉ part :=
    fun numeral among => absurd (numeral.mem among) (by decide)
  rcases numbers with ⟨first, second⟩ | ⟨first, second, third⟩
  · simp [undashed first, undashed second]
  · simp [undashed first, undashed second, undashed third]

/-- What is left of a version at its first dash. -/
theorem spells_of_cut {front name : List Char} (absent : '-' ∉ front) :
    Spells v (front ++ '-' :: name) ↔ NumbersText v.major v.minor v.patch front ∧ name ≠ [] ∧
      v.preRelease = some (String.ofList name) := by
  constructor
  · rintro ⟨numbers, text, ⟨_, same⟩ | ⟨name', nonempty, pre, same⟩⟩
    · exact absurd (same ▸ List.mem_append_cons_self) text.dash_not_mem
    · have cut := cut_append text.dash_not_mem name'
      rw [← same, cut_append absent name] at cut
      cases cut
      exact ⟨text, nonempty, pre⟩
  · rintro ⟨text, nonempty, pre⟩
    exact ⟨front, text, Or.inr ⟨name, nonempty, pre, rfl⟩⟩

theorem spells_of_undashed (absent : '-' ∉ cs) :
    Spells v cs ↔ NumbersText v.major v.minor v.patch cs ∧ v.preRelease = none := by
  constructor
  · rintro ⟨numbers, text, ⟨pre, rfl⟩ | ⟨name, _, _, rfl⟩⟩
    · exact ⟨text, pre⟩
    · simp at absent
  · rintro ⟨text, pre⟩
    exact ⟨cs, text, Or.inl ⟨pre, rfl⟩⟩

/-- What the numbers and the name of the pre-release are read as, for the text `t`. -/
def read (t numbers : List Char) (preRelease : Option String) : Except TextError ServerVersion :=
  match numbers? numbers with
  | some (major, minor, patch) => .ok { major, minor, patch, preRelease }
  | none => .error (.invalidVersion (String.ofList t))

theorem read_eq_ok {preRelease : Option String} : read t cs preRelease = .ok v ↔
    NumbersText v.major v.minor v.patch cs ∧ v.preRelease = preRelease := by
  rw [read]
  cases found : numbers? cs with
  | none =>
    have none_spelled : ¬ NumbersText v.major v.minor v.patch cs := fun text => by
      rw [numbers_eq_some.2 text] at found
      cases found
    simp [none_spelled]
  | some numbers =>
    obtain ⟨major, minor, patch⟩ := numbers
    constructor
    · rintro ⟨⟩
      exact ⟨numbers_eq_some.1 found, rfl⟩
    · rintro ⟨text, rfl⟩
      rw [numbers_eq_some.2 text] at found
      cases found
      rfl

theorem read_eq_error {preRelease : Option String} {e : TextError} :
    read t cs preRelease = .error e → e = .invalidVersion (String.ofList t) := by
  rw [read]
  split
  · rintro ⟨⟩
  · rintro ⟨⟩
    rfl

/-- The text is cut at its first dash, if it has one. -/
theorem ofChars_eq (raw : List Char) : ofChars raw =
    match cut? '-' (trim raw) with
    | none => read (trim raw) (trim raw) none
    | some (_, []) => .error (.emptyPreRelease (String.ofList (trim raw)))
    | some (numbers, name) => read (trim raw) numbers (some (String.ofList name)) := rfl

theorem ofChars_eq_ok : ofChars raw = .ok v ↔ Spells v (trim raw) := by
  rw [ofChars_eq]
  generalize trim raw = t
  split
  · rename_i cut
    rw [read_eq_ok, spells_of_undashed (cut_eq_none.1 cut)]
  · rename_i cut
    obtain ⟨absent, rfl⟩ := cut_eq_some.1 cut
    simp [spells_of_cut absent]
  · rename_i front name filled cut
    obtain ⟨absent, rfl⟩ := cut_eq_some.1 cut
    have nonempty : name ≠ [] := filled
    simp [read_eq_ok, spells_of_cut absent, nonempty]

theorem ofChars_of_endsAtDash (ends : EndsAtDash (trim raw)) :
    ofChars raw = .error (.emptyPreRelease (String.ofList (trim raw))) := by
  obtain ⟨front, absent, same⟩ := ends
  rw [ofChars_eq, same, cut_append absent]

theorem ofChars_of_unspelled (ends : ¬ EndsAtDash (trim raw))
    (unspelled : ∀ v, ¬ Spells v (trim raw)) :
    ofChars raw = .error (.invalidVersion (String.ofList (trim raw))) := by
  cases result : ofChars raw with
  | ok v => exact absurd (ofChars_eq_ok.1 result) (unspelled v)
  | error e =>
    rw [ofChars_eq] at result
    split at result
    · rw [read_eq_error result]
    · rename_i cut
      obtain ⟨absent, same⟩ := cut_eq_some.1 cut
      exact absurd ⟨_, absent, same⟩ ends
    · rw [read_eq_error result]

/-- The pre-release, if there is one, is not empty and does not end with a blank. -/
def Printable (v : ServerVersion) : Prop :=
  ∀ name ∈ v.preRelease, name ≠ "" ∧ ∀ c ∈ name.toList.getLast?, isBlank c = false

/-- The dash and the name of the pre-release, if there is one. -/
def ending (v : ServerVersion) : List Char :=
  match v.preRelease with
  | none => []
  | some name => '-' :: name.toList

def numbersText (v : ServerVersion) : List Char :=
  decimal v.major.toNat ++ '.' :: (decimal v.minor.toNat ++ '.' :: decimal v.patch.toNat)

theorem toList_text (v : ServerVersion) : v.text.toList = v.numbersText ++ v.ending := by
  rw [text, numbersText, ending]
  cases v.preRelease <;> simp [decimalText]

theorem numbersText_spelled (v : ServerVersion) :
    NumbersText v.major v.minor v.patch v.numbersText :=
  .three (isDecimal_decimal _).isNumeral (isDecimal_decimal _).isNumeral
    (isDecimal_decimal _).isNumeral

theorem spells_text (printable : v.Printable) : Spells v v.text.toList := by
  rw [toList_text, ending]
  refine ⟨v.numbersText, v.numbersText_spelled, ?_⟩
  cases pre : v.preRelease with
  | none => exact Or.inl ⟨rfl, List.append_nil _⟩
  | some name =>
    have nonempty : name.toList ≠ [] := by simpa using (printable name pre).1
    exact Or.inr ⟨name.toList, nonempty, by rw [String.ofList_toList], rfl⟩

/-- There is nothing to trim from the text of a version. -/
theorem bare_text (printable : v.Printable) : Bare v.text.toList := by
  obtain ⟨c, first, opens⟩ := (isDecimal_decimal v.major.toNat).head
  have first' : v.text.toList.head? = some c := by
    simp [toList_text, numbersText, List.head?_append, first]
  have closes : ∃ d, v.text.toList.getLast? = some d ∧ isBlank d = false := by
    rw [toList_text, ending, numbersText]
    cases pre : v.preRelease with
    | none =>
      obtain ⟨d, last, digit⟩ := (isDecimal_decimal v.patch.toNat).getLast
      exact ⟨d, by simp [List.getLast?_append, List.getLast?_cons, last], isBlank_of_isDigit digit⟩
    | some name =>
      obtain ⟨nonempty, unblank⟩ := printable name pre
      have last := List.getLast?_eq_some_getLast (l := name.toList) (by simpa using nonempty)
      exact ⟨_, by simp [List.getLast?_append, List.getLast?_cons, last], unblank _ last⟩
  obtain ⟨d, last, closes⟩ := closes
  exact bare_of_ends first' last (isBlank_of_isDigit opens) closes

theorem ofText_text (printable : v.Printable) : ofText v.text = .ok v := by
  rw [ofText, ofChars_eq_ok, trim_of_bare (bare_text printable)]
  exact spells_text printable

/-- What was read can be written. -/
theorem Spells.printable (spelled : Spells v t) (bare : Bare t) : v.Printable := by
  intro name pre
  obtain ⟨numbers, _, ⟨absent, _⟩ | ⟨rest, nonempty, same, rfl⟩⟩ := spelled
  · cases absent.symm.trans pre
  · cases same.symm.trans pre
    refine ⟨by simpa using nonempty, fun c last => bare.2 c ?_⟩
    rw [String.toList_ofList] at last
    simp [List.getLast?_append, List.getLast?_cons, Option.mem_def.1 last]

/-- A text is read as a version exactly if it is one but for blanks around it. It is reported to
have an empty pre-release if nothing follows its first dash, whatever the numbers are, and to be no
version if it fails otherwise. What is written for a version is read as that version, as long as its
pre-release is not empty and does not end with a blank, which is so for all that was read. -/
theorem reads_its_grammar (raw : String) :
    (∀ v, ofText raw = .ok v ↔ Spells v (trim raw.toList)) ∧
      (ofText raw = .error (.emptyPreRelease (trimmed raw)) ↔ EndsAtDash (trim raw.toList)) ∧
      (ofText raw = .error (.invalidVersion (trimmed raw)) ↔
        ¬ EndsAtDash (trim raw.toList) ∧ ∀ v, ¬ Spells v (trim raw.toList)) ∧
      (∀ v : ServerVersion, v.Printable → ofText v.text = .ok v) ∧
      ∀ v, ofText raw = .ok v → ofText v.text = .ok v := by
  refine ⟨fun v => ofChars_eq_ok, ⟨?_, ofChars_of_endsAtDash⟩, ⟨?_, ?_⟩,
    fun v printable => ofText_text printable, fun v accepted => ?_⟩
  · intro empty
    by_contra ends
    by_cases spelled : ∃ v, Spells v (trim raw.toList)
    · obtain ⟨v, spelled⟩ := spelled
      cases empty.symm.trans (ofChars_eq_ok.2 spelled)
    · cases empty.symm.trans (ofChars_of_unspelled ends (not_exists.1 spelled))
  · intro invalid
    constructor
    · intro ends
      cases invalid.symm.trans (ofChars_of_endsAtDash ends)
    · intro v spelled
      cases invalid.symm.trans (ofChars_eq_ok.2 spelled)
  · rintro ⟨ends, unspelled⟩
    exact ofChars_of_unspelled ends unspelled
  · exact ofText_text ((ofChars_eq_ok.1 accepted).printable (bare_trim _))

/-- A text with a plus sign, leading zeros, two numbers only and blanks around it. -/
theorem untidy_version_read :
    let v : ServerVersion := { major := 3, minor := 11, patch := 0, preRelease := some "beta-2" }
    ofText " +03.11-beta-2\n" = .ok v ∧ v.text = "3.11.0-beta-2" ∧ ofText v.text = .ok v := by
  intro v
  have accepted : ofText " +03.11-beta-2\n" = .ok v := by rfl
  have written : v.text = "3.11.0-beta-2" := by decide +kernel
  exact ⟨accepted, written, (reads_its_grammar " +03.11-beta-2\n").2.2.2.2 v accepted⟩

end ClusterDriver.ServerVersion
