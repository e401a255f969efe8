import ClusterDriver.Text.Split
/-!
# Splitting

A text is cut at the first separator, split at all of them, or freed of an ending. Each of these
says exactly how the text was put together.
-/
namespace ClusterDriver.Text
variable {sep : Char} {cs front back ending : List Char}

theorem cut_eq_none : cut? sep cs = none ↔ sep ∉ cs := by
  induction cs with
  | nil => simp [cut?]
  | cons c rest ih =>
    rw [cut?]
    by_cases h : c = sep
    · simp [h]
    · simp [h, ih, Ne.symm h]

theorem cut_append (absent : sep ∉ front) (back : List Char) :
    cut? sep (front ++ sep :: back) = some (front, back) := by
  induction front with
  | nil => simp [cut?]
  | cons c front ih =>
    rw [List.mem_cons, not_or] at absent
    simp [cut?, Ne.symm absent.1, ih absent.2]

theorem eq_append_of_cut (cut : cut? sep cs = some (front, back)) :
    sep ∉ front ∧ cs = front ++ sep :: back := by
  induction cs generalizing front with
  | nil => cases cut
  | cons c rest ih =>
    rw [cut?] at cut
    split at cut
    · rename_i same
      cases cut
      exact ⟨List.not_mem_nil, by rw [same, List.nil_append]⟩
    · rename_i differ
      obtain ⟨⟨front, back⟩, later, pair⟩ := Option.map_eq_some_iff.1 cut
      cases pair
      obtain ⟨absent, rfl⟩ := ih later
      exact ⟨by simp [absent, Ne.symm differ], rfl⟩

theorem cut_eq_some :
    cut? sep cs = some (front, back) ↔ sep ∉ front ∧ cs = front ++ sep :: back := by
  refine ⟨eq_append_of_cut, ?_⟩
  rintro ⟨absent, rfl⟩
  exact cut_append absent back

/-- The first part ends at the first separator, and the others are the parts of what follows. -/
theorem parts_eq (sep : Char) (cs : List Char) : parts sep cs =
    match cut? sep cs with
    | none => [cs]
    | some (front, back) => front :: parts sep back := by
  induction cs with
  | nil => rfl
  | cons c rest ih =>
    rw [parts, cut?]
    by_cases h : c = sep
    · simp [h]
    · simp only [h, ↓reduceIte, ih]
      cases cut? sep rest with
      | none => rfl
      | some p => rfl

theorem parts_eq_singleton : parts sep cs = [front] ↔ sep ∉ front ∧ cs = front := by
  rw [parts_eq]
  cases cut : cut? sep cs with
  | none =>
    rw [cut_eq_none] at cut
    constructor
    · rintro ⟨⟩
      exact ⟨cut, rfl⟩
    · rintro ⟨_, rfl⟩
      rfl
  | some p =>
    obtain ⟨_, rfl⟩ := cut_eq_some.1 cut
    constructor
    · intro single
      exact absurd (List.cons.inj single).2 (parts_ne_nil sep _)
    · rintro ⟨absent, rfl⟩
      simp at absent

theorem parts_eq_cons_cons {part : List Char} {rest : List (List Char)} :
    parts sep cs = front :: part :: rest ↔
      sep ∉ front ∧ ∃ back, cs = front ++ sep :: back ∧ parts sep back = part :: rest := by
  rw [parts_eq]
  cases cut : cut? sep cs with
  | none =>
    rw [cut_eq_none] at cut
    constructor
    · rintro ⟨⟩
    · rintro ⟨_, back, rfl, _⟩
      simp at cut
  | some p =>
    rw [List.cons.injEq]
    constructor
    · rintro ⟨rfl, later⟩
      obtain ⟨absent, same⟩ := cut_eq_some.1 cut
      exact ⟨absent, p.2, same, later⟩
    · rintro ⟨absent, back, rfl, later⟩
      rw [cut_append absent back] at cut
      cases cut
      exact ⟨rfl, later⟩

/-- The parts of a text are what it is made of with separators between, none of which is in a
part. -/
theorem parts_eq_iff {ps : List (List Char)} :
    parts sep cs = ps ↔ ps ≠ [] ∧ (∀ p ∈ ps, sep ∉ p) ∧ cs = [sep].intercalate ps := by
  induction ps generalizing cs with
  | nil => simp [parts_ne_nil]
  | cons p ps ih =>
    cases ps with
    | nil => simp [parts_eq_singleton]
    | cons q ps =>
      simp only [parts_eq_cons_cons, ih, List.intercalate_cons_cons, List.forall_mem_cons]
      constructor
      · rintro ⟨absent, back, rfl, _, later, rfl⟩
        exact ⟨by simp, ⟨absent, later⟩, by simp⟩
      · rintro ⟨_, ⟨absent, later⟩, rfl⟩
        exact ⟨absent, _, by simp, by simp, later, rfl⟩

/-- Induction on what stands before the separators, the first one first. -/
theorem cut_induction (sep : Char) {P : List Char → Prop} (uncut : ∀ cs, sep ∉ cs → P cs)
    (cut : ∀ front back, sep ∉ front → P back → P (front ++ sep :: back)) (cs : List Char) :
    P cs := by
  induction h : cs.length using Nat.strongRecOn generalizing cs with | _ n ih
  cases at_first : cut? sep cs with
  | none => exact uncut cs (cut_eq_none.1 at_first)
  | some p =>
    obtain ⟨absent, same⟩ := cut_eq_some.1 at_first
    have shorter : p.2.length < n := by
      rw [← h, same, List.length_append, List.length_cons]
      omega
    rw [same]
    exact cut p.1 p.2 absent (ih _ shorter p.2 rfl)

/-- Text after a separator only adds parts. -/
theorem parts_append (sep : Char) (front back : List Char) :
    parts sep (front ++ sep :: back) = parts sep front ++ parts sep back := by
  induction front with
  | nil => simp [parts]
  | cons c front ih =>
    rw [List.cons_append, parts, parts]
    by_cases h : c = sep
    · simp [h, ih]
    · rw [if_neg h, if_neg h, ih]
      cases first : parts sep front with
      | nil => exact absurd first (parts_ne_nil sep front)
      | cons p ps => rfl

theorem withoutEnding_eq_some : withoutEnding? ending cs = some front ↔ cs = front ++ ending := by
  rw [withoutEnding?]
  constructor
  · intro h
    split at h
    · rename_i ends
      obtain ⟨rest, rfl⟩ := List.isSuffixOf_iff_suffix.1 ends
      cases h
      simp
    · cases h
  · rintro rfl
    simp

theorem withoutEnding_eq_none : withoutEnding? ending cs = none ↔ ¬ ending <:+ cs := by
  simp [withoutEnding?]

end ClusterDriver.Text
