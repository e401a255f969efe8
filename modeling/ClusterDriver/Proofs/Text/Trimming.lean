import ClusterDriver.Text.Blank
import Mathlib.Data.List.DropRight
/-!
# Trimming

Trimming takes the blanks off both ends of a text. What is left is the one part of the text that
neither starts nor ends with a blank and has nothing but blanks around it.
-/
namespace ClusterDriver.Text
variable {cs t before after : List Char}

/-- Nothing but blank characters. -/
def Blanks (cs : List Char) : Prop := ∀ c ∈ cs, isBlank c = true

instance (cs : List Char) : Decidable (Blanks cs) :=
  List.decidableBAll (fun c => isBlank c = true) cs

/-- It neither starts nor ends with a blank. -/
def Bare (cs : List Char) : Prop :=
  (∀ c ∈ cs.head?, isBlank c = false) ∧ ∀ c ∈ cs.getLast?, isBlank c = false

theorem bare_of_ends {c d : Char} (first : cs.head? = some c) (last : cs.getLast? = some d)
    (opens : isBlank c = false) (closes : isBlank d = false) : Bare cs := by
  constructor
  · rw [first]
    rintro _ ⟨⟩
    exact opens
  · rw [last]
    rintro _ ⟨⟩
    exact closes

theorem trimStart_append (blank : Blanks before) (cs : List Char) :
    trimStart (before ++ cs) = trimStart cs :=
  List.dropWhile_append_of_pos blank

theorem trimEnd_append (cs : List Char) (blank : Blanks after) :
    trimEnd (cs ++ after) = trimEnd cs := by
  rw [trimEnd, trimEnd, List.reverse_append,
    List.dropWhile_append_of_pos fun c among => blank c (List.mem_reverse.1 among)]

theorem trimStart_eq_self (opens : ∀ c ∈ cs.head?, isBlank c = false) : trimStart cs = cs := by
  cases cs with
  | nil => rfl
  | cons c rest => exact List.dropWhile_cons_of_neg (by simp [opens c rfl])

theorem trimEnd_eq_self (ends : ∀ c ∈ cs.getLast?, isBlank c = false) : trimEnd cs = cs := by
  refine List.rdropWhile_eq_self_iff.2 fun nonempty => ?_
  simp [ends _ (List.getLast?_eq_some_getLast nonempty)]

theorem trim_of_bare (bare : Bare t) : trim t = t := by
  rw [trim, trimStart_eq_self bare.1, trimEnd_eq_self bare.2]

/-- Blanks around a text do not count. -/
theorem trim_padded (front : Blanks before) (bare : Bare t) (back : Blanks after) :
    trim (before ++ t ++ after) = t := by
  rw [trim, List.append_assoc, trimStart_append front]
  cases t with
  | nil =>
    have nothing : trimStart after = [] := List.dropWhile_eq_nil_iff.2 back
    rw [List.nil_append, nothing]
    rfl
  | cons c rest =>
    rw [@trimStart_eq_self (c :: rest ++ after) bare.1, trimEnd_append _ back,
      trimEnd_eq_self bare.2]

theorem trim_eq_rdropWhile (cs : List Char) : trim cs = (trimStart cs).rdropWhile isBlank := rfl

theorem bare_trim (cs : List Char) : Bare (trim cs) := by
  rw [trim_eq_rdropWhile]
  constructor
  · intro c first
    obtain ⟨rest, whole⟩ := List.rdropWhile_prefix isBlank (trimStart cs)
    have opens : (cs.dropWhile isBlank).head? = some c := by
      rw [← trimStart, ← whole, List.head?_append, Option.mem_def.1 first, Option.some_or]
    have stops := List.head?_dropWhile_not isBlank cs
    rw [opens] at stops
    simpa using stops
  · intro c last
    have nonempty : (trimStart cs).rdropWhile isBlank ≠ [] := by
      intro h
      simp [h] at last
    have stops := List.rdropWhile_last_not isBlank (trimStart cs) nonempty
    rw [List.getLast?_eq_some_getLast nonempty, Option.mem_some_iff] at last
    rw [← last]
    simpa using stops

theorem exists_padding (cs : List Char) :
    ∃ before after, Blanks before ∧ Blanks after ∧ cs = before ++ trim cs ++ after := by
  refine ⟨cs.takeWhile isBlank, (trimStart cs).rtakeWhile isBlank,
    fun c among => List.mem_takeWhile_imp among, fun c among => List.mem_rtakeWhile_imp among, ?_⟩
  rw [trim_eq_rdropWhile, List.append_assoc, List.rdropWhile_append_rtakeWhile]
  exact List.takeWhile_append_dropWhile.symm

/-- Blanks around a text do not count, whatever the text. -/
theorem trim_blanks (front : Blanks before) (back : Blanks after) :
    trim (before ++ cs ++ after) = trim cs := by
  obtain ⟨first, last, opens, closes, same⟩ := exists_padding cs
  have whole : before ++ cs ++ after = before ++ first ++ trim cs ++ (last ++ after) := by
    nth_rewrite 1 [same]
    simp only [List.append_assoc]
  rw [whole]
  refine trim_padded ?_ (bare_trim cs) ?_
  · exact fun c among => (List.mem_append.1 among).elim (front c) (opens c)
  · exact fun c among => (List.mem_append.1 among).elim (closes c) (back c)

end ClusterDriver.Text
