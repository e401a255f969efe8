import Mathlib.Data.List.Basic
/-!
# Growing lists

Schedules, operations, actions and events are lists that grow at the end. A place in a list that has
grown is the new one, or it was there before.
-/
namespace ClusterDriver
variable {ι : Type} {l before after : List ι} {x a : ι}

theorem concat_eq_append_cons_iff : l ++ [x] = before ++ a :: after ↔
    l = before ∧ x = a ∧ after = [] ∨ ∃ rest, after = rest ++ [x] ∧ l = before ++ a :: rest := by
  constructor
  · intro split
    rcases after.eq_nil_or_concat' with rfl | ⟨rest, last, rfl⟩
    · obtain ⟨same, new⟩ := List.append_inj' split rfl
      exact Or.inl ⟨same, List.singleton_inj.1 new, rfl⟩
    · rw [← List.cons_append, ← List.append_assoc] at split
      obtain ⟨earlier, new⟩ := List.append_inj' split rfl
      exact Or.inr ⟨rest, by rw [List.singleton_inj.1 new], earlier⟩
  · rintro (⟨rfl, rfl, rfl⟩ | ⟨rest, rfl, rfl⟩)
    · rfl
    · simp

end ClusterDriver
