import ClusterDriver.Registry.WaitGraph
import Mathlib.Logic.Relation
import Mathlib.Data.Set.Finite.Basic
/-!
# Cycles of waiting threads

A thread waits for the builder of the cell that it waits for. Where no thread waits for itself
through others, the walk from a cell finds the caller exactly when the builders and their waits lead
there, so a wait that is let through closes no cycle.
-/
namespace ClusterDriver.WaitGraph
open Relation
variable {T C : Type} [DecidableEq T] [DecidableEq C]

/-- `t` is registered to wait for a cell that `u` is registered to build. -/
def Waits (g : WaitGraph T C) (t u : T) : Prop :=
  ∃ c, g.waiting.get? t = some c ∧ g.building.get? c = some u

def Acyclic (g : WaitGraph T C) : Prop := ∀ t, ¬ TransGen g.Waits t t

variable {g g' : WaitGraph T C} {caller t u v : T} {c : C}

theorem Acyclic.of_subgraph (acyclic : g.Acyclic) (sub : ∀ t u, g'.Waits t u → g.Waits t u) :
    g'.Acyclic :=
  fun t cycle => acyclic t (TransGen.mono sub t t cycle)

/-- Finitely many threads wait, so without a cycle every chain of waits comes to an end. -/
theorem Acyclic.wellFounded (acyclic : g.Acyclic) : WellFounded fun u t => g.Waits t u := by
  have source : ∀ t u, g.Waits t u → t ∈ g.waiting.keys := by
    rintro t u ⟨c, hc, _⟩
    exact Table.mem_keys_of_get? hc
  let later : {t // t ∈ g.waiting.keys} → {t // t ∈ g.waiting.keys} → Prop :=
    fun u t => TransGen g.Waits t.1 u.1
  have : Finite {t // t ∈ g.waiting.keys} := (List.finite_toSet g.waiting.keys).to_subtype
  have : IsTrans _ later := ⟨fun _ _ _ hab hbc => hbc.trans hab⟩
  have : Std.Irrefl later := ⟨fun t cycle => acyclic t.1 cycle⟩
  have ends : WellFounded later := Finite.wellFounded_of_trans_of_irrefl later
  have waiting : ∀ t : {t // t ∈ g.waiting.keys}, Acc (fun u t => g.Waits t u) t.1 := by
    intro t
    induction t using ends.induction with
    | _ t ih =>
      constructor
      intro u edge
      by_cases hu : u ∈ g.waiting.keys
      · exact ih ⟨u, hu⟩ (.single edge)
      · exact ⟨u, fun v next => absurd (source u v next) hu⟩
  constructor
  intro t
  exact ⟨t, fun u edge => (waiting ⟨t, source t u edge⟩).inv edge⟩

/-- A chain is found only if the builders and their waits lead from the cell to the caller. -/
theorem waits_of_walk {path chain : List C} {seen : List T} {next : C}
    (found : g.walk caller path seen next = some chain) :
    ∃ builder, g.building.get? next = some builder ∧ ReflTransGen g.Waits builder caller := by
  fun_induction walk g caller path seen next with
  | case1 path seen next unbuilt => cases found
  | case2 path seen next onStack built => exact ⟨caller, built, .refl⟩
  | case3 path seen next offStack built => cases found
  | case4 path seen next builder built other again => cases found
  | case5 path seen next builder built other new idle => cases found
  | case6 path seen next builder built other new cell waiting ih =>
    obtain ⟨u, hu, path⟩ := ih found
    exact ⟨builder, built, .head ⟨cell, waiting, hu⟩ path⟩

/-- Where no thread waits for itself, the walk never stops at a builder that it has seen, so it
gets to the caller. -/
theorem walk_isSome (acyclic : g.Acyclic)
    (onStack : ∀ c, g.building.get? c = some caller → c ∈ g.stack caller)
    {path : List C} {seen : List T} {next : C} {builder : T}
    (built : g.building.get? next = some builder) (leads : ReflTransGen g.Waits builder caller)
    (before : ∀ s ∈ seen, TransGen g.Waits s builder) :
    ∃ chain, g.walk caller path seen next = some chain := by
  fun_induction walk g caller path seen next generalizing builder with
  | case1 path seen next unbuilt =>
    rw [unbuilt] at built
    cases built
  | case2 path seen next found own => exact ⟨_, rfl⟩
  | case3 path seen next offStack own => exact absurd (onStack next own) offStack
  | case4 path seen next other own _ again =>
    have same : other = builder := Option.some.inj (own.symm.trans built)
    exact absurd (before builder (same ▸ again)) (acyclic builder)
  | case5 path seen next other own away _ idle =>
    have same : other = builder := Option.some.inj (own.symm.trans built)
    subst same
    rcases leads.cases_head with heq | ⟨u, ⟨c, waiting, _⟩, _⟩
    · exact absurd heq away
    · rw [idle] at waiting
      cases waiting
  | case6 path seen next other own away _ cell waiting ih =>
    have same : other = builder := Option.some.inj (own.symm.trans built)
    subst same
    rcases leads.cases_head with heq | ⟨u, edge, rest⟩
    · exact absurd heq away
    · obtain ⟨c, hc, hu⟩ := edge
      have hcell : c = cell := Option.some.inj (hc.symm.trans waiting)
      subst hcell
      refine ih hu rest ?_
      intro s hs
      rcases List.mem_cons.1 hs with rfl | hs
      · exact .single ⟨c, hc, hu⟩
      · exact (before s hs).tail ⟨c, hc, hu⟩

/-- A request is refused only if its cell is being built by a thread that waits, directly or
through others, for the caller, or by the caller itself. -/
theorem waits_of_closing {cell : C} {chain : List C}
    (onStack : ∀ c, g.building.get? c = some caller ↔ c ∈ g.stack caller)
    (closes : g.closing? caller cell = some chain) :
    ∃ builder, g.building.get? cell = some builder ∧ ReflTransGen g.Waits builder caller := by
  unfold closing? at closes
  split at closes
  · next own => exact ⟨caller, (onStack cell).2 own, .refl⟩
  · exact waits_of_walk closes

theorem not_waits_of_closing_none {cell : C} (acyclic : g.Acyclic)
    (onStack : ∀ c, g.building.get? c = some caller → c ∈ g.stack caller)
    (allowed : g.closing? caller cell = none) {builder : T}
    (built : g.building.get? cell = some builder) :
    ¬ ReflTransGen g.Waits builder caller := by
  intro leads
  unfold closing? at allowed
  split at allowed
  · cases allowed
  · have found : ∃ chain, g.walk caller [cell] [] cell = some chain :=
      walk_isSome acyclic onStack built leads fun _ hs => absurd hs List.not_mem_nil
    obtain ⟨chain, found⟩ := found
    rw [allowed] at found
    cases found

/-- A path on which only the edges from `t` are new is an old one, or it gets to `t` by old edges
first. -/
theorem reflTransGen_of_new_source {R R' : T → T → Prop} {t : T}
    (old : ∀ u v, u ≠ t → R' u v → R u v) {u v : T} (path : ReflTransGen R' u v) :
    ReflTransGen R u v ∨
      ReflTransGen R u t ∧ ReflTransGen R' u t ∧ ReflTransGen R' t v := by
  induction path using ReflTransGen.head_induction_on with
  | refl => exact Or.inl .refl
  | @head u w edge rest ih =>
    by_cases hu : u = t
    · subst hu
      exact Or.inr ⟨.refl, .refl, .head edge rest⟩
    · have edge' := old u w hu edge
      rcases ih with direct | ⟨first, first', later⟩
      · exact Or.inl (.head edge' direct)
      · exact Or.inr ⟨.head edge' first, .head edge first', later⟩

theorem acyclic_wait (acyclic : g.Acyclic)
    (onStack : ∀ c, g.building.get? c = some t → c ∈ g.stack t)
    (allowed : g.closing? t c = none) : (g.wait t c).Acyclic := by
  have old : ∀ u v, u ≠ t → (g.wait t c).Waits u v → g.Waits u v := by
    rintro u v hu ⟨d, hd, hv⟩
    exact ⟨d, by simpa [wait, Table.get?_insert_of_ne _ (Ne.symm hu)] using hd, hv⟩
  have unreached : ∀ v, (g.wait t c).Waits t v → ¬ ReflTransGen g.Waits v t := by
    rintro v ⟨d, hd, hv⟩
    have hdc : d = c := by simpa [wait, eq_comm] using hd
    subst hdc
    exact not_waits_of_closing_none acyclic onStack allowed hv
  -- A cycle through `t` would lead from the new edge back to `t` by old edges.
  have around : ¬ TransGen (g.wait t c).Waits t t := by
    intro cycle
    obtain ⟨v, edge, rest⟩ := TransGen.head'_iff.1 cycle
    rcases reflTransGen_of_new_source old rest with direct | ⟨first, _, _⟩
    · exact unreached v edge direct
    · exact unreached v edge first
  intro u cycle
  obtain ⟨v, edge, rest⟩ := TransGen.head'_iff.1 cycle
  by_cases hu : u = t
  · exact around (hu ▸ cycle)
  · rcases reflTransGen_of_new_source old rest with direct | ⟨_, first, later⟩
    · exact acyclic u (.head' (old u v hu edge) direct)
    · exact around ((TransGen.tail' later edge).trans_left first)

theorem acyclic_stopWaiting (acyclic : g.Acyclic) (t : T) : (g.stopWaiting t).Acyclic := by
  refine acyclic.of_subgraph ?_
  rintro u v ⟨d, hd, hv⟩
  by_cases hu : u = t
  · subst hu
    simp [stopWaiting] at hd
  · exact ⟨d, by simpa [stopWaiting, Table.get?_erase_of_ne _ (Ne.symm hu)] using hd, hv⟩

theorem acyclic_leave (acyclic : g.Acyclic) (t : T) (c : C) : (g.leave t c).Acyclic := by
  refine acyclic.of_subgraph ?_
  rintro u v ⟨d, hd, hv⟩
  by_cases hdc : d = c
  · subst hdc
    simp [leave] at hv
  · exact ⟨d, hd, by simpa [leave, Table.get?_erase_of_ne _ (Ne.symm hdc)] using hv⟩

/-- A new builder waits for nothing, so no cycle passes through it. -/
theorem acyclic_enter (acyclic : g.Acyclic) (t : T) (c : C) : (g.enter t c).Acyclic := by
  have idle : ∀ v, ¬ (g.enter t c).Waits t v := by
    rintro v ⟨d, hd, _⟩
    simp [enter] at hd
  have old : ∀ u v, v ≠ t → (g.enter t c).Waits u v → g.Waits u v := by
    rintro u v hv ⟨d, hd, built⟩
    have hu : u ≠ t := by
      rintro rfl
      exact idle v ⟨d, hd, built⟩
    have hdc : c ≠ d := by
      rintro rfl
      exact hv (by simpa [enter, eq_comm] using built)
    exact ⟨d, by simpa [enter, Table.get?_erase_of_ne _ (Ne.symm hu)] using hd,
      by simpa [enter, Table.get?_insert_of_ne _ hdc] using built⟩
  have path : ∀ u v, v ≠ t → TransGen (g.enter t c).Waits u v → TransGen g.Waits u v := by
    intro u v hv h
    induction h with
    | single edge => exact .single (old _ _ hv edge)
    | @tail w v _ edge ih =>
      have hw : w ≠ t := fun heq => idle v (heq ▸ edge)
      exact .tail (ih hw) (old w v hv edge)
  intro u cycle
  have hu : u ≠ t := by
    rintro rfl
    obtain ⟨v, edge, _⟩ := TransGen.head'_iff.1 cycle
    exact idle v edge
  exact acyclic u (path u u hu cycle)

end ClusterDriver.WaitGraph
