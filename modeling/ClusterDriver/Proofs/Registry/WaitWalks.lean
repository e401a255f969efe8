import ClusterDriver.Registry.WaitGraph
import Mathlib.Data.List.Basic
/-!
# Walks through the wait graph

The search for a chain on any graph at all, whether its tables fit together or not. From the cell
that is asked for, the walk goes to what the builder of the cell waits for, and so on. It ends,
since every round but the last meets a builder for the first time, and it finds the caller exactly
if the caller is met before any builder is met twice. The chain is then a part of the caller's own
stack, followed by the walk.
-/
namespace ClusterDriver.WaitGraph
variable {T C : Type} [DecidableEq T] [DecidableEq C] {g : WaitGraph T C} {caller u : T}
  {x y c next : C} {cells path rest chain : List C} {builders seen : List T} {rounds : Nat}

/-- The builder of `x` waits for `y`. -/
def Awaits (g : WaitGraph T C) (x y : C) : Prop :=
  ∃ u, g.building.get? x = some u ∧ g.waiting.get? u = some y

/-- Each cell of the path is what the builder of the one before waits for, and no builder is met
twice on the way to the caller. -/
structure Leads (g : WaitGraph T C) (caller : T) (path : List C) (builders : List T) : Prop where
  built : path.map g.building.get? = builders.map some
  awaits : path.IsChain g.Awaits
  nodup : builders.Nodup
  arrives : builders.getLast? = some caller

theorem Leads.here (built : g.building.get? x = some caller) : g.Leads caller [x] [caller] where
  built := by simp [built]
  awaits := .singleton x
  nodup := by simp
  arrives := rfl

theorem Leads.cons (leads : g.Leads caller (y :: rest) builders)
    (built : g.building.get? x = some u) (waits : g.waiting.get? u = some y)
    (new : u ∉ builders) : g.Leads caller (x :: y :: rest) (u :: builders) where
  built := by rw [List.map_cons, leads.built, built, List.map_cons]
  awaits := .cons_cons ⟨u, built, waits⟩ leads.awaits
  nodup := List.nodup_cons.2 ⟨new, leads.nodup⟩
  arrives := by rw [List.getLast?_cons, leads.arrives, Option.getD_some]

theorem Leads.exists_builder (leads : g.Leads caller (x :: rest) builders) :
    ∃ u later, builders = u :: later ∧ g.building.get? x = some u := by
  have built := leads.built
  cases builders with
  | nil => cases leads.arrives
  | cons u later => exact ⟨u, later, rfl, by simpa using (List.cons.inj built).1⟩

/-- The walk stops where it meets the caller. -/
theorem Leads.stops (leads : g.Leads caller (x :: rest) builders)
    (built : g.building.get? x = some caller) : rest = [] := by
  obtain ⟨u, later, rfl, built'⟩ := leads.exists_builder
  obtain rfl := Option.some.inj (built.symm.trans built')
  have alone : later = [] := by
    by_contra more
    have arrives := leads.arrives
    rw [List.getLast?_cons_of_ne_nil more] at arrives
    exact (List.nodup_cons.1 leads.nodup).1 (List.mem_of_getLast? arrives)
  have places := (List.cons.inj leads.built).2
  rw [alone] at places
  exact List.map_eq_nil_iff.1 places

/-- Where it meets another thread, it goes on to what this thread waits for. -/
theorem Leads.goes_on (leads : g.Leads caller (x :: rest) builders)
    (built : g.building.get? x = some u) (other : u ≠ caller) :
    ∃ y rest' builders', rest = y :: rest' ∧ builders = u :: builders' ∧ u ∉ builders' ∧
      g.waiting.get? u = some y ∧ g.Leads caller (y :: rest') builders' := by
  obtain ⟨v, later, rfl, built'⟩ := leads.exists_builder
  obtain rfl := Option.some.inj (built.symm.trans built')
  have places := (List.cons.inj leads.built).2
  have nodup := List.nodup_cons.1 leads.nodup
  cases rest with
  | nil =>
    obtain rfl : later = [] := by simpa using places.symm
    exact absurd (Option.some.inj leads.arrives) other
  | cons y rest =>
    obtain ⟨⟨v, built'', waits⟩, awaits⟩ := List.isChain_cons_cons.1 leads.awaits
    obtain rfl := Option.some.inj (built.symm.trans built'')
    have more : later ≠ [] := by
      rintro rfl
      simp at places
    have arrives := leads.arrives
    rw [List.getLast?_cons_of_ne_nil more] at arrives
    exact ⟨y, rest, later, rfl, rfl, nodup.1, waits, places, awaits, nodup.2, arrives⟩

/-- What the walk finds, after it has met the builders `seen` on the cells of `path`. -/
theorem walk_eq_some (away : caller ∉ seen) : g.walk caller path seen next = some chain ↔
    ∃ rest builders last, g.Leads caller (next :: rest) builders ∧ builders.Disjoint seen ∧
      (next :: rest).getLast? = some last ∧ last ∈ g.stack caller ∧
      chain = since last (g.stack caller) ++ (path ++ rest) := by
  fun_induction walk g caller path seen next with
  | case1 path seen next unbuilt =>
    refine ⟨fun found => absurd found (by simp), ?_⟩
    rintro ⟨rest, builders, last, leads, _⟩
    obtain ⟨u, _, _, built⟩ := leads.exists_builder
    cases unbuilt.symm.trans built
  | case2 path seen next onStack built =>
    rw [Option.some_inj]
    constructor
    · rintro rfl
      exact ⟨[], [caller], next, .here built, by simpa using away, rfl, onStack, by simp⟩
    · rintro ⟨rest, builders, last, leads, _, ends, _, rfl⟩
      obtain rfl := leads.stops built
      obtain rfl := Option.some.inj ends
      simp
  | case3 path seen next offStack built =>
    refine ⟨fun found => absurd found (by simp), ?_⟩
    rintro ⟨rest, builders, last, leads, _, ends, onStack, _⟩
    obtain rfl := leads.stops built
    obtain rfl := Option.some.inj ends
    exact absurd onStack offStack
  | case4 path seen next builder built other again =>
    refine ⟨fun found => absurd found (by simp), ?_⟩
    rintro ⟨rest, builders, last, leads, apart, _⟩
    obtain ⟨_, _, builders', _, rfl, _⟩ := leads.goes_on built other
    exact absurd again (apart List.mem_cons_self)
  | case5 path seen next builder built other new idle =>
    refine ⟨fun found => absurd found (by simp), ?_⟩
    rintro ⟨rest, builders, last, leads, _⟩
    obtain ⟨_, _, _, _, _, _, waits, _⟩ := leads.goes_on built other
    cases idle.symm.trans waits
  | case6 path seen next builder built other new cell waits ih =>
    rw [ih (by simp [away, Ne.symm other])]
    constructor
    · rintro ⟨rest, builders, last, leads, apart, ends, onStack, rfl⟩
      rw [List.disjoint_cons_right] at apart
      refine ⟨cell :: rest, builder :: builders, last, leads.cons built waits apart.1, ?_,
        by simpa using ends, onStack, by simp⟩
      exact List.disjoint_cons_left.2 ⟨new, apart.2⟩
    · rintro ⟨rest, builders, last, leads, apart, ends, onStack, rfl⟩
      obtain ⟨y, rest, builders, rfl, rfl, fresh, waits', later⟩ := leads.goes_on built other
      obtain rfl := Option.some.inj (waits.symm.trans waits')
      refine ⟨rest, builders, last, later, ?_, by simpa using ends, onStack, by simp⟩
      exact List.disjoint_cons_right.2 ⟨fresh, (List.disjoint_cons_left.1 apart).2⟩

/-- The walk, given up after some number of rounds. -/
def walkWithin (g : WaitGraph T C) (caller : T) :
    Nat → List C → List T → C → Option (Option (List C))
  | 0, _, _, _ => none
  | rounds + 1, path, seen, next =>
    match g.building.get? next with
    | none => some none
    | some builder =>
      if builder = caller then
        some (if next ∈ g.stack caller then some (since next (g.stack caller) ++ path) else none)
      else if builder ∈ seen then some none
      else
        match g.waiting.get? builder with
        | none => some none
        | some cell => g.walkWithin caller rounds (path ++ [cell]) (builder :: seen) cell

/-- Every round but the last uses up a builder that was not seen before. -/
theorem walkWithin_eq
    (enough : (g.building.values.filter fun u => u ∉ seen).length < rounds) :
    g.walkWithin caller rounds path seen next = some (g.walk caller path seen next) := by
  induction rounds generalizing path seen next with
  | zero => exact absurd enough (Nat.not_lt_zero _)
  | succ rounds ih =>
    rw [walkWithin, walk]
    cases built : g.building.get? next with
    | none => rfl
    | some builder =>
      by_cases own : builder = caller
      · simp [own]
      · by_cases again : builder ∈ seen
        · simp [own, again]
        · cases waits : g.waiting.get? builder with
          | none => simp [own, again, waits]
          | some cell =>
            have fewer := length_filter_cons_lt (Table.mem_values_of_get? built) again
            simpa [own, again, waits] using ih (by omega)

/-- What is taken of a stack begins at the first occurrence of the cell. -/
theorem since_split (among : c ∈ cells) : ∃ before rest, c ∉ before ∧
    cells = before ++ c :: rest ∧ since c cells = c :: rest := by
  induction cells with
  | nil => cases among
  | cons d rest ih =>
    by_cases here : d = c
    · subst here
      exact ⟨[], rest, List.not_mem_nil, rfl, if_pos rfl⟩
    · obtain ⟨before, rest', absent, rfl, same⟩ :=
        ih (List.mem_of_ne_of_mem (Ne.symm here) among)
      exact ⟨d :: before, rest', by simp [absent, Ne.symm here], rfl, (if_neg here).trans same⟩

theorem since_append {before : List C} (absent : c ∉ before) :
    since c (before ++ c :: rest) = c :: rest := by
  induction before with
  | nil => exact if_pos rfl
  | cons d before ih =>
    rw [List.mem_cons, not_or] at absent
    rw [List.cons_append, since, if_neg (Ne.symm absent.1), ih absent.2]

/-- What a request closes: the part of the caller's stack from the first occurrence of some cell
on, and then a path from the requested cell to the same cell. This is the requested cell alone if it
is on the stack, else a path that leads to the caller. -/
def Closes (g : WaitGraph T C) (caller : T) (c : C) (chain : List C) : Prop :=
  ∃ before own last path, chain = last :: own ++ path ∧
    g.stack caller = before ++ last :: own ∧ last ∉ before ∧
    path.head? = some c ∧ path.getLast? = some last ∧
    (c ∈ g.stack caller ∧ path = [c] ∨
      c ∉ g.stack caller ∧ ∃ builders, g.Leads caller path builders)

theorem closing_eq_some : g.closing? caller c = some chain ↔ g.Closes caller c chain := by
  rw [closing?]
  by_cases own : c ∈ g.stack caller
  · rw [if_pos own, Option.some_inj]
    constructor
    · rintro rfl
      obtain ⟨before, rest, absent, split, same⟩ := since_split own
      exact ⟨before, rest, c, [c], by rw [same], split, absent, rfl, rfl, Or.inl ⟨own, rfl⟩⟩
    · rintro ⟨before, rest, last, path, rfl, split, absent, _, ends, alone⟩
      obtain ⟨_, rfl⟩ := alone.resolve_right fun away => away.1 own
      obtain rfl : c = last := by simpa using ends
      rw [split, since_append absent]
  · rw [if_neg own, walk_eq_some List.not_mem_nil]
    constructor
    · rintro ⟨rest, builders, last, leads, _, ends, onStack, rfl⟩
      obtain ⟨before, above, absent, split, same⟩ := since_split onStack
      exact ⟨before, above, last, c :: rest, by rw [same]; rfl, split, absent, rfl, ends,
        Or.inr ⟨own, builders, leads⟩⟩
    · rintro ⟨before, above, last, path, rfl, split, absent, starts, ends, walked⟩
      obtain ⟨_, builders, leads⟩ := walked.resolve_left fun alone => own alone.1
      obtain ⟨rest, rfl⟩ := List.head?_eq_some_iff.1 starts
      refine ⟨rest, builders, last, leads, List.disjoint_nil_right _, ends, ?_, ?_⟩
      · simp [split]
      · rw [split, since_append absent]
        rfl

/-- The search for a chain, on any graph. It answers after at most one round more than cells are
being built. What it finds is exactly what the request closes. It finds something exactly if the
caller is building the cell itself, or the builders and their waits lead from the cell to the
caller, with no builder twice, at a cell that is on the caller's stack. A chain begins and ends with
the same cell. -/
theorem search_exact (g : WaitGraph T C) (caller : T) (c : C) :
    (c ∉ g.stack caller →
      g.walkWithin caller (g.building.values.length + 1) [c] [] c = some (g.closing? caller c)) ∧
    (∀ chain, g.closing? caller c = some chain ↔ g.Closes caller c chain) ∧
    ((∃ chain, g.closing? caller c = some chain) ↔ c ∈ g.stack caller ∨
      ∃ path builders last, path.head? = some c ∧ g.Leads caller path builders ∧
        path.getLast? = some last ∧ last ∈ g.stack caller) ∧
    ∀ chain, g.closing? caller c = some chain →
      2 ≤ chain.length ∧ chain.head? = chain.getLast? := by
  refine ⟨fun away => ?_, fun chain => closing_eq_some, ⟨?_, ?_⟩, fun chain closes => ?_⟩
  · rw [closing?, if_neg away]
    exact walkWithin_eq (Nat.lt_succ_of_le (List.length_filter_le _ _))
  · rintro ⟨chain, closes⟩
    obtain ⟨before, own, last, path, _, split, _, starts, ends, walked⟩ := closing_eq_some.1 closes
    rcases walked with ⟨onStack, _⟩ | ⟨_, builders, leads⟩
    · exact Or.inl onStack
    · exact Or.inr ⟨path, builders, last, starts, leads, ends, by simp [split]⟩
  · rintro (onStack | ⟨path, builders, last, starts, leads, ends, onStack⟩)
    · exact ⟨_, if_pos onStack⟩
    · by_cases own : c ∈ g.stack caller
      · exact ⟨_, if_pos own⟩
      · obtain ⟨before, above, absent, split, _⟩ := since_split onStack
        exact ⟨_, closing_eq_some.2 ⟨before, above, last, path, rfl, split, absent, starts, ends,
          Or.inr ⟨own, builders, leads⟩⟩⟩
  · obtain ⟨before, own, last, path, rfl, _, _, starts, ends, _⟩ := closing_eq_some.1 closes
    obtain ⟨rest, rfl⟩ := List.head?_eq_some_iff.1 starts
    constructor
    · rw [List.length_append, List.length_cons, List.length_cons]
      omega
    · rw [List.getLast?_append, ends]
      rfl

/-- Threads 1 and 2 wait for each other, thread 3 waits for thread 0. -/
def aside : WaitGraph Nat Char where
  building := .ofList [('a', 0), ('b', 1), ('c', 2), ('d', 3)]
  waiting := .ofList [(1, 'c'), (2, 'b'), (3, 'a')]
  frames := .ofList [(0, ['a'])]

theorem aside_searched : aside.closing? 0 'b' = none ∧ aside.closing? 0 'd' = some ['a', 'd', 'a'] ∧
    ['a', 'd', 'a'].head? = ['a', 'd', 'a'].getLast? := by
  obtain ⟨ends, _⟩ := search_exact aside 0 'b'
  obtain ⟨_, exact, _, closed⟩ := search_exact aside 0 'd'
  have leads : aside.Leads 0 ['d', 'a'] [3, 0] :=
    (Leads.here (by decide)).cons (by decide) (by decide) (by decide)
  have found : aside.closing? 0 'd' = some ['a', 'd', 'a'] :=
    (exact _).2 ⟨[], [], 'a', ['d', 'a'], rfl, by decide, by decide, rfl, rfl,
      Or.inr ⟨by decide, [3, 0], leads⟩⟩
  refine ⟨Option.some.inj ((ends (by decide)).symm.trans ?_), found, (closed _ found).2⟩
  decide

end ClusterDriver.WaitGraph
