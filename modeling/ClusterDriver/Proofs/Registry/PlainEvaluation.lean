import ClusterDriver.Proofs.Registry.Histories
import Mathlib.Data.Fintype.EquivFin
/-!
# Plain evaluation

What cells whose builders are deterministic would be without any sharing: the builder of a cell is
run, and every request that it makes is evaluated again, by running that builder. This ends if no
cell can come to ask for itself. Threads that share the cells get the same outcomes in every
interleaving, with detection on or off, and run the same builders, each of them once.
-/
namespace ClusterDriver
open Relation

/-- What a deterministic builder does: each request is chosen by the answers so far. -/
inductive Recipe (C α : Type) where
  | value (value : α)
  | failure (failure : Failure)
  | request (cell : C) (next : Except AccessError α → Recipe C α)

namespace Recipe
variable {C α : Type}

/-- The cell is asked for if the answers before that are certain ones. -/
inductive MayRequest (d : C) : Recipe C α → Prop
  | now {next} : MayRequest d (.request d next)
  | later {c next} (result) (rest : MayRequest d (next result)) : MayRequest d (.request c next)

/-- The outcome, and the cells whose builders were run for it, in their order. -/
def evaluate : (recipe : Recipe C α) →
    (∀ d, recipe.MayRequest d → Except AccessError α × List C) → Except Failure α × List C
  | .value v, _ => (.ok v, [])
  | .failure f, _ => (.error f, [])
  | .request d next, answer =>
    let asked := answer d .now
    let rest := (next asked.1).evaluate fun e h => answer e (.later asked.1 h)
    (rest.1, asked.2 ++ rest.2)

end Recipe

/-- A recipe for each cell, such that no cell can come to ask for itself through others. -/
structure Blueprint (C α : Type) where
  label : C → String
  recipe : C → Recipe C α
  acyclic : ∀ c, ¬ TransGen (fun a b => (recipe a).MayRequest b) c c

namespace Blueprint
variable {C α : Type}

theorem wellFounded [Finite C] (b : Blueprint C α) :
    WellFounded fun d c => (b.recipe c).MayRequest d := by
  let below : C → C → Prop := fun d c => TransGen (fun a b' => (b.recipe a).MayRequest b') c d
  have : IsTrans C below := ⟨fun _ _ _ h h' => h'.trans h⟩
  have : Std.Irrefl below := ⟨b.acyclic⟩
  exact Subrelation.wf (fun h => TransGen.single h) (Finite.wellFounded_of_trans_of_irrefl below)

/-- The outcome of a cell by plain recursion, attributed to the cell if it is a failure, and the
cells whose builders are run for it, one after the other. -/
def evaluate [Finite C] (b : Blueprint C α) (c : C) : Except AccessError α × List C :=
  let body := (b.recipe c).evaluate fun d _ => b.evaluate d
  (body.1.mapError fun failure => failure.attributedTo (b.label c), c :: body.2)
termination_by b.wellFounded.wrap c

/-- What is left of a recipe, evaluated plainly. -/
def remainder [Finite C] (b : Blueprint C α) (recipe : Recipe C α) :
    Except Failure α × List C :=
  recipe.evaluate fun d _ => b.evaluate d

theorem evaluate_eq [Finite C] (b : Blueprint C α) (c : C) :
    b.evaluate c =
      ((b.remainder (b.recipe c)).1.mapError fun failure => failure.attributedTo (b.label c),
        c :: (b.remainder (b.recipe c)).2) := by
  rw [evaluate]
  rfl

/-- `c` may ask for `d`, and the plain evaluation of `c` runs all that the one of `d` does. -/
def Uses [Finite C] (b : Blueprint C α) (c d : C) : Prop :=
  (b.recipe c).MayRequest d ∧ (b.evaluate d).2 ⊆ (b.evaluate c).2

variable [Finite C] {b : Blueprint C α} {c d : C}

theorem not_uses_self : ¬ TransGen b.Uses c c := fun cycle =>
  b.acyclic c (TransGen.mono (fun _ _ uses => uses.1) c c cycle)

theorem visited_of_uses (uses : ReflTransGen b.Uses c d) : d ∈ (b.evaluate c).2 := by
  induction uses using ReflTransGen.head_induction_on with
  | refl =>
    rw [evaluate_eq]
    exact List.mem_cons_self
  | head uses _ ih => exact uses.2 ih

/-- The outcome of a cell is that of its plain evaluation, and what this runs is complete. -/
def contract (b : Blueprint C α) : Contract C α where
  label := b.label
  depends := b.Uses
  admits known c result := result = (b.evaluate c).1 ∧ ∀ d ∈ (b.evaluate c).2, d ∈ known
  admits_mono sub admitted := ⟨admitted.1, fun d hd => sub (admitted.2 d hd)⟩
  admits_refusal _ _ _ cycle := absurd cycle not_uses_self

end Blueprint

/-- Makes the requests of the recipe and ends as it does, perhaps with other actions in between that
ask for nothing. -/
def Program.Follows {T C σ α : Type} : Program T C σ α → Recipe C α → Prop
  | .ok value, recipe => recipe = .value value
  | .fail failure, recipe => recipe = .failure failure
  | .get cell next, recipe =>
    ∃ next', recipe = .request cell next' ∧ ∀ result, (next result).Follows (next' result)
  | .look _ next, recipe => ∀ content, (next content).Follows recipe
  | .stack next, recipe => ∀ cells, (next cells).Follows recipe
  | .update _ next, recipe => ∀ thread shared, (next thread shared).Follows recipe
  | .await _ next, recipe => next.Follows recipe
  | .panic, _ | .replace _ _ _, _ => False

namespace Blueprint
variable {T C σ α : Type} [Finite C] {b : Blueprint C α} {c : C}

/-- What is left of a builder is left of the plain evaluation, and what this has run so far is
complete. -/
theorem keeps_of_follows {known : Set C} {p : Program T C σ α} {recipe : Recipe C α}
    (follows : p.Follows recipe)
    (outcome : (b.remainder recipe).1.mapError (fun f => f.attributedTo (b.label c)) =
      (b.evaluate c).1)
    (visits : (b.remainder recipe).2 ⊆ (b.evaluate c).2)
    (visited : ∀ d ∈ (b.evaluate c).2, d ∈ insert c known ∨ d ∈ (b.remainder recipe).2)
    (requests : ∀ d, recipe.MayRequest d → (b.recipe c).MayRequest d) :
    b.contract.Keeps known c p := by
  induction p generalizing recipe known with
  | ok value =>
    obtain rfl : recipe = .value value := follows
    exact ⟨outcome, fun d hd => (visited d hd).resolve_right List.not_mem_nil⟩
  | fail failure =>
    obtain rfl : recipe = .failure failure := follows
    exact ⟨outcome, fun d hd => (visited d hd).resolve_right List.not_mem_nil⟩
  | get d next ih =>
    obtain ⟨next', rfl, follows⟩ := follows
    have uses : b.Uses c d :=
      ⟨requests d .now, fun e he => visits (List.mem_append_left _ he)⟩
    refine ⟨uses, fun known' sub result admitted => ?_⟩
    obtain ⟨rfl, complete⟩ := admitted
    refine ih _ (follows _) outcome (fun e he => visits (List.mem_append_right _ he)) ?_
      fun e he => requests e (.later _ he)
    intro e he
    rcases visited e he with old | rest
    · exact Or.inl (Set.insert_subset_insert sub old)
    · rcases List.mem_append.1 rest with here | later
      · exact Or.inl (Set.mem_insert_of_mem c (complete e here))
      · exact Or.inr later
  | look d next ih =>
    exact fun content => ih content (follows content) outcome visits visited requests
  | stack next ih => exact fun cells => ih cells (follows cells) outcome visits visited requests
  | update change next ih =>
    exact fun thread shared =>
      ih thread shared (follows thread shared) outcome visits visited requests
  | await gate next ih => exact ih follows outcome visits visited requests
  | panic | replace _ _ _ _ _ => exact follows.elim

end Blueprint
namespace Machine
variable {T C σ α : Type} [DecidableEq T] [DecidableEq C] {m₀ : Machine T C σ α}

/-- The builders follow the blueprint, and the programs that first ask replace none of them. -/
structure OfBlueprint (m : Machine T C σ α) (b : Blueprint C α) : Prop where
  label : m.label = b.label
  callers : ∀ t program, m.threads.get? t = some (.run [] program) → program.Steady
  builders : ∀ c builder, m.cells c = .empty builder → builder.Follows (b.recipe c)

omit [DecidableEq C] in
theorem OfBlueprint.under [Finite C] {b : Blueprint C α} (of : m₀.OfBlueprint b) :
    m₀.Under b.contract where
  label := of.label
  callers := of.callers
  builders c builder hc := by
    have whole := b.evaluate_eq c
    refine Blueprint.keeps_of_follows (of.builders c builder hc) ?_ ?_ ?_ fun _ h => h
    · rw [whole]
    · rw [whole]
      exact List.subset_cons_self c _
    · rw [whole]
      intro d hd
      rcases List.mem_cons.1 hd with rfl | rest
      · exact Or.inl (Set.mem_insert d ∅)
      · exact Or.inr rest

/-- One cell holds a number, and the other the next one. -/
def successorRecipe : Bool → Recipe Bool Nat
  | false => .value 1
  | true => .request false fun
    | .ok value => .value (value + 1)
    | .error error => .failure (.ofAccess error)

theorem successorRecipe_request {a b : Bool} (h : (successorRecipe a).MayRequest b) :
    a = true ∧ b = false := by
  cases a with
  | false => cases h
  | true =>
    cases h with
    | now => exact ⟨rfl, rfl⟩
    | later result rest => cases result <;> cases rest

def successorBlueprint : Blueprint Bool Nat where
  label c := if c then "next" else "first"
  recipe := successorRecipe
  acyclic c cycle := by
    obtain ⟨_, first, _⟩ := TransGen.head'_iff.1 cycle
    obtain ⟨_, _, last⟩ := TransGen.tail'_iff.1 cycle
    have isTrue := (successorRecipe_request first).1
    rw [(successorRecipe_request last).2] at isTrue
    cases isTrue

def successorBuilder : Bool → Program Bool Bool Unit Nat
  | false => .ok 1
  | true => .get false fun
    | .ok value => .ok (value + 1)
    | .error error => .fail (.ofAccess error)

/-- Two threads ask for the second cell. -/
def sharing : Machine Bool Bool Unit Nat where
  label := successorBlueprint.label
  cells c := .empty (successorBuilder c)
  detector := { isEnabled := true }
  shared := ()
  threads := .ofList [(false, .run [] (.ask true)), (true, .run [] (.ask true))]

theorem sharing_thread {t : Bool} {thread : Thread Bool Bool Unit Nat}
    (found : sharing.threads.get? t = some thread) : thread = .run [] (.ask true) := by
  cases t <;> exact (Option.some.inj found).symm

theorem sharing_fresh : sharing.Fresh where
  cells c := ⟨successorBuilder c, rfl⟩
  graph := rfl
  threads _ _ found := ⟨.ask true, sharing_thread found⟩

theorem sharing_of_blueprint : sharing.OfBlueprint successorBlueprint where
  label := rfl
  callers t program found := by
    cases sharing_thread found
    exact Program.steady_ask true
  builders c builder hc := by
    cases hc
    cases c with
    | false => rfl
    | true =>
      refine ⟨_, rfl, fun result => ?_⟩
      cases result <;> rfl

/-- The first thread builds both cells, and then the second one is answered. -/
def inTurn : List Bool := List.replicate 19 false ++ List.replicate 3 true

end Machine
end ClusterDriver
