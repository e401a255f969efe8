import ClusterDriver.Proofs.Context.Verdicts
import ClusterDriver.Proofs.Registry.Solo
/-!
# Builds by one thread

A thread is the only one to use a context. What it is building, it builds on its own stack; what its
builds come to depends on how far the cells have come, which is described for contexts in which no
build has failed.
-/
namespace ClusterDriver

namespace Build
variable {β γ : Type} {t : String} {k k' : Nat} {m m' m'' : ContextMachine} {b : β} {c : γ}
  {build : Build β} {f : β → Build γ} {id : ComponentId}

/-- By itself the thread comes to what the build goes on with. -/
def Yields (build : Build β) (t : String) (k : Nat) (m : ContextMachine) (b : β)
    (m' : ContextMachine) : Prop :=
  ∀ requests next, Machine.Comes t k (m.setThread t (.run requests (build next)))
    (m'.setThread t (.run requests (next b)))

theorem yields_pure (b : β) (m : ContextMachine) : (pure b : Build β).Yields t 0 m b m :=
  fun _ _ => .refl _

theorem Yields.bind (first : build.Yields t k m b m') (rest : (f b).Yields t k' m' c m'') :
    (build >>= f).Yields t (k + k') m c m'' :=
  fun requests next => (first requests _).trans (rest requests next)

theorem Yields.mono (yields : build.Yields t k m b m') (le : k ≤ k') :
    build.Yields t k' m b m' :=
  fun requests next => (yields requests next).mono le

theorem yields_update (change : String → ContextState → ContextState)
    (f : String → ContextState → β) (m : ContextMachine) :
    Yields (fun next => .update change fun thread s => next (f thread s)) t 1 m (f t m.shared)
      { m with shared := change t m.shared } :=
  fun _ _ => Machine.comes_update _ change _

/-- What an accessor makes of the answer of the cell. -/
def answered (id : ComponentId) (next : id.Value → ContextProgram) :
    Except AccessError Answer → ContextProgram
  | .error e => .fail (.ofAccess e)
  | .ok answer => match answer.value? id with
    | some value => next value
    | none => .panic

theorem answered_component (id : ComponentId) (next : id.Value → ContextProgram)
    (value : id.Value) : answered id next (.ok (.component id value)) = next value := by
  simp [answered]

theorem require_eq (id : ComponentId) (next : id.Value → ContextProgram) : require id next =
    .read fun _ s => if s.closed then .fail (.ofAccess .closed) else .get id (answered id next) := by
  refine congrArg Program.read (funext fun _ => funext fun s => ?_)
  by_cases closed : s.closed = true
  · simp [closed, pure, ofResult, raise]
  · simp only [closed]
    refine congrArg (Program.get id) (funext fun result => ?_)
    cases result with
    | error e => rfl
    | ok answer => cases h : answer.value? id <;> simp [answered, h, ofResult, pure]

/-- In an open context an accessor comes to the cell. -/
theorem comes_require (opened : m.shared.closed = false) (id : ComponentId)
    (requests : List ContextRequest) (next : id.Value → ContextProgram) :
    Machine.Comes t 1 (m.setThread t (.run requests (require id next)))
      (m.setThread t (.run requests (.get id (answered id next)))) := by
  have reads := Machine.comes_read (m := m) (t := t) requests
    fun _ s => if s.closed then .fail (.ofAccess .closed) else .get id (answered id next)
  rw [opened] at reads
  rw [require_eq]
  exact reads

/-- Of two ways to go on, the one taken in an open context. -/
theorem yields_unlessClosed (whenClosed : Build β) (opened : m.shared.closed = false)
    (yields : build.Yields t k m b m') :
    Yields (do if (← state).closed then whenClosed else build) t (1 + k) m b m' := by
  intro requests next
  have reads := Machine.comes_read (m := m) (t := t) requests fun _ s =>
    (if s.closed then whenClosed else build) next
  rw [opened] at reads
  exact reads.trans (yields requests next)

theorem yields_require_complete {value : id.Value} (opened : m.shared.closed = false)
    (built : m.cells id = .built (.component id value)) : (require id).Yields t 3 m value m := by
  intro requests next
  have complete : (m.content id).outcome? = some (.ok (.component id value)) := by
    simp [Machine.content, built, Cell.content, Content.outcome?]
  have answer := Machine.comes_get_complete (t := t) requests (answered id next) complete
  rw [answered_component] at answer
  exact (comes_require opened id requests next).trans answer

theorem Yields.require {build : Build id.Value} {value : id.Value}
    {detector : Detector String ComponentId} (opened : m.shared.closed = false)
    (free : m.cells id = .empty (program id build))
    (allowed : m.detector.request t id = .ok detector)
    (yields : build.Yields t k (m.claimed t id detector) value m') :
    (Build.require id).Yields t (k + 10) m value (m'.delivered t id (.component id value)) := by
  intro requests next
  have asks := comes_require (t := t) opened id requests next
  have enters := Machine.comes_get_empty requests (answered id next) free allowed
  have builds := yields (⟨id, answered id next⟩ :: requests)
    fun value => .ok (.component id value)
  have returns := Machine.comes_return (m := m') (t := t) requests id (answered id next)
    (.component id value)
  rw [answered_component] at returns
  exact (asks.trans (enters.trans (builds.trans returns))).mono (by omega)

end Build
namespace StrategyTable
variable {β : Type} {s : Settings} {option : KnownOption} {kind name : String} {build : Build β}

theorem optional_of_unset {t : StrategyTable β} (unset : s.get? option.path = none) :
    t.optional s option = pure none := by
  simp only [optional, Settings.optionalString, unset]
  rfl

/-- The strategy of a table that has only one. -/
theorem optional_of_named (named : s.get? option.path = some (.string name)) :
    ((⟨kind, .empty⟩ : StrategyTable β).register name build).optional s option =
      build >>= fun strategy => pure (some strategy) := by
  rcases (lookup_optional (register ⟨kind, .empty⟩ name build) s option).single with
    ⟨unset, _⟩ | ⟨_, found⟩ | ⟨_, _, other, _⟩
  · cases unset.symm.trans named
  · exact found
  · exact absurd named other

theorem required_of_named (named : s.get? option.path = some (.string name)) :
    ((⟨kind, .empty⟩ : StrategyTable β).register name build).required s option = build := by
  rw [required, optional_of_named named]
  rfl

end StrategyTable

theorem Settings.Settles.ok {β : Type} {s : Settings} {options : List KnownOption}
    {result : Except AccessError β} (settles : s.Settles options result)
    (suit : ∀ o ∈ options, s.suits o = true) : ∃ b, result = .ok b := by
  rwa [Settings.Settles, Settings.firstUnsuited_eq_none.2 suit] at settles

/-- What is known of the value of a component. -/
def Settings.Fits (s : Settings) : (id : ComponentId) → id.Value → Prop
  | .balancingPolicy, policy => policy = .builtin
  | .versionChoice, versions => VersionChoice.ofSettings s = .ok versions
  | .channelFactory, channels => VersionChoice.ofSettings s = .ok channels.versions
  | .metadataManager, manager => manager = 0
  | .balancer, balancer => balancer = ⟨.builtin, 0⟩
  | .controlConnection, control =>
    VersionChoice.ofSettings s = .ok control.channels.versions ∧ control.balancer = ⟨.builtin, 0⟩
  | _, _ => True

abbrev ContextCell := Cell String ComponentId ContextState Answer

/-- How a cell stands while the `held` ones are being built and no build has failed. -/
def Settings.Expects (s : Settings) (held : List ComponentId) (id : ComponentId) :
    ContextCell → Prop
  | .empty builder =>
    id ∉ held ∧ builder = Build.program id (({ settings := s } : Assembly).builder id)
  | .building => id ∈ held
  | .built answer => ∃ value, answer = .component id value ∧ s.Fits id value
  | .failed _ => False

/-- There is a manager once its component is built, and nobody acted on it yet. -/
def NewManager : ContextCell → List Manager → Prop
  | .built _, managers => ∃ factory bus, managers = [.ofFactory factory bus]
  | _, managers => managers = []

/-- The thread, which is building the `held` components, is the only one that used the context. -/
structure Underway (s : Settings) (t : String) (held : List ComponentId) (m : ContextMachine) :
    Prop where
  opened : m.shared.closed = false
  holds : m.detector.Holds t held
  cells : ∀ id, s.Expects held id (m.cells id)
  managers : NewManager (m.cells .metadataManager) m.shared.managers

/-- What is built or being built stays so. -/
structure Machine.Extends (m m' : ContextMachine) : Prop where
  built : ∀ id answer, m.cells id = .built answer → m'.cells id = .built answer
  building : ∀ id, m.cells id = .building → m'.cells id = .building

namespace Machine
variable {m m' m'' : ContextMachine}

theorem Extends.refl (m : ContextMachine) : m.Extends m := ⟨fun _ _ h => h, fun _ h => h⟩

theorem Extends.trans (first : m.Extends m') (second : m'.Extends m'') : m.Extends m'' :=
  ⟨fun id answer h => second.built id answer (first.built id answer h),
    fun id h => second.building id (first.building id h)⟩

/-- From before a cell is claimed to when its value is there. -/
theorem Extends.of_claimed {t : String} {id : ComponentId} {builder : ContextProgram}
    {detector : Detector String ComponentId} (free : m.cells id = .empty builder)
    (later : (m.claimed t id detector).Extends m') (answer : Answer) :
    m.Extends (m'.delivered t id answer) := by
  have claims : ∀ d, d ≠ id → (m.claimed t id detector).cells d = m.cells d :=
    fun d differ => m.cells_setCell_of_ne differ _
  have delivers : ∀ d, d ≠ id → (m'.delivered t id answer).cells d = m'.cells d :=
    fun d differ => m'.cells_setCell_of_ne differ _
  constructor
  · intro d old built
    have differ : d ≠ id := by
      rintro rfl
      cases free.symm.trans built
    exact (delivers d differ).trans (later.built d old ((claims d differ).trans built))
  · intro d building
    have differ : d ≠ id := by
      rintro rfl
      cases free.symm.trans building
    exact (delivers d differ).trans (later.building d ((claims d differ).trans building))

end Machine

section
variable {s : Settings} {t : String} {held : List ComponentId} {id : ComponentId} {k k' : Nat}
  {m m' : ContextMachine}

namespace Settings.Expects
variable {cell : ContextCell}

theorem claim {d : ComponentId} (expects : s.Expects held d cell) (other : d ≠ id) :
    s.Expects (held ++ [id]) d cell := by
  cases cell with
  | empty builder => exact ⟨by simp [expects.1, other], expects.2⟩
  | building => exact List.mem_append_left _ expects
  | built answer => exact expects
  | failed e => exact expects

theorem deliver {d : ComponentId} (expects : s.Expects (held ++ [id]) d cell) (other : d ≠ id) :
    s.Expects held d cell := by
  cases cell with
  | empty builder => exact ⟨fun among => expects.1 (List.mem_append_left _ among), expects.2⟩
  | building =>
    have among : d ∈ held ++ [id] := expects
    exact (List.mem_append.1 among).resolve_right (by simpa using other)
  | built answer => exact expects
  | failed e => exact expects

end Settings.Expects

namespace Underway

theorem fits {value : id.Value} (underway : Underway s t held m)
    (built : m.cells id = .built (.component id value)) : s.Fits id value := by
  have expects := underway.cells id
  rw [built] at expects
  obtain ⟨value', same, fits⟩ := expects
  cases same
  exact fits

theorem claim {detector : Detector String ComponentId} (underway : Underway s t held m)
    (free : ∃ builder, m.cells id = .empty builder)
    (holds : ((detector.stopWaiting t).enter t id).Holds t (held ++ [id])) :
    Underway s t (held ++ [id]) (m.claimed t id detector) := by
  have claims : (m.claimed t id detector).cells id = .building := m.cells_setCell_self id _
  have others : ∀ d, d ≠ id → (m.claimed t id detector).cells d = m.cells d :=
    fun d other => m.cells_setCell_of_ne other _
  refine ⟨underway.opened, holds, fun d => ?_, ?_⟩
  · by_cases same : d = id
    · subst same
      rw [claims]
      exact List.mem_append_right _ (List.mem_singleton_self d)
    · rw [others d same]
      exact (underway.cells d).claim same
  · have managers := underway.managers
    by_cases same : ComponentId.metadataManager = id
    · subst same
      obtain ⟨builder, empty⟩ := free
      rw [empty] at managers
      rw [claims]
      exact managers
    · rw [others _ same]
      exact managers

theorem deliver {value : id.Value} (opened : m.shared.closed = false)
    (holds : m.detector.Holds t (held ++ [id]))
    (cells : ∀ d, s.Expects (held ++ [id]) d (m.cells d)) (fits : s.Fits id value)
    (managers : NewManager ((m.setCell id (.built (.component id value))).cells .metadataManager)
      m.shared.managers) :
    Underway s t held (m.delivered t id (.component id value)) := by
  refine ⟨opened, holds.leave, fun d => ?_, managers⟩
  by_cases same : d = id
  · subst same
    have built : (m.delivered t d (.component d value)).cells d = .built (.component d value) :=
      m.cells_setCell_self d _
    rw [built]
    exact ⟨value, rfl, fits⟩
  · have other : (m.delivered t id (.component id value)).cells d = m.cells d :=
      m.cells_setCell_of_ne same _
    rw [other]
    exact (cells d).deliver same

end Underway
namespace Build
variable {β γ : Type} {build : Build β} {Q : β → Prop} {R : γ → Prop}

/-- However far the cells have come, the build comes to a value like this, in at most `k` turns. -/
def Gives (s : Settings) (t : String) (held : List ComponentId) (k : Nat) (build : Build β)
    (Q : β → Prop) : Prop :=
  ∀ m, Underway s t held m → ∃ b m', build.Yields t k m b m' ∧ Q b ∧ Underway s t held m' ∧
    m.Extends m'

theorem gives_pure {b : β} (fits : Q b) : Gives s t held 0 (pure b) Q :=
  fun m underway => ⟨b, m, yields_pure b m, fits, underway, .refl m⟩

theorem gives_ofResult {result : Except AccessError β} (fits : ∃ b, result = .ok b ∧ Q b) :
    Gives s t held 0 (ofResult result) Q := by
  obtain ⟨b, rfl, fits⟩ := fits
  exact gives_pure fits

theorem Gives.bind {f : β → Build γ} (first : Gives s t held k build Q)
    (rest : ∀ b, Q b → Gives s t held k' (f b) R) : Gives s t held (k + k') (build >>= f) R := by
  intro m underway
  obtain ⟨b, m', yields, fits, underway', extends'⟩ := first m underway
  obtain ⟨c, m'', yields', fits', underway'', extends''⟩ := rest b fits m' underway'
  exact ⟨c, m'', yields.bind yields', fits', underway'', extends'.trans extends''⟩

theorem Gives.mono (gives : Gives s t held k build Q) (le : k ≤ k') :
    Gives s t held k' build Q := by
  intro m underway
  obtain ⟨b, m', yields, rest⟩ := gives m underway
  exact ⟨b, m', yields.mono le, rest⟩

/-- A bus is made whatever there is already. -/
theorem gives_makeBus : Gives s t held 1 (makeBus EventBus.defaultCapacity) fun _ => True := by
  intro m underway
  have yields : (makeBus EventBus.defaultCapacity).Yields t 1 m m.shared.buses.length
      { m with shared := m.shared.addBus EventBus.defaultCapacity } := by
    have makes : makeBus EventBus.defaultCapacity = fun next =>
        .update (fun _ s => s.addBus EventBus.defaultCapacity) fun _ s => next s.buses.length :=
      if_pos (by decide)
    rw [makes]
    exact yields_update _ _ m
  exact ⟨_, _, yields, trivial,
    ⟨underway.opened, underway.holds, underway.cells, underway.managers⟩,
    fun _ _ built => built, fun _ building => building⟩

theorem Gives.required {option : KnownOption} {kind name : String}
    (named : s.get? option.path = some (.string name)) (gives : Gives s t held k build Q) :
    Gives s t held k (((⟨kind, .empty⟩ : StrategyTable β).register name build).required s option)
      Q := by
  rwa [StrategyTable.required_of_named named]

/-- A strategy that may be left out. -/
theorem Gives.optional {option : KnownOption} {kind name : String}
    (chosen : s.get? option.path = none ∨ s.get? option.path = some (.string name))
    (gives : s.get? option.path = some (.string name) → Gives s t held k build Q) :
    Gives s t held k (((⟨kind, .empty⟩ : StrategyTable β).register name build).optional s option)
      fun _ => True := by
  rcases chosen with unset | named
  · rw [StrategyTable.optional_of_unset unset]
    exact (gives_pure trivial).mono (Nat.zero_le k)
  · rw [StrategyTable.optional_of_named named]
    exact (gives named).bind fun _ _ => gives_pure trivial

end Build
end
end ClusterDriver
