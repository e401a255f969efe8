import ClusterDriver.Proofs.Context.Underway
/-!
# Construction by one thread

A thread that is the only one to use a new context gets every component that it asks for, if the
options of all components suit. What it gets is known as far as starting up depends on it: there is
one metadata manager, on which nobody acted yet, the balancer is the builtin policy over this
manager, and the version of the protocol is the one that the settings choose.
-/
namespace ClusterDriver
section
variable {s : Settings} {t : String} {held : List ComponentId} {id : ComponentId} {k : Nat}
  {m : ContextMachine}

/-- Options that suit are accepted. -/
theorem Settings.Settles.accepted {β : Type} {options : List KnownOption}
    {result : Except AccessError β} (settles : s.Settles options result)
    (suit : ∀ o ∈ KnownOption.checked, s.suits o = true)
    (among : ∀ o ∈ options, o ∈ KnownOption.checked) : ∃ b, result = .ok b ∧ True := by
  obtain ⟨b, heq⟩ := settles.ok fun o ho => suit o (among o ho)
  exact ⟨b, heq, trivial⟩

/-- The builders of all components but the manager, if what they ask for is given to them. -/
theorem Assembly.gives_builder (suit : ∀ o ∈ KnownOption.checked, s.suits o = true)
    (given : ∀ d, id.Below d → Build.Gives s t held k (.require d) (s.Fits d))
    (other : id ≠ .metadataManager) :
    Build.Gives s t held (6 * k + 2) (({ settings := s } : Assembly).builder id) (s.Fits id) := by
  -- No builder asks for more than the six components of the channel factory.
  cases id with
  | metadataManager => exact absurd rfl other
  | balancingPolicy =>
    have named := of_decide_eq_true (suit .loadBalancingPolicy (by decide))
    refine Build.Gives.mono (k := 0) ?_ (by omega)
    exact .required named (Build.gives_pure rfl)
  | reconnectionPolicy =>
    have named := of_decide_eq_true (suit .reconnectionPolicy (by decide))
    refine Build.Gives.mono (k := 0) ?_ (by omega)
    exact .required named
      (Build.gives_ofResult (Settings.settles_reconnection.accepted suit (by decide)))
  | addressTranslator =>
    have named := of_decide_eq_true (suit .addressTranslator (by decide))
    refine Build.Gives.mono (k := 0) ?_ (by omega)
    exact .required named (Build.gives_pure trivial)
  | authProvider =>
    refine Build.Gives.mono (k := 0) ?_ (by omega)
    exact .optional (of_decide_eq_true (suit .authProvider (by decide))) fun named =>
      Build.gives_ofResult (((Settings.settles_credentials named).map _).accepted suit (by decide))
  | sslEngine =>
    have unset := of_decide_eq_true (suit .sslEngineFactory (by decide))
    have builds : ({ settings := s } : Assembly).builder .sslEngine = pure none :=
      StrategyTable.optional_of_unset (t := ⟨"SSL engine factory", .empty⟩) unset
    rw [builds]
    exact (Build.gives_pure trivial).mono (by omega)
  | compressor =>
    refine Build.Gives.mono (k := 0 + 0) ?_ (by omega)
    refine Build.Gives.bind (Q := fun _ => True) ?_ fun _ _ => Build.gives_pure trivial
    exact .optional (of_decide_eq_true (suit .compression (by decide))) fun _ =>
      Build.gives_pure (Q := fun _ => True) trivial
  | eventBus => exact Build.gives_makeBus.mono (by omega)
  | versionChoice =>
    obtain ⟨versions, chosen, _⟩ := Settings.settles_version.accepted suit (by decide)
    exact (Build.gives_ofResult ⟨versions, chosen, chosen⟩).mono (by omega)
  | transportOptions =>
    exact (Build.gives_ofResult (Settings.settles_transport.accepted suit (by decide))).mono
      (by omega)
  | writeCoalescer | metricsFactory => exact (Build.gives_pure trivial).mono (by omega)
  | sslHandler => exact (given .sslEngine (by decide)).mono (by omega)
  | frameCodec =>
    exact ((given .transportOptions (by decide)).bind fun _ _ =>
      (given .compressor (by decide)).bind fun _ _ => Build.gives_pure trivial).mono (by omega)
  | balancer =>
    refine ((given .balancingPolicy (by decide)).bind fun policy builtin =>
      (given .metadataManager (by decide)).bind fun manager first =>
      Build.gives_pure ?_).mono (by omega)
    rw [builtin, first]
    rfl
  | controlConnection =>
    refine ((given .channelFactory (by decide)).bind fun channels versions =>
      (given .reconnectionPolicy (by decide)).bind fun _ _ =>
      (given .balancer (by decide)).bind fun balancer builtin =>
      Build.gives_pure ?_).mono (by omega)
    exact ⟨versions, builtin⟩
  | topologyMonitor =>
    exact ((given .controlConnection (by decide)).bind fun _ _ =>
      (given .addressTranslator (by decide)).bind fun _ _ =>
      (given .metadataManager (by decide)).bind fun _ _ =>
      (given .balancer (by decide)).bind fun _ _ => Build.gives_pure trivial).mono (by omega)
  | channelFactory =>
    refine ((given .frameCodec (by decide)).bind fun _ _ =>
      (given .versionChoice (by decide)).bind fun versions chosen =>
      (given .writeCoalescer (by decide)).bind fun _ _ =>
      (given .sslHandler (by decide)).bind fun _ _ =>
      (given .authProvider (by decide)).bind fun _ _ =>
      (given .transportOptions (by decide)).bind fun _ _ =>
      Build.gives_pure ?_).mono (by omega)
    exact chosen

/-- The builder of the manager starts the one manager there is. -/
theorem Assembly.yields_metadataManager
    (given : ∀ d, ComponentId.metadataManager.Below d →
      Build.Gives s t (held ++ [.metadataManager]) k (.require d) (s.Fits d))
    (underway : Underway s t (held ++ [.metadataManager]) m)
    (building : m.cells .metadataManager = .building) :
    ∃ m', metadataManager.Yields t (2 * k + 2) m 0 m' ∧ m.Extends m' ∧
      Underway s t held
        (m'.delivered t .metadataManager (.component .metadataManager (0 : ManagerId))) := by
  have asks := (given .eventBus (by decide)).bind fun bus _ =>
    (given .metricsFactory (by decide)).bind fun factory _ =>
    Build.gives_pure (Q := fun _ => True) (b := (bus, factory)) trivial
  obtain ⟨⟨bus, factory⟩, m', yields, _, underway', extends'⟩ := asks m underway
  have unstarted : m'.shared.managers = [] := by
    have managers := underway'.managers
    rwa [extends'.building _ building] at managers
  let started : ContextMachine := { m' with shared := m'.shared.addManager factory bus }
  have starts : (Build.startManager factory bus).Yields t 1 m' 0 started := by
    have first := Build.yields_update (t := t) (fun _ s => s.addManager factory bus)
      (fun _ s => s.managers.length) m'
    rwa [unstarted] at first
  -- The builder looks again whether the context is open, and this thread did not close it.
  have returns := Build.yields_unlessClosed (m := started)
    (Build.stopManager 0 >>= fun _ => Build.raise (.ofAccess .closed)) underway'.opened
    (Build.yields_pure (t := t) (0 : ManagerId) started)
  have all := yields.bind (f := fun found => Build.startManager found.2 found.1 >>= fun id => do
    if (← Build.state).closed then
      Build.stopManager id
      Build.raise (.ofAccess .closed)
    else return id) (starts.bind returns)
  refine ⟨started, all.mono (by omega), ⟨extends'.built, extends'.building⟩,
    .deliver underway'.opened underway'.holds underway'.cells rfl ?_⟩
  rw [started.cells_setCell_self]
  exact ⟨factory, bus, by simp [started, ContextState.addManager, unstarted]⟩

/-- A builder comes to its value, and with that its component is built. -/
theorem Assembly.exists_builder (suit : ∀ o ∈ KnownOption.checked, s.suits o = true)
    (given : ∀ d, id.Below d →
      Build.Gives s t (held ++ [id]) k (.require d) (s.Fits d))
    (underway : Underway s t (held ++ [id]) m) (building : m.cells id = .building) :
    ∃ value m', (({ settings := s } : Assembly).builder id).Yields t (6 * k + 2) m value m' ∧
      m.Extends m' ∧ Underway s t held (m'.delivered t id (.component id value)) := by
  by_cases manager : id = .metadataManager
  · subst manager
    obtain ⟨m', yields, rest⟩ := yields_metadataManager given underway building
    exact ⟨0, m', yields.mono (by omega), rest⟩
  · obtain ⟨value, m', yields, fits, underway', extends'⟩ :=
      Assembly.gives_builder suit given manager m underway
    refine ⟨value, m', yields, extends', .deliver underway'.opened underway'.holds
      underway'.cells fits ?_⟩
    rw [m'.cells_setCell_of_ne (Ne.symm manager)]
    exact underway'.managers

/-- A component needs at most this many turns, by its level. -/
def turnsFor : Nat → Nat
  | 0 => 12
  | level + 1 => 12 + 6 * turnsFor level

theorem turnsFor_mono {level level' : Nat} (le : level ≤ level') :
    turnsFor level ≤ turnsFor level' :=
  monotone_nat_of_le_succ (fun level => by rw [turnsFor]; omega) le

theorem twelve_le_turnsFor (level : Nat) : 12 ≤ turnsFor level := turnsFor_mono (Nat.zero_le level)

/-- It is built in a cell that is empty still, if what its builder asks for is given. -/
theorem exists_require_empty (suit : ∀ o ∈ KnownOption.checked, s.suits o = true)
    {builder : ContextProgram} (underway : Underway s t held m) (free : m.cells id = .empty builder)
    (given : ∀ d, id.Below d → Build.Gives s t (held ++ [id]) k (.require d) (s.Fits d)) :
    ∃ value m', (Build.require id).Yields t (6 * k + 12) m value m' ∧
      m'.cells id = .built (.component id value) ∧ Underway s t held m' ∧ m.Extends m' := by
  have expects := underway.cells id
  rw [free] at expects
  obtain ⟨other, rfl⟩ := expects
  obtain ⟨detector, allowed, holds⟩ := underway.holds.enter other
  obtain ⟨value, m', yields, extends', delivers⟩ :=
    Assembly.exists_builder suit given (underway.claim ⟨_, free⟩ holds) (m.cells_setCell_self id _)
  exact ⟨value, _, Build.Yields.require underway.opened free allowed yields,
    m'.cells_setCell_self id _, delivers, extends'.of_claimed free _⟩

/-- The component is built in the end, unless it was before. -/
theorem exists_require (suit : ∀ o ∈ KnownOption.checked, s.suits o = true) (id : ComponentId)
    (above : ∀ d ∈ held, id.level < d.level) (underway : Underway s t held m) :
    ∃ value m', (Build.require id).Yields t (turnsFor id.level) m value m' ∧
      m'.cells id = .built (.component id value) ∧ Underway s t held m' ∧ m.Extends m' := by
  -- By the level: a builder asks only for what is below it, so never for what is being built.
  induction level : id.level using Nat.strongRecOn generalizing id held m with | _ level' ih
  subst level
  have expects := underway.cells id
  cases cell : m.cells id with
  | built answer =>
    rw [cell] at expects
    obtain ⟨value, rfl, _⟩ := expects
    have few : 3 ≤ turnsFor id.level := Nat.le_trans (by decide) (twelve_le_turnsFor id.level)
    exact ⟨value, m, (Build.yields_require_complete underway.opened cell).mono few, cell, underway,
      .refl m⟩
  | building =>
    rw [cell] at expects
    exact absurd (above id expects) (Nat.lt_irrefl _)
  | failed e =>
    rw [cell] at expects
    exact expects.elim
  | empty builder =>
    have given : ∀ d, id.Below d →
        Build.Gives s t (held ++ [id]) (turnsFor d.level) (.require d) (s.Fits d) := by
      intro d below m₁ underway₁
      have above' : ∀ c ∈ held ++ [id], d.level < c.level := by
        intro c among
        rcases List.mem_append.1 among with outer | here
        · exact Nat.lt_trans below (above c outer)
        · exact List.mem_singleton.1 here ▸ below
      obtain ⟨value, m₂, yields, built, underway₂, extends'⟩ :=
        ih d.level below d above' underway₁ rfl
      exact ⟨value, m₂, yields, underway₂.fits built, underway₂, extends'⟩
    cases level : id.level with
    | zero =>
      refine exists_require_empty (k := 0) suit underway cell fun d below => ?_
      exact absurd (Nat.lt_of_lt_of_eq below level) (Nat.not_lt_zero _)
    | succ level' =>
      obtain ⟨value, m', yields, rest⟩ := exists_require_empty suit underway cell fun d below =>
        (given d below).mono (turnsFor_mono (Nat.le_of_lt_succ (Nat.lt_of_lt_of_eq below level)))
      exact ⟨value, m', yields.mono (by rw [turnsFor]; omega), rest⟩

theorem ComponentId.level_le (id : ComponentId) : id.level ≤ 4 := by cases id <;> decide

/-- All components that are asked for are built in the end. -/
theorem exists_requireAll (suit : ∀ o ∈ KnownOption.checked, s.suits o = true)
    (ids : List ComponentId) (underway : Underway s t [] m) :
    ∃ m', (Context.requireAll ids).Yields t (ids.length * turnsFor 4) m () m' ∧
      (∀ id ∈ ids, ∃ value, m'.cells id = .built (.component id value)) ∧
      Underway s t [] m' ∧ m.Extends m' := by
  induction ids generalizing m with
  | nil => exact ⟨m, (Build.yields_pure () m).mono (Nat.zero_le _), nofun, underway, .refl m⟩
  | cons id rest ih =>
    obtain ⟨value, m₁, yields, built, underway₁, extends₁⟩ :=
      exists_require suit id (fun _ among => absurd among List.not_mem_nil) underway
    obtain ⟨m₂, yields', built', underway₂, extends₂⟩ := ih underway₁
    have few : turnsFor id.level + rest.length * turnsFor 4 ≤
        (id :: rest).length * turnsFor 4 := by
      have one := turnsFor_mono id.level_le
      rw [List.length_cons, Nat.succ_mul]
      omega
    refine ⟨m₂, (yields.bind yields').mono few, fun d among => ?_, underway₂,
      extends₁.trans extends₂⟩
    rcases List.mem_cons.1 among with rfl | later
    · exact ⟨value, extends₂.built d _ built⟩
    · exact built' d later

theorem Underway.setThread (underway : Underway s t held m) (u : String)
    (thread : ContextThread) : Underway s t held (m.setThread u thread) :=
  ⟨underway.opened, underway.holds, underway.cells, underway.managers⟩

theorem underway_ofSettings (s : Settings) (t : String) :
    Underway s t [] (Context.ofSettings s).machine where
  opened := rfl
  holds := Detector.holds_nil s.detectCycles
  cells _ := ⟨List.not_mem_nil, rfl⟩
  managers := rfl

end

/-- All components are built, and the thread is the only one that used the context. -/
structure Ready (s : Settings) (t : String) (m : ContextMachine) : Prop where
  only : m.threads.keys = [t]
  underway : Underway s t [] m
  built : ∀ id, ∃ value, m.cells id = .built (.component id value)

namespace Context
variable {s : Settings} {t : String} {c : Context} {k : Nat} {m : ContextMachine}
  {id : ComponentId} {outcome : Outcome Failure Answer}

/-- A call that ends soon enough, in a context that no other thread uses. -/
theorem call_of_comes {program : ContextProgram}
    (only : (c.machine.setThread t (.run [] program)).threads.keys = [t])
    (comes : Machine.Comes t k (c.machine.setThread t (.run [] program))
      (m.setThread t (.done outcome)))
    (soon : k ≤ Machine.patience) :
    c.call t program = (some outcome, { c with machine := m.setThread t (.done outcome) }) := by
  have settles : (c.start t program).settle =
      { c with machine := m.setThread t (.done outcome) } :=
    congrArg (Context.mk c.assembly)
      (Machine.settle_of_comes only comes soon (by simp [Machine.step, Machine.setThread]))
  rw [call, settles]
  simp [Machine.setThread]

/-- The call that builds all components of a new context succeeds if all options suit. -/
theorem call_initAll (suit : ∀ o ∈ KnownOption.checked, s.suits o = true) (t : String) :
    ∃ c, (ofSettings s).call t initAll = (some (.returned (.ok .nothing)), c) ∧
      Ready s t c.machine := by
  obtain ⟨m, yields, built, underway, _⟩ :=
    exists_requireAll suit ComponentId.all (underway_ofSettings s t)
  have ends := (yields [] fun _ => .ok .nothing).trans (Machine.comes_done _)
  exact ⟨_, call_of_comes rfl ends (by decide), ends.keys rfl, underway.setThread t _,
    fun id => built id id.mem_all⟩

/-- The accessor of a component that is built. -/
theorem get_of_built {value : id.Value} (only : c.machine.threads.keys = [t])
    (opened : c.state.closed = false) (built : c.machine.cells id = .built (.component id value)) :
    c.get t id = (.value value, { c with
      machine := c.machine.setThread t (.done (.returned (.ok (.component id value)))) }) := by
  have ends := (Build.yields_require_complete (t := t) opened built [] fun value =>
    .ok (.component id value)).trans (Machine.comes_done _)
  have called : c.call t (accessor id) = _ :=
    call_of_comes (Machine.keys_setThread only _) ends (by decide)
  rw [get, called]
  simp

end Context
end ClusterDriver
