import ClusterDriver.Proofs.Cluster.IdleManager
import ClusterDriver.Proofs.Cluster.Seeding
import ClusterDriver.Proofs.Cluster.StartingPoints
import ClusterDriver.Proofs.Context.Construction
import ClusterDriver.Proofs.Context.InitAll
/-!
# Startup

From its settings alone a driver starts, or reports why not. It starts exactly if the contact points
are accepted and all components can be built. Then the contact points are its members, all of them
near and in an unknown state, and it is about to connect to the least of them, in whatever order
they were visited.
-/
namespace ClusterDriver

theorem ContextState.managers_onBus {β : Type} (s : ContextState) (id : BusId)
    (f : EventBus Event → β × EventBus Event) : (s.onBus id f).2.managers = s.managers := by
  rw [onBus]
  split <;> rfl

theorem ContextState.closed_onBus {β : Type} (s : ContextState) (id : BusId)
    (f : EventBus Event → β × EventBus Event) : (s.onBus id f).2.closed = s.closed := by
  rw [onBus]
  split <;> rfl

namespace Boot
open ContactPoints (Accepted Complaint StartsFrom)
variable {s : Settings} {c : Context} {cells : ComponentId → ContextCell} {table : NodeTable}
  {id : ComponentId} {order : List Endpoint → List Endpoint}

/-- An open context that only the main thread uses, with one manager, which is idle and looks after
this table. -/
structure Tended (cells : ComponentId → ContextCell) (table : NodeTable) (c : Context) : Prop where
  only : c.machine.threads.keys = [mainThread]
  opened : c.state.closed = false
  cells : c.machine.cells = cells
  managers : ∃ m : Manager, c.state.managers = [m] ∧ m.coordination.task.Idle ∧ m.table = table

/-- Once all is built, the manager looks after a table that never had a node. -/
theorem exists_tended (ready : Ready s mainThread c.machine) :
    ∃ factory, Tended c.machine.cells { factory } c := by
  obtain ⟨value, built⟩ := ready.built .metadataManager
  have managers := ready.underway.managers
  rw [built] at managers
  obtain ⟨factory, bus, one⟩ := managers
  exact ⟨factory, ready.only, ready.underway.opened, rfl, .ofFactory factory bus, one,
    ⟨rfl, rfl, rfl, nofun⟩, rfl⟩

namespace Tended

theorem table_eq (tended : Tended cells table c) : c.table 0 = table := by
  obtain ⟨m, managers, _, same⟩ := tended.managers
  rw [Context.table, Context.manager?, managers]
  exact same

theorem require (tended : Tended cells table c) {value : id.Value}
    (built : cells id = .built (.component id value)) :
    ∃ c', Boot.require c id = .ok (value, c') ∧ Tended cells table c' := by
  have found := Context.get_of_built tended.only tended.opened (tended.cells ▸ built)
  have reads : Boot.require c id = .ok (value, (c.get mainThread id).2) := by
    simp only [Boot.require, found]
  rw [found] at reads
  exact ⟨_, reads, Machine.keys_setThread tended.only _, tended.opened, tended.cells,
    tended.managers⟩

/-- What is performed on the manager is done at once, and what it publishes is sent off. -/
theorem perform {β : Type} (tended : Tended cells table c) (f : NodeTable → β × NodeTable) :
    ∃ c', (c.perform 0 fun m => m.perform mainThread f) = (.ok (f table).1, c') ∧
      Tended cells { (f table).2 with outbox := [] } c' := by
  obtain ⟨m, managers, idle, rfl⟩ := tended.managers
  obtain ⟨m', performs, table', idle', _⟩ := m.perform_idle idle mainThread f
  let left : Manager := m'.takeOutbox.2
  let sent := ({ c.state with managers := [left] } : ContextState).onBus left.bus
    fun bus => ((), bus.publishAll m'.takeOutbox.1)
  have acts : (c.perform 0 fun m => m.perform mainThread f) =
      (.ok (f m.table).1, c.withState sent.2) := by
    simp [Context.perform, Context.onManager, ContextState.onManager, managers, performs, sent,
      left]
  refine ⟨_, acts, tended.only, ?_, tended.cells, left, ?_, ?_, ?_⟩
  · exact (ContextState.closed_onBus _ _ _).trans tended.opened
  · exact ContextState.managers_onBus _ _ _
  · exact ⟨idle'.accepting, idle'.queue, idle'.current, idle'.tickets⟩
  · rw [← table']
    rfl

end Tended

theorem exists_register (tended : Tended cells table c) (points : List Endpoint)
    (manager : cells .metadataManager = .built (.component .metadataManager (0 : ManagerId))) :
    ∃ lines c', register c points = .ok (lines, c') ∧
      Tended cells { (table.addContactPoints points).2 with outbox := [] } c' := by
  obtain ⟨c₁, reads, tended₁⟩ := tended.require manager
  obtain ⟨c₂, adds, tended₂⟩ := tended₁.perform fun t => t.addContactPoints points
  have added : c₁.addContactPoints mainThread 0 points =
      (.ok (table.addContactPoints points).1, c₂) := adds
  refine ⟨(table.addContactPoints points).1.filterMap fun id =>
    ((c₂.table 0).descriptor? id).map pointLine, c₂, ?_, tended₂⟩
  simp only [register, reads, bind, Except.bind, added]
  rfl

theorem exists_connect (order : List Endpoint → List Endpoint) (tended : Tended cells table c)
    {control : ControlConnection}
    (balancer : cells .balancer = .built (.component .balancer ⟨.builtin, 0⟩))
    (controls : cells .controlConnection = .built (.component .controlConnection control)) :
    ∃ c', connect order c = .ok (((c'.nextChannel control).map targetLine).toList, c') ∧
      Tended cells { table.initDistances .builtin order with outbox := [] } c' := by
  obtain ⟨c₁, reads, tended₁⟩ := tended.require balancer
  obtain ⟨c₂, places, tended₂⟩ := tended₁.perform fun t => ((), t.initDistances .builtin order)
  obtain ⟨c₃, reads', tended₃⟩ := tended₂.require controls
  have placed : c₁.initDistances mainThread ⟨.builtin, 0⟩ order = (.ok (), c₂) := places
  refine ⟨c₃, ?_, tended₃⟩
  simp only [connect, reads, bind, Except.bind, placed, reads']
  rfl

/-- The version is the pinned one, or without a pin the highest that is not a beta. -/
def Prescribes (s : Settings) (v : ProtocolVersion) : Prop :=
  (∃ raw, s.get? KnownOption.protocolVersion.path = some (.string raw) ∧
    ProtocolVersion.ofText raw = .ok v) ∨
  s.get? KnownOption.protocolVersion.path = none ∧ v.isBeta = false ∧
    ∀ w : ProtocolVersion, w.isBeta = false → w.code ≤ v.code

theorem prescribes_initial {versions : VersionChoice}
    (chosen : VersionChoice.ofSettings s = .ok versions) : Prescribes s versions.initial := by
  simp only [VersionChoice.ofSettings, Settings.optionalString] at chosen
  cases given : s.get? KnownOption.protocolVersion.path with
  | none =>
    rw [given] at chosen
    obtain rfl : {} = versions := Except.ok.inj chosen
    exact Or.inr ⟨given, by decide, fun w => by cases w <;> decide⟩
  | some value =>
    rw [given] at chosen
    cases value with
    | string raw =>
      cases known : ProtocolVersion.ofText raw with
      | ok v =>
        simp only [known] at chosen
        obtain rfl : { pinned := some v } = versions := Except.ok.inj chosen
        exact Or.inl ⟨raw, given, known⟩
      | error e =>
        simp only [known] at chosen
        cases chosen
    | integer _ | boolean _ | duration _ | list _ => cases chosen

/-- The driver is up: all contact points and nobody else are members, each with one descriptor, and
the control connection is about to open a channel to the least of them. -/
structure Started (s : Settings) (c : Context) (manager : ManagerId) (control : ControlConnection)
    (target : ChannelSettings) : Prop where
  manages : c.machine.cells .metadataManager = .built (.component .metadataManager manager)
  controls : c.machine.cells .controlConnection = .built (.component .controlConnection control)
  members : ∀ a, a ∈ (c.table manager).memberAddresses ↔ StartsFrom s a
  distinct : ((c.table manager).descriptors.map Descriptor.address).Nodup
  described : ∀ a, a ∈ (c.table manager).descriptors.map Descriptor.address ↔
    StartsFrom s a
  standing : ∀ a, StartsFrom s a →
    (c.table manager).standing? a = some { state := .unknown, distance := .near }
  channel : c.nextChannel control = some target
  address : StartsFrom s target.address
  least : ∀ a, StartsFrom s a → a = target.address ∨ target.address.Precedes a
  version : Prescribes s target.protocolVersion

theorem exists_started {points : List Endpoint} (nonempty : points ≠ [])
    (starts : ∀ a, a ∈ points ↔ StartsFrom s a)
    (tended : Tended cells table c) (seeded : NodeTable.Seeded points .near table)
    (manager : cells .metadataManager = .built (.component .metadataManager (0 : ManagerId)))
    {control : ControlConnection}
    (controls : cells .controlConnection = .built (.component .controlConnection control))
    (fits : s.Fits .controlConnection control) :
    ∃ target, Started s c 0 control target := by
  obtain ⟨d, head, listed, least⟩ := seeded.exists_head nonempty
  have same : c.table 0 = table := tended.table_eq
  have channel : c.nextChannel control = some (control.channels.settingsFor d.address) := by
    rw [Context.nextChannel, Context.queryPlan, fits.2, same, head]
    rfl
  refine ⟨_, tended.cells ▸ manager, tended.cells ▸ controls, fun a => ?_, ?_, fun a => ?_,
    fun a here => ?_, channel, (starts _).1 listed, fun a here => ?_, prescribes_initial fits.1⟩
  · rw [same, NodeTable.mem_memberAddresses, seeded.member_iff, starts]
  · rw [same]
    exact seeded.addresses.1
  · rw [same, seeded.addresses.2, starts]
  · rw [same, seeded.standing, if_pos ((starts a).2 here)]
  · exact (least a ((starts a).2 here)).imp_right (Endpoint.lt_iff_precedes _ _).1

theorem effective_ne_nil (configured : List Endpoint) : effective configured ≠ [] := by
  cases configured <;> simp [effective]

/-- Where all components can be built, they are, and the contact points become the members. -/
theorem exists_start (perm : ∀ l, (order l).Perm l) (accepted : Accepted s)
    (suit : ∀ o ∈ KnownOption.checked, s.suits o = true) :
    ∃ c manager control target, (start order s).outcome = .ok c ∧
      Started s c manager control target ∧
        (start order s).log.getLast? = some (targetLine target) := by
  obtain ⟨configured, reads, starts⟩ := ContactPoints.exists_of_accepted accepted
  obtain ⟨c, builds, ready⟩ := Context.call_initAll suit mainThread
  have inits : initAll (.ofSettings s) = .ok c := by simp only [initAll, builds]
  have built : ∀ id, ∃ value, c.machine.cells id = .built (.component id value) ∧
      s.Fits id value := fun id => by
    obtain ⟨value, here⟩ := ready.built id
    exact ⟨value, here, ready.underway.fits here⟩
  obtain ⟨_, manager, rfl⟩ := built .metadataManager
  obtain ⟨_, balancer, rfl⟩ := built .balancer
  obtain ⟨control, controls, fits⟩ := built .controlConnection
  obtain ⟨factory, tended⟩ := exists_tended ready
  obtain ⟨lines, c₁, registers, tended₁⟩ := exists_register tended (effective configured) manager
  obtain ⟨c₂, connects, tended₂⟩ := exists_connect order tended₁ balancer controls
  have joined := ((NodeTable.seeded_nil factory).addContactPoints (effective configured)).sent
  have seeded := (joined.initDistances perm).sent
  obtain ⟨target, started⟩ := exists_started (effective_ne_nil configured) starts tended₂ seeded
    manager controls fits
  refine ⟨c₂, 0, control, target, ?_, started, ?_⟩
  · simp only [start, reads, inits, registers, connects]
  · simp [start, reads, inits, registers, connects, started.channel]

end Boot

theorem Context.done_of_call {c : Context} {t : String} {program : ContextProgram}
    {outcome : Outcome Failure Answer} (called : (c.call t program).1 = some outcome) :
    (c.start t program).settle.machine.threads.get? t = some (.done outcome) := by
  simp only [call] at called
  split at called
  · next found =>
    obtain rfl := Option.some.inj called
    exact found
  · cases called

namespace Machine
open ContextState (opened)
variable {s : Settings} {t : String}

/-- How the call that builds all components of a new context ends, on a thread by itself. -/
theorem initEnds_of_alone {outcome : Outcome Failure Answer}
    (called : ((Context.ofSettings s).call t Context.initAll).1 = some outcome) :
    ∃ known, s.InitEnds known outcome := by
  let threads : Table String ContextThread := Table.empty.insert t (.run [] Context.initAll)
  have peaceful : PeacefulThreads threads := by
    intro u thread found
    rw [Table.get?_insert] at found
    split at found
    · obtain rfl := Option.some.inj found
      exact ⟨_, rfl, Context.peaceful_initAll⟩
    · cases found
  have here : ((inUse s threads).seeing opened).threads.get? t =
      some (.run [] (Context.initAll.seeing opened)) := by
    rw [get?_seeing]
    exact congrArg (Option.map _) (Table.get?_insert_self _ _ _)
  obtain ⟨turns, settles⟩ : ∃ turns,
      (inUse s threads).settle = (inUse s threads).runSchedule turns :=
    ⟨_, settleWithin_eq (t := t) rfl patience⟩
  have done : (((inUse s threads).seeing opened).runSchedule turns).threads.get? t =
      some (.done outcome) := by
    have found : (inUse s threads).settle.threads.get? t = some (.done outcome) :=
      Context.done_of_call called
    -- Nobody closes the context, so the run is that of a program that reads an open one.
    rw [runSchedule_opened peaceful turns, get?_seeing, ← settles, found]
    rfl
  exact ⟨_, post_of_done (fresh_inUse peaceful).seeing (under_opened peaceful)
    Settings.lasting_initEnds here (Settings.ensures_calls .init) done⟩

end Machine

namespace Context
variable {s : Settings}

/-- All components can be built together exactly if every option suits. -/
theorem call_initAll_iff (s : Settings) (t : String) :
    (∃ answer, ((ofSettings s).call t initAll).1 = some (.returned (.ok answer))) ↔
      ∀ o ∈ KnownOption.checked, s.suits o = true := by
  constructor
  · rintro ⟨answer, called⟩
    obtain ⟨known, ends⟩ := Machine.initEnds_of_alone called
    generalize outcome : Outcome.returned (Except.ok answer) = returned at ends
    cases ends with
    | built _ suit => exact Settings.suits_reads.1 suit
    | stopped _ _ _ _ reason => cases outcome
  · intro suit
    obtain ⟨c, builds, _⟩ := call_initAll suit t
    exact ⟨.nothing, by rw [builds]⟩

end Context

namespace Boot
open ContactPoints (Accepted Complaint StartsFrom)
variable {s : Settings} {c : Context} {order : List Endpoint → List Endpoint}

theorem called_of_initAll (inits : initAll (.ofSettings s) = .ok c) : ∃ answer,
    ((Context.ofSettings s).call mainThread Context.initAll).1 =
      some (.returned (.ok answer)) := by
  simp only [initAll] at inits
  split at inits
  · next answer _ called => exact ⟨answer, congrArg Prod.fst called⟩
  · cases inits
  · cases inits

/-- Contact points that are not accepted are all that is reported. -/
theorem start_of_refused (order : List Endpoint → List Endpoint) (refused : ¬ Accepted s) :
    ∃ reason, Complaint s reason ∧
      ∀ s' : Settings, s'.get? KnownOption.contactPoints.path =
          s.get? KnownOption.contactPoints.path →
        start order s' = ⟨[], .error ⟨none, .config KnownOption.contactPoints.path reason⟩⟩ := by
  obtain ⟨reason, complaint, fails⟩ := ContactPoints.exists_complaint refused
  refine ⟨reason, complaint, fun s' same => ?_⟩
  simp only [start, (ContactPoints.ofSettings_congr same).trans fails]

theorem accepted_of_start (started : (start order s).outcome = .ok c) : Accepted s := by
  by_contra refused
  obtain ⟨reason, _, fails⟩ := start_of_refused order refused
  rw [fails s rfl] at started
  cases started

theorem called_of_start (started : (start order s).outcome = .ok c) : ∃ answer,
    ((Context.ofSettings s).call mainThread Context.initAll).1 =
      some (.returned (.ok answer)) := by
  obtain ⟨configured, reads, _⟩ := ContactPoints.exists_of_accepted (accepted_of_start started)
  cases inits : initAll (.ofSettings s) with
  | ok c => exact called_of_initAll inits
  | error fault =>
    simp only [start, reads, inits] at started
    cases started

/-- Two points, one of them spelled in two ways. -/
def listed : Settings := Settings.builtin.set KnownOption.contactPoints.path
  (.list ["10.0.0.2", "10.0.0.1:9042", "10.0.0.2:9042"])

theorem get?_listed : listed.get? KnownOption.contactPoints.path =
    some (.list ["10.0.0.2", "10.0.0.1:9042", "10.0.0.2:9042"]) :=
  Table.get?_insert_self _ _ _

theorem accepted_listed : Accepted listed := by
  refine Or.inr ⟨_, get?_listed, ?_⟩
  simp only [← ContactPoints.entry_eq_some, ← Option.isSome_iff_exists]
  decide +kernel

theorem startsFrom_listed {a : Endpoint} (starts : StartsFrom listed a) :
    a = .v4 ⟨10, 0, 0, 1⟩ 9042 ∨ a = .v4 ⟨10, 0, 0, 2⟩ 9042 := by
  have entries : ∀ raw ∈ ["10.0.0.2", "10.0.0.1:9042", "10.0.0.2:9042"],
      ContactPoints.entry? raw = some (.v4 ⟨10, 0, 0, 1⟩ 9042) ∨
        ContactPoints.entry? raw = some (.v4 ⟨10, 0, 0, 2⟩ 9042) := by
    decide +kernel
  rw [StartsFrom, get?_listed] at starts
  rcases starts with ⟨_, ⟨⟩, raw, among, names⟩ | ⟨⟨⟨⟩⟩ | ⟨⟨⟩⟩, -⟩
  rw [← ContactPoints.entry_eq_some] at names
  simpa [names] using entries raw among

end Boot
end ClusterDriver
