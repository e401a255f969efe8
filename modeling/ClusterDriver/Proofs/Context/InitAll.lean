import ClusterDriver.Proofs.Context.Verdicts
/-!
# Building all components

What a call that builds all components answers, whatever accessors its thread called before and
whatever else is asked for meanwhile, by the settings alone.
-/
namespace ClusterDriver

/-- Any calls of accessors, each of which may depend on the answers before it, and then the call
that builds all components. -/
inductive CallsThenInit : ContextProgram → Prop
  | init : CallsThenInit Context.initAll
  | call (id : ComponentId) {next : Except AccessError id.Value → ContextProgram}
      (later : ∀ result, CallsThenInit (next result)) : CallsThenInit (Build.get id next)

theorem CallsThenInit.peaceful {p : ContextProgram} (calls : CallsThenInit p) : Peaceful p := by
  induction calls with
  | init => exact Context.peaceful_initAll
  | call id _ ih => exact lenient_peaceful.accessor id _ ih

theorem Peaceful.opened {p : ContextProgram} (peaceful : Peaceful p) :
    Peaceful (p.seeing ContextState.opened) := by
  refine peaceful.seeing fun p action => ?_
  cases p with
  | replace _ _ _ | await _ _ => exact action.elim
  | update _ _ => exact action
  | ok _ | fail _ | panic | get _ _ | look _ _ | stack _ => trivial

namespace Settings
variable {s : Settings} {known : Set ComponentId} {id : ComponentId} {o : KnownOption}

/-- How the call that builds all components may end: all components are complete and their options
suit, or it stopped at the first of them whose options do not. -/
inductive InitEnds (s : Settings) (known : Set ComponentId) : Outcome Failure Answer → Prop
  | built (complete : ∀ id, id ∈ known)
      (suit : ∀ id : ComponentId, s.firstUnsuited? id.reads = none) :
    InitEnds s known (.returned (.ok .nothing))
  | stopped {before id after o} (order : ComponentId.all = before ++ id :: after)
      (earlier : ∀ d ∈ before, d ∈ known ∧ s.firstUnsuited? d.reads = none) (complete : id ∈ known)
      (unsuited : s.firstUnsuited? id.reads = some o) (reason) :
    InitEnds s known (complaint o reason)

theorem lasting_initEnds : Contract.Lasting s.InitEnds := by
  intro known known' outcome sub ends
  cases ends with
  | built complete suit => exact .built (fun id => sub (complete id)) suit
  | stopped order earlier complete unsuited reason =>
    exact .stopped order (fun d hd => ⟨sub (earlier d hd).1, (earlier d hd).2⟩) (sub complete)
      unsuited reason

theorem ensures_requireAll (before rest : List ComponentId)
    (order : ComponentId.all = before ++ rest)
    (earlier : ∀ d ∈ before, d ∈ known ∧ s.firstUnsuited? d.reads = none) :
    s.contract.Ensures (fun _ => True) s.InitEnds known
      ((Context.requireAll rest fun _ => .ok .nothing).seeing ContextState.opened) := by
  induction rest generalizing before known with
  | nil =>
    rw [List.append_nil] at order
    have all : ∀ id, id ∈ known ∧ s.firstUnsuited? id.reads = none :=
      fun id => earlier id (order ▸ id.mem_all)
    exact .built (fun id => (all id).1) fun id => (all id).2
  | cons id rest ih =>
    refine Build.ensures_require trivial (fun suit known' sub complete _ => ?_) ?_
    · refine ih (before ++ [id]) (by simp [order]) fun d hd => ?_
      rcases List.mem_append.1 hd with old | new
      · exact ⟨sub (earlier d old).1, (earlier d old).2⟩
      · obtain rfl := List.mem_singleton.1 new
        exact ⟨complete, suit⟩
    · intro o reason known' unsuited sub complete
      exact .stopped order (fun d hd => ⟨sub (earlier d hd).1, (earlier d hd).2⟩) complete unsuited
        reason

theorem ensures_calls {p : ContextProgram} (calls : CallsThenInit p) :
    s.contract.Ensures (fun _ => True) s.InitEnds known (p.seeing ContextState.opened) := by
  induction calls generalizing known with
  | init => exact ensures_requireAll [] _ rfl nofun
  | call id _ ih => exact Build.ensures_get trivial fun known' _ _ result _ => ih result

/-- The first component that cannot be built has the first option that does not suit. -/
theorem firstUnsuited_checked {before after : List ComponentId}
    (order : ComponentId.all = before ++ id :: after)
    (earlier : ∀ d ∈ before, s.firstUnsuited? d.reads = none)
    (unsuited : s.firstUnsuited? id.reads = some o) :
    s.firstUnsuited? KnownOption.checked = some o := by
  have suited : s.firstUnsuited? (before.flatMap ComponentId.reads) = none := by
    rw [firstUnsuited_eq_none]
    intro p hp
    obtain ⟨d, hd, hp⟩ := List.mem_flatMap.1 hp
    exact firstUnsuited_eq_none.1 (earlier d hd) p hp
  rw [KnownOption.checked_eq_eraseDups, firstUnsuited_eraseDups, order, List.flatMap_append,
    List.flatMap_cons, firstUnsuited_append, firstUnsuited_append, suited, unsuited]
  rfl

theorem suits_reads :
    (∀ id : ComponentId, s.firstUnsuited? id.reads = none) ↔
      ∀ o ∈ KnownOption.checked, s.suits o = true := by
  rw [← firstUnsuited_eq_none, KnownOption.checked_eq_eraseDups, firstUnsuited_eraseDups,
    firstUnsuited_eq_none]
  simp only [firstUnsuited_eq_none, List.mem_flatMap]
  exact ⟨fun suit o ⟨id, _, ho⟩ => suit id o ho, fun suit id o ho => suit o ⟨id, id.mem_all, ho⟩⟩

end Settings

namespace Machine
open ContextState (opened)
variable {s : Settings} {threads : Table String ContextThread} {m : ContextMachine}
  {schedule : List String} {t : String} {id : ComponentId}

/-- A new context and the threads that use it. -/
def inUse (s : Settings) (threads : Table String ContextThread) : ContextMachine :=
  { (Context.ofSettings s).machine with threads }

/-- Threads that are about to run peaceful programs. -/
def PeacefulThreads (threads : Table String ContextThread) : Prop :=
  ∀ t thread, threads.get? t = some thread → ∃ program, thread = .run [] program ∧ Peaceful program

theorem fresh_inUse (peaceful : PeacefulThreads threads) : (inUse s threads).Fresh where
  cells id := ⟨_, rfl⟩
  graph := rfl
  threads t thread found := by
    obtain ⟨program, rfl, _⟩ := peaceful t thread found
    exact ⟨program, rfl⟩

theorem within_inUse (peaceful : PeacefulThreads threads) :
    (inUse s threads).Within PeacefulAction where
  cells id builder hid := by
    cases hid
    exact Assembly.peaceful_builder _ (lenient_peaceful.builtin s) id _ fun _ => trivial
  threads t thread found := by
    obtain ⟨program, rfl, calm⟩ := peaceful t thread found
    exact ⟨calm, fun r hr => absurd hr List.not_mem_nil⟩

/-- The context stays open, so its view as an open one is what it is. -/
theorem runSchedule_opened (peaceful : PeacefulThreads threads) (schedule : List String) :
    ((inUse s threads).seeing opened).runSchedule schedule =
      ((inUse s threads).runSchedule schedule).seeing opened := by
  refine runSchedule_seeing fun before _ => ?_
  have stays := closed_runSchedule (within_inUse (s := s) peaceful) before
  generalize ((inUse s threads).runSchedule before).shared = shared at stays
  cases shared
  exact congrArg (ContextState.mk · _ _ _) stays.symm

theorem calls_opened (peaceful : PeacefulThreads threads) {thread : ContextThread}
    (found : ((inUse s threads).seeing opened).threads.get? t = some thread) :
    ∃ program, thread = .run [] program ∧ Peaceful program := by
  rw [get?_seeing] at found
  obtain ⟨old, before, rfl⟩ := Option.map_eq_some_iff.1 found
  obtain ⟨program, rfl, calm⟩ := peaceful t old before
  exact ⟨program.seeing opened, rfl, calm.opened⟩

theorem under_opened (peaceful : PeacefulThreads threads) :
    ((inUse s threads).seeing opened).Under s.contract where
  label := rfl
  callers t program found := by
    obtain ⟨_, heq, calm⟩ := calls_opened peaceful found
    cases heq
    exact calm.steady
  builders id builder hid := by
    cases hid
    exact Assembly.keeps_builder s id

theorem ungated_opened (peaceful : PeacefulThreads threads) :
    ((inUse s threads).seeing opened).Ungated where
  cells id builder hid := by
    cases hid
    have calm := Assembly.peaceful_builder { settings := s } (lenient_peaceful.builtin s) id
      (fun value => .ok (.component id value)) fun _ => trivial
    exact (Peaceful.opened calm).ungated
  threads t thread found := by
    obtain ⟨program, rfl, calm⟩ := calls_opened peaceful found
    exact ⟨calm.ungated, fun r hr => absurd hr List.not_mem_nil⟩

/-- A component that has an outcome is built if its options suit, else it failed. -/
theorem status_of_complete (keeping : m.Keeping s.contract) (complete : id ∈ m.completed) :
    (m.content id).status = if (s.firstUnsuited? id.reads).isNone then .built else .failed := by
  obtain ⟨answer, outcome⟩ := complete
  obtain ⟨_, result, settles, rfl⟩ := keeping.outcomes id answer outcome
  have cell : m.cells id = .ofResult (result.map (.component id)) := outcome_eq_some.1 outcome
  unfold Settings.Settles at settles
  cases h : s.firstUnsuited? id.reads with
  | none =>
    rw [h] at settles
    obtain ⟨value, rfl⟩ := settles
    exact congrArg (fun cell => cell.content.status) cell
  | some o =>
    rw [h] at settles
    obtain ⟨reason, rfl⟩ := settles
    exact congrArg (fun cell => cell.content.status) cell

/-- What the call that builds all components answers when it ends. -/
theorem decided_of_ends (keeping : m.Keeping s.contract) {outcome : Outcome Failure Answer}
    (ends : s.InitEnds m.completed outcome) :
    ((outcome = .returned (.ok .nothing) ∧ ∀ id, (m.content id).status = .built) ↔
      ∀ o ∈ KnownOption.checked, s.suits o = true) ∧
    ∀ o, s.firstUnsuited? KnownOption.checked = some o →
      ∃ reason before id after,
        outcome = .returned (.error (.ofAccess (.config o.path reason))) ∧
        ComponentId.all = before ++ id :: after ∧ o ∈ id.reads ∧
        (m.content id).status = .failed ∧ ∀ d ∈ before, (m.content d).status = .built := by
  cases ends with
  | built complete suit =>
    have checked := Settings.suits_reads.1 suit
    refine ⟨⟨fun _ => checked, fun _ => ⟨rfl, fun id => ?_⟩⟩, fun o unsuited => ?_⟩
    · rw [status_of_complete keeping (complete id), suit id]
      rfl
    · rw [Settings.firstUnsuited_eq_none.2 checked] at unsuited
      cases unsuited
  | @stopped before id after o order earlier complete unsuited reason =>
    have first := Settings.firstUnsuited_checked order (fun d hd => (earlier d hd).2) unsuited
    refine ⟨⟨fun ⟨heq, _⟩ => (nomatch heq), fun suit => ?_⟩, fun o' first' => ?_⟩
    · rw [Settings.firstUnsuited_eq_none.2 suit] at first
      cases first
    · obtain rfl := Option.some.inj (first.symm.trans first')
      refine ⟨reason, before, id, after, rfl, order, List.mem_of_find?_eq_some unsuited, ?_, ?_⟩
      · rw [status_of_complete keeping complete, unsuited]
        rfl
      · intro d hd
        rw [status_of_complete keeping (earlier d hd).1, (earlier d hd).2]
        rfl

/-- Whether all components can be built, and of which option a caller that builds them hears first,
is settled by the settings, whatever accessors it called before and whatever other threads ask
for. -/
theorem initAll_decided (s : Settings) (threads : Table String ContextThread)
    (peaceful : PeacefulThreads threads) (t : String) (program : ContextProgram)
    (found : threads.get? t = some (.run [] program)) (calls : CallsThenInit program)
    (schedule : List String) :
    let m := (inUse s threads).runSchedule schedule
    (∀ outcome, m.threads.get? t = some (.done outcome) →
      ((outcome = .returned (.ok .nothing) ∧ ∀ id, (m.content id).status = .built) ↔
        ∀ o ∈ KnownOption.checked, s.suits o = true) ∧
      ∀ o, s.firstUnsuited? KnownOption.checked = some o →
        ∃ reason before id after,
          outcome = .returned (.error (.ofAccess (.config o.path reason))) ∧
          ComponentId.all = before ++ id :: after ∧ o ∈ id.reads ∧
          (m.content id).status = .failed ∧ ∀ d ∈ before, (m.content d).status = .built) ∧
    ∀ turns, m.FairTurns turns → ∃ n outcome,
      (m.runSchedule (firstTurns turns n)).threads.get? t = some (.done outcome) := by
  intro m
  have fresh : ((inUse s threads).seeing opened).Fresh := (fresh_inUse peaceful).seeing
  have under := under_opened (s := s) peaceful
  have here : ((inUse s threads).seeing opened).threads.get? t =
      some (.run [] (program.seeing opened)) := by
    rw [get?_seeing]
    exact congrArg (Option.map _) found
  -- Nobody closes the context, so the run is that of programs that read an open one.
  have seen := runSchedule_opened (s := s) peaceful
  refine ⟨fun outcome done => ?_, fun turns fair => ?_⟩
  · have done' : (m.seeing opened).threads.get? t = some (.done outcome) := by
      rw [get?_seeing, done]
      rfl
    have keeping : (m.seeing opened).Keeping s.contract :=
      seen schedule ▸ keeping_runSchedule fresh under schedule
    have ends : s.InitEnds (m.seeing opened).completed outcome := by
      rw [← seen schedule] at done' ⊢
      exact post_of_done fresh under Settings.lasting_initEnds here
        (Settings.ensures_calls calls) done'
    simpa only [content_seeing] using decided_of_ends keeping ends
  · have fair' : (((inUse s threads).seeing opened).runSchedule schedule).FairTurns turns := by
      rw [seen schedule]
      intro u thread there n
      rw [get?_seeing] at there
      obtain ⟨before, there, _⟩ := Option.map_eq_some_iff.1 there
      exact fair u before there n
    obtain ⟨n, outcome, done⟩ := ends_of_grounded fresh under s.grounded_contract
      (ungated_opened peaceful) fair' here
    rw [seen, runSchedule_append, get?_seeing] at done
    obtain ⟨thread, there, heq⟩ := Option.map_eq_some_iff.1 done
    cases thread with
    | done outcome' => exact ⟨n, outcome', there⟩
    | run _ _ | request _ _ _ => cases heq

/-- Only the balancing policy is named. -/
def sparse : Settings := Settings.empty.set KnownOption.loadBalancingPolicy.path (.string "default")

/-- Asks for a component that is declared late, and then for all. -/
def codecThenAll : ContextProgram := Build.get .frameCodec fun _ => Context.initAll

def busyCallers : Table String ContextThread :=
  .ofList [("main", .run [] codecThenAll), ("other", .run [] (Context.accessor .metadataManager))]

def byTurns (n : Nat) : String := if n % 2 = 0 then "main" else "other"

theorem peaceful_busyCallers : PeacefulThreads busyCallers := by
  intro t thread found
  have among : t ∈ ["main", "other"] := Table.mem_keys_of_get? found
  rcases List.mem_pair.1 among with rfl | rfl
  · exact ⟨codecThenAll, (Option.some.inj found).symm,
      (CallsThenInit.call _ fun _ => .init).peaceful⟩
  · exact ⟨Context.accessor .metadataManager, (Option.some.inj found).symm,
      lenient_peaceful.require _ _ fun _ => trivial⟩

theorem fair_byTurns (s : Settings) : (inUse s busyCallers).FairTurns byTurns := by
  intro t thread found n
  have among : t ∈ ["main", "other"] := Table.mem_keys_of_get? found
  rcases List.mem_pair.1 among with rfl | rfl
  · exact ⟨2 * n, by omega, by simp [byTurns]⟩
  · exact ⟨2 * n + 1, by omega, by simp [byTurns]⟩

set_option maxRecDepth 4000 in
/-- The codec fails for want of a frame limit, yet the caller hears first of an option that counts
before it. Under the settings that come with the driver all components are built. -/
theorem busyCallers_decided :
    let schedule := List.replicate 20 "other" ++ List.replicate 60 "main"
    let m := (inUse sparse busyCallers).runSchedule schedule
    PeacefulThreads busyCallers ∧
    busyCallers.get? "main" = some (.run [] codecThenAll) ∧ CallsThenInit codecThenAll ∧
    m.threads.get? "main" = some (.done
      (complaint .reconnectionPolicy "missing value, check your configuration")) ∧
    (m.content .frameCodec).status = .failed ∧
    (∃ before id after, ComponentId.all = before ++ id :: after ∧
      .reconnectionPolicy ∈ id.reads ∧ (m.content id).status = .failed ∧
      ∀ d ∈ before, (m.content d).status = .built) ∧
    ∃ n, let m := (inUse .builtin busyCallers).runSchedule (firstTurns byTurns n)
      m.threads.get? "main" = some (.done (.returned (.ok .nothing))) ∧
      ∀ id, (m.content id).status = .built := by
  intro schedule m
  have calls : CallsThenInit codecThenAll := .call _ fun _ => .init
  have done : m.threads.get? "main" = some (.done
      (complaint .reconnectionPolicy "missing value, check your configuration")) := rfl
  have decided := (initAll_decided sparse busyCallers peaceful_busyCallers "main" codecThenAll rfl
    calls schedule).1 _ done
  obtain ⟨_, before, id, after, _, stopped⟩ := decided.2 .reconnectionPolicy (by decide)
  have ends := (initAll_decided .builtin busyCallers peaceful_busyCallers "main" codecThenAll rfl
    calls []).2 byTurns (fair_byTurns _)
  obtain ⟨n, outcome, done'⟩ := ends
  have suit : ∀ o ∈ KnownOption.checked, Settings.builtin.suits o = true := by decide
  have all := ((initAll_decided .builtin busyCallers peaceful_busyCallers "main" codecThenAll rfl
    calls (firstTurns byTurns n)).1 outcome done').1.2 suit
  obtain ⟨rfl, built⟩ := all
  exact ⟨peaceful_busyCallers, rfl, calls, done, rfl, ⟨before, id, after, stopped⟩, n, done', built⟩

end Machine
end ClusterDriver
