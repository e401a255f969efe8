import ClusterDriver.Proofs.Context.Peaceful
import ClusterDriver.Proofs.Context.Validity
import ClusterDriver.Proofs.Registry.Callers
import ClusterDriver.Proofs.Registry.Grounded
import ClusterDriver.Proofs.Registry.Views
/-!
# Verdicts of settings

What becomes of every component of an open context, by the options that its builder comes to look
at, directly or through other components. It does not depend on what was asked for before, nor on
what other threads do. Builders are followed under the view of a context that is open.
-/
namespace ClusterDriver
open Relation

namespace KnownOption

def ofCodec : List KnownOption := ofTransport ++ [.compression]

def ofChannels : List KnownOption :=
  ofCodec ++ [.protocolVersion, .sslEngineFactory] ++ ofAuth ++ ofTransport

def ofControl : List KnownOption := ofChannels ++ ofReconnection ++ [.loadBalancingPolicy]

end KnownOption

namespace ComponentId
variable {c d : ComponentId}

instance : Fintype ComponentId := .ofList all mem_all

/-- Higher than that of every component which the builder asks for. -/
def level : ComponentId → Nat
  | .frameCodec | .sslHandler | .metadataManager => 1
  | .channelFactory | .balancer => 2
  | .controlConnection => 3
  | .topologyMonitor => 4
  | _ => 0

def Below (c d : ComponentId) : Prop := d.level < c.level

instance : Decidable (Below c d) := inferInstanceAs (Decidable (d.level < c.level))

theorem level_lt (below : TransGen Below c d) : d.level < c.level := by
  induction below with
  | single h => exact h
  | tail _ h ih => exact Nat.lt_trans h ih

/-- The options that decide what becomes of the component, in the order in which they count. -/
def reads : ComponentId → List KnownOption
  | .balancingPolicy | .balancer => [.loadBalancingPolicy]
  | .reconnectionPolicy => KnownOption.ofReconnection
  | .addressTranslator => [.addressTranslator]
  | .authProvider => KnownOption.ofAuth
  | .sslEngine | .sslHandler => [.sslEngineFactory]
  | .compressor => [.compression]
  | .frameCodec => KnownOption.ofCodec
  | .versionChoice => [.protocolVersion]
  | .transportOptions => KnownOption.ofTransport
  | .channelFactory => KnownOption.ofChannels
  | .controlConnection => KnownOption.ofControl
  | .topologyMonitor => KnownOption.ofControl ++ [.addressTranslator, .loadBalancingPolicy]
  | .eventBus | .writeCoalescer | .metricsFactory | .metadataManager => []

end ComponentId

/-- The options in the order in which the components come to look at them. -/
theorem KnownOption.checked_eq_eraseDups :
    checked = (ComponentId.all.flatMap ComponentId.reads).eraseDups := by decide

/-- How a component is answered for: with a value of its own if its options suit, else with a
complaint about the first that does not. -/
def Settings.Verdict (s : Settings) (c : ComponentId) (answer : Except AccessError Answer) : Prop :=
  ∃ result : Except AccessError c.Value,
    s.Settles c.reads result ∧ answer = result.map (Answer.component c)

/-- A cell that has an outcome has the one that the settings give it. -/
def Settings.contract (s : Settings) : Contract ComponentId Answer where
  label := ComponentId.name
  depends := ComponentId.Below
  admits known c answer := c ∈ known ∧ s.Verdict c answer
  admits_mono sub admitted := ⟨sub admitted.1, admitted.2⟩
  admits_refusal _ _ _ loop := absurd (ComponentId.level_lt loop) (Nat.lt_irrefl _)

theorem Settings.grounded_contract (s : Settings) : s.contract.Grounded :=
  InvImage.wf ComponentId.level Nat.lt_wfRel.wf

def ContextState.opened (s : ContextState) : ContextState := { s with closed := false }

def complaint (o : KnownOption) (reason : String) : Outcome Failure Answer :=
  .returned (.error (.ofAccess (.config o.path reason)))

namespace Build
variable {β γ : Type} {s : Settings} {asks : ComponentId → Prop} {options rest : List KnownOption}
  {known : Set ComponentId} {post : Set ComponentId → Outcome Failure Answer → Prop}

/-- While the context is open, the build comes to look at these options. It goes on if all of them
suit, else it fails with a complaint about the first that does not. -/
def Reads (s : Settings) (asks : ComponentId → Prop) (options : List KnownOption)
    (build : Build β) : Prop :=
  ∀ (post : Set ComponentId → Outcome Failure Answer → Prop) known (next : β → ContextProgram),
    (s.firstUnsuited? options = none → ∀ known', known ⊆ known' → ∀ b,
      s.contract.Ensures asks post known' ((next b).seeing ContextState.opened)) →
    (∀ o reason known', s.firstUnsuited? options = some o → known ⊆ known' →
      post known' (complaint o reason)) →
    s.contract.Ensures asks post known ((build next).seeing ContextState.opened)

theorem Reads.skip (suit : s.firstUnsuited? options = none) (b : β) :
    Reads s asks options (pure b : Build β) :=
  fun _ known _ goesOn _ => goesOn suit known subset_rfl b

theorem Reads.pure (b : β) : Reads s asks [] (pure b : Build β) := .skip rfl b

theorem Reads.bind {build : Build β} {f : β → Build γ} (first : Reads s asks options build)
    (later : ∀ b, Reads s asks rest (f b)) : Reads s asks (options ++ rest) (build >>= f) := by
  intro post known next goesOn complains
  rw [Settings.firstUnsuited_append] at goesOn complains
  refine first post known _ (fun suit known' sub b => ?_) fun o reason known' unsuited sub => ?_
  · rw [suit] at goesOn complains
    exact later b post known' next
      (fun suit' known'' sub' => goesOn suit' known'' (sub.trans sub'))
      fun o reason known'' unsuited sub' => complains o reason known'' unsuited (sub.trans sub')
  · exact complains o reason known' (by rw [unsuited]; rfl) sub

theorem Reads.map {build : Build β} (reads : Reads s asks options build) (f : β → γ) :
    Reads s asks options (build >>= fun b => Pure.pure (f b)) := by
  rw [← List.append_nil options]
  exact reads.bind fun b => .pure (f b)

theorem Reads.ofResult {result : Except AccessError β} (settles : s.Settles options result) :
    Reads s asks options (ofResult result) := by
  intro post known next goesOn complains
  unfold Settings.Settles at settles
  cases h : s.firstUnsuited? options with
  | none =>
    rw [h] at settles
    obtain ⟨b, rfl⟩ := settles
    exact goesOn h known subset_rfl b
  | some o =>
    rw [h] at settles
    obtain ⟨reason, rfl⟩ := settles
    exact complains o reason known h subset_rfl

theorem Reads.raise {o : KnownOption} (unsuited : s.suits o = false) (reason : String) :
    Reads s asks (o :: rest) (raise (.ofAccess (.config o.path reason)) : Build β) :=
  fun _ known _ _ complains => complains o reason known
    (by rw [Settings.firstUnsuited_cons, unsuited]; rfl) subset_rfl

/-- An option that suits is passed over. -/
theorem Reads.cons {o : KnownOption} {build : Build β} (suits : s.suits o = true)
    (reads : Reads s asks rest build) : Reads s asks (o :: rest) build := by
  unfold Reads
  rw [Settings.firstUnsuited_cons, suits, if_pos rfl]
  exact reads

theorem Reads.makeBus : Reads s asks [] (makeBus EventBus.defaultCapacity) :=
  fun _ known _ goesOn _ _ _ => goesOn rfl known subset_rfl _

theorem Reads.startManager (factory : MetricsFactory) (bus : BusId) :
    Reads s asks [] (startManager factory bus) :=
  fun _ known _ goesOn _ _ _ => goesOn rfl known subset_rfl _

/-- The accessor of a component, in an open context. -/
theorem ensures_get {id : ComponentId} {next : Except AccessError id.Value → ContextProgram}
    (allowed : asks id)
    (goesOn : ∀ known', known ⊆ known' → id ∈ known' → ∀ result, s.Settles id.reads result →
      s.contract.Ensures asks post known' ((next result).seeing ContextState.opened)) :
    s.contract.Ensures asks post known ((get id next).seeing ContextState.opened) := by
  refine fun _ _ => ⟨allowed, fun known' sub answer admitted => ?_⟩
  obtain ⟨complete, result, settles, rfl⟩ := admitted
  have answered := goesOn known' sub complete result settles
  cases result with
  | error e => exact answered
  | ok value =>
    simpa only [Except.map, Answer.value?_component] using answered

theorem ensures_require {id : ComponentId} {next : id.Value → ContextProgram} (allowed : asks id)
    (goesOn : s.firstUnsuited? id.reads = none → ∀ known', known ⊆ known' → id ∈ known' → ∀ value,
      s.contract.Ensures asks post known' ((next value).seeing ContextState.opened))
    (complains : ∀ o reason known', s.firstUnsuited? id.reads = some o → known ⊆ known' →
      id ∈ known' → post known' (complaint o reason)) :
    s.contract.Ensures asks post known ((require id next).seeing ContextState.opened) := by
  refine ensures_get allowed fun known' sub complete result settles => ?_
  exact Reads.ofResult settles post known' next
    (fun suit known'' sub' => goesOn suit known'' (sub.trans sub') (sub' complete))
    fun o reason known'' unsuited sub' =>
      complains o reason known'' unsuited (sub.trans sub') (sub' complete)

theorem Reads.require (id : ComponentId) (allowed : asks id) :
    Reads s asks id.reads (require id) :=
  fun _ _ _ goesOn complains => ensures_require allowed
    (fun suit known' sub _ => goesOn suit known' sub)
    fun o reason known' unsuited sub _ => complains o reason known' unsuited sub

theorem Reads.needs (id : ComponentId) {f : id.Value → Build β} (allowed : asks id)
    (later : ∀ value, Reads s asks rest (f value)) :
    Reads s asks (id.reads ++ rest) (Build.require id >>= f) :=
  .bind (.require id allowed) later

end Build

namespace StrategyTable
variable {β : Type}

/-- What a lookup does: nothing, the build of a strategy, or a complaint about the option. -/
inductive Lookup (t : StrategyTable β) (s : Settings) (option : KnownOption) :
    Build (Option β) → Prop
  | unset (missing : s.get? option.path = none) : Lookup t s option (pure none)
  | named {id build} (given : s.get? option.path = some (.string id))
      (known : t.entries.get? id = some build) :
      Lookup t s option (build >>= fun strategy => pure (some strategy))
  | unknown {value} (given : s.get? option.path = some value)
      (other : ∀ id, value = .string id → t.entries.get? id = none) (reason) :
      Lookup t s option (.raise (.ofAccess (.config option.path reason)))

theorem lookup_optional (t : StrategyTable β) (s : Settings) (option : KnownOption) :
    t.Lookup s option (t.optional s option) := by
  cases given : s.get? option.path with
  | none =>
    have skips : t.optional s option = pure none := by
      simp only [optional, Settings.optionalString, given]
      rfl
    exact skips ▸ .unset given
  | some value =>
    cases value with
    | string id =>
      have found : s.optionalString option.path = .ok (some id) := by
        simp only [Settings.optionalString, given]
      cases known : t.entries.get? id with
      | none =>
        have raises : t.optional s option = .raise (.ofAccess (t.unknown option id)) := by
          funext next
          simp [optional, found, Build.ofResult, bind, pure, known]
        exact raises ▸ .unknown given (fun _ heq => by cases heq; exact known) _
      | some build =>
        have builds : t.optional s option = build >>= fun strategy => pure (some strategy) := by
          funext next
          simp [optional, found, Build.ofResult, bind, pure, known]
        exact builds ▸ .named given known
    | integer _ | boolean _ | duration _ | list _ =>
      have raises : ∃ reason, t.optional s option =
          .raise (.ofAccess (.config option.path reason)) := by
        simp only [optional, Settings.optionalString, given]
        exact ⟨_, rfl⟩
      obtain ⟨reason, raises⟩ := raises
      exact raises ▸ .unknown given (fun _ heq => by cases heq) reason

variable {s : Settings} {asks : ComponentId → Prop} {rest : List KnownOption}
  {option : KnownOption} {kind name : String} {build : Build β}

/-- In a table of one strategy. -/
theorem Lookup.single {found : Build (Option β)}
    (lookup : ((⟨kind, .empty⟩ : StrategyTable β).register name build).Lookup s option found) :
    (s.get? option.path = none ∧ found = pure none) ∨
    (s.get? option.path = some (.string name) ∧
      found = build >>= fun strategy => pure (some strategy)) ∨
    ∃ reason, s.get? option.path ≠ none ∧ s.get? option.path ≠ some (.string name) ∧
      found = .raise (.ofAccess (.config option.path reason)) := by
  have entries : ∀ id, ((⟨kind, .empty⟩ : StrategyTable β).register name build).entries.get? id =
      if name = id then some build else none := fun id => Table.get?_insert _ _ id _
  cases lookup with
  | unset missing => exact .inl ⟨missing, rfl⟩
  | named given known =>
    rw [entries] at known
    split at known
    · next same =>
      cases known
      exact .inr (.inl ⟨same ▸ given, rfl⟩)
    · cases known
  | @unknown value given other reason =>
    have away : value ≠ .string name := fun heq => by simpa [entries] using other name heq
    exact .inr (.inr ⟨reason, by simp [given], by simpa [given] using away, rfl⟩)

/-- A strategy that has to be named, where there is one. -/
theorem reads_required (suits : s.suits option = decide (s.get? option.path = some (.string name)))
    (reads : s.get? option.path = some (.string name) → Build.Reads s asks rest build) :
    Build.Reads s asks (option :: rest)
      (((⟨kind, .empty⟩ : StrategyTable β).register name build).required s option) := by
  unfold required
  rcases (lookup_optional (register ⟨kind, .empty⟩ name build) s option).single with
    ⟨missing, found⟩ | ⟨given, found⟩ | ⟨reason, _, other, found⟩
  · rw [found]
    exact .raise (by simp [suits, missing]) _
  · rw [found]
    exact .cons (by simp [suits, given]) (reads given)
  · rw [found]
    exact .raise (by simp [suits, other]) reason

/-- A strategy that may be left out, where there is one. -/
theorem reads_optional (suits : s.suits option =
      decide (s.get? option.path = none ∨ s.get? option.path = some (.string name)))
    (unused : s.get? option.path = none → s.firstUnsuited? rest = none)
    (reads : s.get? option.path = some (.string name) → Build.Reads s asks rest build) :
    Build.Reads s asks (option :: rest)
      (((⟨kind, .empty⟩ : StrategyTable β).register name build).optional s option) := by
  rcases (lookup_optional (register ⟨kind, .empty⟩ name build) s option).single with
    ⟨missing, found⟩ | ⟨given, found⟩ | ⟨reason, set, other, found⟩
  · rw [found]
    exact .cons (by simp [suits, missing]) (.skip (unused missing) _)
  · rw [found]
    exact .cons (by simp [suits, given]) ((reads given).map some)
  · rw [found]
    exact .raise (by simp [suits, set, other]) reason

/-- No strategy can be named. -/
theorem reads_none (suits : s.suits option = decide (s.get? option.path = none)) :
    Build.Reads s asks [option] ((⟨kind, .empty⟩ : StrategyTable β).optional s option) := by
  have lookup := lookup_optional (⟨kind, .empty⟩ : StrategyTable β) s option
  generalize optional _ s option = found at lookup
  cases lookup with
  | unset missing => exact .cons (by simp [suits, missing]) (.pure _)
  | named given known => cases known
  | unknown given other reason => exact .raise (by simp [suits, given]) reason

end StrategyTable

namespace Build
variable {s : Settings} {asks : ComponentId → Prop}

/-- The credentials do not count without the provider that asks for them. -/
theorem reads_auth :
    Reads s asks KnownOption.ofAuth ((Strategies.builtin s).auth.optional s .authProvider) := by
  refine StrategyTable.reads_optional rfl (fun unset => ?_) fun plain => ?_
  · simp [Settings.firstUnsuited?, Settings.suits, unset]
  · exact .ofResult ((Settings.settles_credentials plain).map _)

/-- Of two ways to go on, the one taken in an open context. -/
theorem reads_unlessClosed {β : Type} {options : List KnownOption} {whenClosed build : Build β}
    (reads : Reads s asks options build) :
    Reads s asks options (do if (← state).closed then whenClosed else build) :=
  fun post known next goesOn complains _ _ => reads post known next goesOn complains

end Build

/-- Every builder comes to look at the options of its component, and at no others. -/
theorem Assembly.reads_builder (s : Settings) (id : ComponentId) :
    Build.Reads s (ComponentId.Below id) id.reads
      (({ settings := s } : Assembly).builder id) := by
  cases id with
  | balancingPolicy => exact StrategyTable.reads_required rfl fun _ => .pure _
  | reconnectionPolicy =>
    exact StrategyTable.reads_required rfl fun _ => .ofResult Settings.settles_reconnection
  | addressTranslator => exact StrategyTable.reads_required rfl fun _ => .pure _
  | authProvider => exact Build.reads_auth
  | sslEngine => exact StrategyTable.reads_none rfl
  | eventBus => exact .makeBus
  | compressor =>
    exact (StrategyTable.reads_optional rfl (fun _ => rfl) fun _ => .pure _).map _
  | versionChoice => exact .ofResult Settings.settles_version
  | transportOptions => exact .ofResult Settings.settles_transport
  | writeCoalescer | metricsFactory => exact .pure _
  | sslHandler => exact Build.Reads.require .sslEngine (by decide)
  | frameCodec =>
    exact .needs .transportOptions (by decide) fun _ =>
      .needs .compressor (by decide) fun _ => .pure _
  | metadataManager =>
    exact .needs .eventBus (by decide) fun _ =>
      .needs .metricsFactory (by decide) fun _ =>
      .bind (.startManager _ _) fun _ => Build.reads_unlessClosed (.pure _)
  | balancer =>
    exact .needs .balancingPolicy (by decide) fun _ =>
      .needs .metadataManager (by decide) fun _ => .pure _
  | controlConnection =>
    exact .needs .channelFactory (by decide) fun _ =>
      .needs .reconnectionPolicy (by decide) fun _ =>
      .needs .balancer (by decide) fun _ => .pure _
  | topologyMonitor =>
    exact .needs .controlConnection (by decide) fun _ =>
      .needs .addressTranslator (by decide) fun _ =>
      .needs .metadataManager (by decide) fun _ =>
      .needs .balancer (by decide) fun _ => .pure _
  | channelFactory =>
    exact .needs .frameCodec (by decide) fun _ =>
      .needs .versionChoice (by decide) fun _ =>
      .needs .writeCoalescer (by decide) fun _ =>
      .needs .sslHandler (by decide) fun _ =>
      .needs .authProvider (by decide) fun _ =>
      .needs .transportOptions (by decide) fun _ => .pure _

theorem Assembly.keeps_builder (s : Settings) (id : ComponentId) :
    s.contract.Keeps ∅ id
      ((Build.program id (({ settings := s } : Assembly).builder id)).seeing
        ContextState.opened) := by
  refine Contract.keeps_of_ensures (Assembly.reads_builder s id _ ∅ _ ?_ ?_)
  · intro suit known _ value
    refine ⟨Set.mem_insert _ _, .ok value, ?_, rfl⟩
    rw [Settings.Settles, suit]
    exact ⟨value, rfl⟩
  · intro o reason known unsuited _
    refine ⟨Set.mem_insert _ _, .error (.config o.path reason), ?_, rfl⟩
    rw [Settings.Settles, unsuited]
    exact ⟨reason, rfl⟩

end ClusterDriver
