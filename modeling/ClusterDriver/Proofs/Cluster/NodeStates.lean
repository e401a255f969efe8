import ClusterDriver.Proofs.Cluster.Replay
import Mathlib.Data.List.Induction
import Mathlib.Data.List.Infix
/-!
# Node states

The state of a member is decided by the jobs that were run since it joined. Status events set it,
unless the driver has forced the node down; only the driver's own mark takes that back. What else is
done to the membership leaves the state alone, and what is said of a node that is no member has no
effect. Reports go through the translator, the driver's marks do not.
-/
namespace ClusterDriver

namespace NodeState

/-- What the cluster reports does not count while the driver has forced the node down. -/
def reported (old new : NodeState) : NodeState := if old = .forcedDown then old else new

/-- The driver takes back that it forced the node down. -/
def released (old : NodeState) : NodeState := if old = .forcedDown then .up else old

end NodeState

/-- What a job makes of the state of the member at an address. -/
def MembershipJob.effect (a : Endpoint) (old : NodeState) : MembershipJob → NodeState
  | .statusEvent translator address state =>
    if translator.translate address = a then old.reported state else old
  | .forceDown address => if address = a then .forcedDown else old
  | .forceUp address => if address = a then old.released else old
  | .contactPoints _ | .initDistances _ _ | .refreshNode _ _ _ | .refreshAll _ _ _ _ => old

/-- It says something of the state of the node at this address. -/
def MembershipJob.Concerns (a : Endpoint) : MembershipJob → Prop
  | .statusEvent translator address _ => translator.translate address = a
  | .forceDown address | .forceUp address => address = a
  | .contactPoints _ | .initDistances _ _ | .refreshNode _ _ _ | .refreshAll _ _ _ _ => False

namespace NodeTable
variable {t t' t₀ : NodeTable} {a : Endpoint} {s : NodeState}

/-- The table after some jobs, one after the other. -/
def after (t : NodeTable) (jobs : List MembershipJob) : NodeTable :=
  jobs.foldl MembershipJob.apply t

theorem after_concat (t : NodeTable) (jobs : List MembershipJob) (job : MembershipJob) :
    t.after (jobs ++ [job]) = MembershipJob.apply (t.after jobs) job := by
  simp [after]

theorem indexed_after (empty : t₀.members = .empty) (jobs : List MembershipJob) :
    (t₀.after jobs).Indexed :=
  (indexed_of_empty empty).runs (runs_foldl MembershipJob.runs_apply jobs t₀)

/-- The state of the member at an address. -/
def state? (t : NodeTable) (a : Endpoint) : Option NodeState :=
  ((t.member? a).bind t.descriptor?).map Descriptor.state

theorem state_eq_some : t.state? a = some s ↔
    ∃ id d, t.member? a = some id ∧ t.descriptor? id = some d ∧ d.state = s := by
  cases member : t.member? a with
  | none => simp [state?, member]
  | some id => simp [state?, member, Option.map_eq_some_iff]

theorem state_of_absent (absent : t.member? a = none) : t.state? a = none := by
  simp [state?, absent]

theorem state_eq_none (indexed : t.Indexed) : t.state? a = none ↔ t.member? a = none := by
  refine ⟨fun unknown => ?_, state_of_absent⟩
  cases member : t.member? a with
  | none => rfl
  | some id =>
    obtain ⟨d, known, _⟩ := indexed a id member
    simp [state?, member, known] at unknown

/-- Members stay in their state, and others may join. -/
structure Grows (t t' : NodeTable) : Prop where
  stays : ∀ a s, t.state? a = some s → t'.state? a = some s
  joins : ∀ a, t.state? a = none → t'.state? a = none ∨ t'.state? a = some .unknown

theorem Grows.of_same (same : ∀ a, t'.state? a = t.state? a) : t.Grows t' where
  stays a _ h := (same a).trans h
  joins a h := Or.inl ((same a).trans h)

theorem Grows.trans {t'' : NodeTable} (first : t.Grows t') (second : t'.Grows t'') :
    t.Grows t'' where
  stays a s h := second.stays a s (first.stays a s h)
  joins a h := by
    rcases first.joins a h with absent | unknown
    · exact second.joins a absent
    · exact Or.inr (second.stays a _ unknown)

theorem grows_foldl {ι : Type} {f : NodeTable → ι → NodeTable} (each : ∀ t i, Grows t (f t i))
    (items : List ι) (t : NodeTable) : t.Grows (items.foldl f t) := by
  induction items generalizing t with
  | nil => exact .of_same fun _ => rfl
  | cons i rest ih => exact (each t i).trans (ih (f t i))

theorem grows_addNode (t : NodeTable) (address : Endpoint) : t.Grows (t.addNode address).2 := by
  cases member : t.member? address with
  | some id =>
    rw [addNode_of_member member]
    exact .of_same fun _ => rfl
  | none =>
    have others : ∀ a id, t.member? a = some id → (t.addNode address).2.member? a = some id := by
      intro a id found
      have other : address ≠ a := by
        rintro rfl
        cases member.symm.trans found
      rw [member_addNode_of_absent member, if_neg other, found]
    constructor
    · intro a s h
      obtain ⟨id, d, found, known, state⟩ := state_eq_some.1 h
      exact state_eq_some.2 ⟨id, d, others a id found, descriptor_addNode known address, state⟩
    · intro a absent
      refine or_iff_not_imp_left.2 fun present => ?_
      obtain ⟨s, h⟩ := Option.ne_none_iff_exists'.1 present
      obtain ⟨id, d, found, known, rfl⟩ := state_eq_some.1 h
      rcases descriptor_addNode_cases known with old | ⟨_, _, rfl⟩
      · have found' : t.member? a = some id := by
          rw [member_addNode_of_absent member] at found
          split at found
          · cases found
            exact absurd (descriptor_lt old) (Nat.lt_irrefl _)
          · exact found
        have before := state_eq_some.2 ⟨id, d, found', old, rfl⟩
        cases absent.symm.trans before
      · exact h

/-- A change of something else leaves all states as they are. -/
theorem state_change_of_same {c : Change} (same : ∀ d : Descriptor, (d.apply c).state = d.state)
    (id : NodeId) (a : Endpoint) : (t.change id c).state? a = t.state? a := by
  cases member : t.member? a with
  | none => simp [state?, member]
  | some other =>
    have state : ((t.descriptor? other).map (·.apply c)).map Descriptor.state =
        (t.descriptor? other).map Descriptor.state := by
      cases t.descriptor? other with
      | none => rfl
      | some d => exact congrArg some (same d)
    simp only [state?, member_change, member, Option.bind_some, descriptor_change]
    split
    · exact state
    · rfl

theorem grows_assignDistance (t : NodeTable) (policy : BalancingPolicy) (id : NodeId) :
    t.Grows (t.assignDistance policy id) := by
  refine .of_same fun a => ?_
  cases known : t.descriptor? id with
  | none => simp [assignDistance, known]
  | some d =>
    simp only [assignDistance, known]
    exact state_change_of_same (fun _ => rfl) id a

theorem grows_addContactPoints (addresses : List Endpoint) (t : NodeTable) :
    t.Grows (t.addContactPoints addresses).2 := by
  induction addresses generalizing t with
  | nil => exact .of_same fun _ => rfl
  | cons address rest ih => exact (grows_addNode t address).trans (ih _)

theorem grows_initDistances (policy : BalancingPolicy) (order : List Endpoint → List Endpoint)
    (t : NodeTable) : t.Grows (t.initDistances policy order) := by
  refine grows_foldl (fun t address => ?_) (order t.memberAddresses) t
  cases t.member? address with
  | none => exact .of_same fun _ => rfl
  | some id => exact grows_assignDistance t policy id

theorem grows_applyRow (policy : BalancingPolicy) (row : PeerRow) (t : NodeTable) :
    t.Grows (t.applyRow policy row).2 := by
  let added := (t.addNode row.address).2
  let id := (t.addNode row.address).1
  have filled : added.Grows (added.change id (.info row.info)) :=
    .of_same (state_change_of_same (fun _ => rfl) id)
  exact ((grows_addNode t row.address).trans filled).trans (grows_assignDistance _ policy id)

theorem state_removeNode (t : NodeTable) (address a : Endpoint) :
    (t.removeNode address).2.state? a = none ∨
      (t.removeNode address).2.state? a = t.state? a := by
  have descriptors : (t.removeNode address).2.descriptor? = t.descriptor? :=
    funext (descriptor_removeNode address)
  by_cases h : address = a
  · exact Or.inl (state_of_absent (by rw [member_removeNode, if_pos h]))
  · exact Or.inr (by rw [state?, member_removeNode, if_neg h, descriptors, state?])

theorem state_removeAll (addresses : List Endpoint) (t : NodeTable) (a : Endpoint) :
    (t.removeAll addresses).state? a = none ∨ (t.removeAll addresses).state? a = t.state? a := by
  induction addresses generalizing t with
  | nil => exact Or.inr rfl
  | cons address rest ih =>
    rcases ih (t.removeNode address).2 with gone | same
    · exact Or.inl gone
    · exact (state_removeNode t address a).imp same.trans same.trans

/-- What may come of the state that a node has, or of its absence: members that stay pass to the
state that `f` gives, others join with no state known, or are absent. -/
inductive Passes (f : NodeState → NodeState) : Option NodeState → Option NodeState → Prop
  | absent (old : Option NodeState) : Passes f old none
  | joins : Passes f none (some .unknown)
  | stays (s : NodeState) : Passes f (some s) (some (f s))

theorem Passes.of_map {f : NodeState → NodeState} {old new : Option NodeState}
    (h : new = old.map f) : Passes f old new := by
  subst h
  cases old with
  | none => exact .absent none
  | some s => exact .stays s

theorem Passes.eq_some {f : NodeState → NodeState} {new : Option NodeState}
    (passes : Passes f (some s) new) (present : new ≠ none) : new = some (f s) := by
  cases passes with
  | absent => exact absurd rfl present
  | stays => rfl

theorem Passes.eq_unknown {f : NodeState → NodeState} {new : Option NodeState}
    (passes : Passes f none new) (present : new ≠ none) : new = some .unknown := by
  cases passes with
  | absent => exact absurd rfl present
  | joins => rfl

theorem Grows.passes (grows : t.Grows t') (a : Endpoint) :
    Passes (fun s => s) (t.state? a) (t'.state? a) := by
  cases old : t.state? a with
  | none =>
    rcases grows.joins a old with absent | unknown
    · rw [absent]
      exact .absent none
    · rw [unknown]
      exact .joins
  | some s =>
    rw [grows.stays a s old]
    exact .stays s

theorem passes_refreshAll (policy : BalancingPolicy) (order : List Endpoint → List Endpoint)
    (rows : List PeerRow) (t : NodeTable) (a : Endpoint) :
    Passes (fun s => s) (t.state? a) ((t.refreshAll policy order rows).2.state? a) := by
  have applied : t.Grows (t.applyRows policy rows) :=
    grows_foldl (fun t row => grows_applyRow policy row t) rows t
  rcases state_removeAll _ (t.applyRows policy rows) a with gone | same
  · rw [refreshAll, gone]
    exact .absent _
  · rw [refreshAll, same]
    exact applied.passes a

/-- A change of one member, which makes `f` of its state, leaves the states of all others. -/
theorem state_changeMember (indexed : t.Indexed) {c : Descriptor → Option Change}
    {f : NodeState → NodeState} (follows : ∀ d, ((c d).elim d d.apply).state = f d.state)
    (address a : Endpoint) : (t.changeMember address c).state? a =
      (t.state? a).map fun s => if address = a then f s else s := by
  by_cases h : address = a
  · subst h
    simp only [if_true]
    cases member : t.member? address with
    | none => simp [changeMember, state?, member]
    | some id =>
      obtain ⟨d, known, _⟩ := indexed address id member
      cases hc : c d with
      | none => simpa [changeMember, state?, member, known, hc] using follows d
      | some change =>
        simpa [changeMember, state?, member, known, hc, descriptor_change] using follows d
  · simp only [if_neg h, Option.map_id']
    cases member : t.member? address with
    | none => simp [changeMember, member]
    | some id =>
      cases hc : (t.descriptor? id).bind c with
      | none => simp [changeMember, member, hc]
      | some change =>
        simp only [changeMember, member, hc, state?, member_change]
        cases found : t.member? a with
        | none => rfl
        | some other =>
          have different : id ≠ other := by
            rintro rfl
            exact h (indexed.address_unique member found)
          simp [descriptor_change, different]

/-- What one job makes of the state of a node. -/
theorem passes_apply (indexed : t.Indexed) (job : MembershipJob) (a : Endpoint) :
    Passes (job.effect a ·) (t.state? a) ((MembershipJob.apply t job).state? a) := by
  cases job with
  | contactPoints addresses => exact (grows_addContactPoints addresses t).passes a
  | initDistances policy order => exact (grows_initDistances policy order t).passes a
  | refreshNode policy translator row => exact (grows_applyRow policy _ t).passes a
  | refreshAll policy translator order rows => exact passes_refreshAll policy order _ t a
  | statusEvent translator address state =>
    refine .of_map (state_changeMember indexed (fun d => ?_) (translator.translate address) a)
    by_cases h : d.state = .forcedDown <;> simp [h, NodeState.reported]
  | forceDown address => exact .of_map (state_changeMember indexed (fun _ => rfl) address a)
  | forceUp address =>
    refine .of_map (state_changeMember indexed (fun d => ?_) address a)
    by_cases h : d.state = .forcedDown <;> simp [h, NodeState.released]

/-- The job `joining` makes a member of the node, which stays one through all jobs since. -/
structure Tenure (t₀ : NodeTable) (a : Endpoint) (before : List MembershipJob)
    (joining : MembershipJob) (since : List MembershipJob) : Prop where
  absent : (t₀.after before).member? a = none
  stays : ∀ done, done <+: since → (t₀.after (before ++ joining :: done)).member? a ≠ none

/-- While a node stays a member, its state is what the jobs make of it one after the other. -/
theorem state_foldl (empty : t₀.members = .empty) {before lasting : List MembershipJob}
    (start : (t₀.after before).state? a = some s)
    (stays : ∀ done, done <+: lasting → (t₀.after (before ++ done)).member? a ≠ none) :
    (t₀.after (before ++ lasting)).state? a = some (lasting.foldl (MembershipJob.effect a) s) := by
  induction lasting using List.reverseRecOn with
  | nil => simpa using start
  | append_singleton done job ih =>
    have state := ih fun part short => stays part (short.trans (List.prefix_append done [job]))
    have indexed := indexed_after empty
    have present := (state_eq_none (indexed _)).not.2 (stays (done ++ [job]) List.prefix_rfl)
    have passes := passes_apply (indexed (before ++ done)) job a
    rw [state, ← after_concat, List.append_assoc] at passes
    rw [passes.eq_some present, List.foldl_append]
    rfl

/-- Every member joined by some job, and was one ever since. -/
theorem tenure_of_member (empty : t₀.members = .empty) (jobs : List MembershipJob)
    (member : (t₀.after jobs).member? a ≠ none) :
    ∃ before joining since, jobs = before ++ joining :: since ∧
      t₀.Tenure a before joining since := by
  induction jobs using List.reverseRecOn with
  | nil => simp [after, member?, empty] at member
  | append_singleton jobs job ih =>
    by_cases absent : (t₀.after jobs).member? a = none
    · refine ⟨jobs, job, [], rfl, absent, fun done short => ?_⟩
      rwa [List.prefix_nil.1 short]
    · obtain ⟨before, joining, since, rfl, tenure⟩ := ih absent
      refine ⟨before, joining, since ++ [job], by simp, tenure.absent, fun done short => ?_⟩
      rcases List.prefix_concat_iff.1 short with rfl | short
      · simpa using member
      · exact tenure.stays done short

/-- A node joins in a state that is not known, and the jobs since then make its state of that. -/
theorem Tenure.state (empty : t₀.members = .empty) {before since : List MembershipJob}
    {joining : MembershipJob} (tenure : t₀.Tenure a before joining since) :
    (t₀.after (before ++ joining :: since)).state? a =
      some (since.foldl (MembershipJob.effect a) .unknown) := by
  have indexed := indexed_after empty
  have joined : (t₀.after (before ++ [joining])).state? a = some .unknown := by
    have present := (state_eq_none (indexed _)).not.2 (tenure.stays [] (List.nil_prefix))
    have passes := passes_apply (indexed before) joining a
    rw [state_of_absent tenure.absent, ← after_concat] at passes
    exact passes.eq_unknown present
  have stays : ∀ done, done <+: since →
      (t₀.after (before ++ [joining] ++ done)).member? a ≠ none := by
    simpa using tenure.stays
  simpa using state_foldl empty joined stays

/-- Only the driver itself takes back that it forced a node down. -/
theorem effect_forcedDown {job : MembershipJob} (kept : job ≠ .forceUp a) :
    job.effect a .forcedDown = .forcedDown := by
  cases job with
  | forceUp address =>
    have other : address ≠ a := fun h => kept (h ▸ rfl)
    simp [MembershipJob.effect, other]
  | _ => simp [MembershipJob.effect, NodeState.reported]

theorem foldl_effect_forcedDown {lasting : List MembershipJob}
    (kept : ∀ job ∈ lasting, job ≠ .forceUp a) :
    lasting.foldl (MembershipJob.effect a) .forcedDown = .forcedDown := by
  induction lasting with
  | nil => rfl
  | cons job rest ih =>
    rw [List.foldl_cons, effect_forcedDown (kept job List.mem_cons_self)]
    exact ih fun job later => kept job (List.mem_cons_of_mem _ later)

theorem state_forceDown (indexed : t.Indexed) (member : (t.forceDown a).member? a ≠ none) :
    (t.forceDown a).state? a = some .forcedDown := by
  rw [forceDown, member_changeMember] at member
  obtain ⟨s, old⟩ := Option.ne_none_iff_exists'.1 ((state_eq_none indexed).not.2 member)
  rw [forceDown, state_changeMember indexed (f := fun _ => .forcedDown) (fun _ => rfl), old]
  simp

/-- What is said of a node that is no member has no effect. -/
theorem apply_of_absent {job : MembershipJob} (absent : t.member? a = none)
    (concerns : job.Concerns a) : MembershipJob.apply t job = t := by
  have unmoved : ∀ c, t.changeMember a c = t := fun c => by simp [changeMember, absent]
  cases job with
  | statusEvent translator address state =>
    obtain rfl : translator.translate address = a := concerns
    exact unmoved _
  | forceDown address =>
    obtain rfl : address = a := concerns
    exact unmoved _
  | forceUp address =>
    obtain rfl : address = a := concerns
    exact unmoved _
  | contactPoints | initDistances | refreshNode | refreshAll => exact concerns.elim

/-- The jobs since a node joined determine its state. In particular, a node that the driver forced
down stays so until the driver takes that back or the node leaves. What is reported or marked of a
node that is no member leaves the whole table as it is, so that nothing is published. -/
theorem jobs_determine_state (t₀ : NodeTable) (empty : t₀.members = .empty) (a : Endpoint) :
    (∀ jobs, (t₀.after jobs).member? a ≠ none → ∃ before joining since,
      jobs = before ++ joining :: since ∧ t₀.Tenure a before joining since) ∧
    (∀ before joining since, t₀.Tenure a before joining since →
      (t₀.after (before ++ joining :: since)).state? a =
        some (since.foldl (MembershipJob.effect a) .unknown)) ∧
    (∀ before lasting,
      (∀ done, done <+: lasting → (t₀.after (before ++ .forceDown a :: done)).member? a ≠ none) →
      (∀ job ∈ lasting, job ≠ .forceUp a) →
      (t₀.after (before ++ .forceDown a :: lasting)).state? a = some .forcedDown) ∧
    ∀ jobs job, (t₀.after jobs).member? a = none → job.Concerns a →
      MembershipJob.apply (t₀.after jobs) job = t₀.after jobs := by
  refine ⟨fun jobs => tenure_of_member empty jobs, fun _ _ _ tenure => tenure.state empty, ?_,
    fun _ _ => apply_of_absent⟩
  intro before lasting stays kept
  have forced : (t₀.after (before ++ [.forceDown a])).state? a = some .forcedDown := by
    have member := stays [] List.nil_prefix
    rw [after_concat] at member ⊢
    exact state_forceDown (indexed_after empty before) member
  have stays' : ∀ done, done <+: lasting →
      (t₀.after (before ++ [.forceDown a] ++ done)).member? a ≠ none := by
    simpa using stays
  have state := state_foldl empty forced stays'
  rw [foldl_effect_forcedDown kept] at state
  simpa using state

/-- The cluster has another address for the node on port 1. -/
def relocating : AddressTranslator := ⟨fun b => if b = onPort 9 then onPort 1 else b⟩

/-- The node goes down, is forced down, and is then reported to be up and to be a member. -/
def insisting : List MembershipJob :=
  [.statusEvent relocating (onPort 9) .down, .forceDown (onPort 1),
    .statusEvent relocating (onPort 9) .up, .refreshAll .builtin relocating id [⟨onPort 9, {}⟩],
    .initDistances .builtin id, .statusEvent relocating (onPort 9) .down]

theorem insisting_in_vain :
    let early : List MembershipJob := [.forceDown (onPort 1), .forceUp (onPort 1)]
    let joining : MembershipJob := .refreshNode .builtin relocating ⟨onPort 9, {}⟩
    let t := ({} : NodeTable).after (early ++ joining :: insisting)
    ({} : NodeTable).Tenure (onPort 1) early joining insisting ∧
    t.state? (onPort 1) = some .forcedDown ∧
    (t.forceUp (onPort 1)).state? (onPort 1) = some .up ∧
    t.outbox =
      [.nodeAdded (onPort 1), .distanceChanged (onPort 1) .ignored .near,
        .stateChanged (onPort 1) .unknown .down, .stateChanged (onPort 1) .down .forcedDown] := by
  intro early joining t
  have everywhere : ∀ done ∈ insisting.inits,
      (({} : NodeTable).after (early ++ joining :: done)).member? (onPort 1) ≠ none := by decide
  have tenure : ({} : NodeTable).Tenure (onPort 1) early joining insisting :=
    ⟨by decide, fun done short => everywhere done ((List.mem_inits _ _).2 short)⟩
  have state := (jobs_determine_state {} rfl (onPort 1)).2.1 early joining insisting tenure
  exact ⟨tenure, state.trans (by decide), by decide, by decide⟩

end NodeTable
end ClusterDriver
