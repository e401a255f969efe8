import ClusterDriver.Proofs.Cluster.Descriptors
import Mathlib.Order.Bounds.Basic
/-!
# Gauges

The count of open connections and the count of pending reconnections of a descriptor. A count does
not go below zero, so it is not what was opened less what was closed: it is the greatest such
difference over the last calls, from any point on. What is recorded is the count after each call.
-/
namespace ClusterDriver

/-- A call that moves a count. -/
inductive GaugeCall where
  | up
  | down
  deriving DecidableEq, Repr

namespace GaugeCall
variable {calls before last : List GaugeCall} {call : GaugeCall} {n m : Nat} {values : List Nat}

/-- What the call makes of the count. -/
def apply (n : Nat) : GaugeCall → Nat
  | .up => n + 1
  | .down => n - 1

/-- The calls up less the calls down. -/
def net (calls : List GaugeCall) : Int := calls.count .up - calls.count .down

/-- The count is the greatest net of the last calls, from any point on. -/
def Level (calls : List GaugeCall) (n : Nat) : Prop :=
  IsGreatest {m : Int | ∃ last, last <:+ calls ∧ m = net last} n

/-- The values are the counts after the first call, after the second, and so on to the last. -/
def Successive (calls : List GaugeCall) (values : List Nat) : Prop :=
  values.length = calls.length ∧
    ∀ (i : Nat) (n : Nat), values[i]? = some n → Level (calls.take (i + 1)) n

theorem net_append (before last : List GaugeCall) :
    net (before ++ last) = net before + net last := by
  simp only [net, List.count_append]
  omega

theorem net_le_length (calls : List GaugeCall) : net calls ≤ calls.length := by
  have most : calls.count .up ≤ calls.length := List.count_le_length
  simp only [net]
  omega

theorem net_concat_up (calls : List GaugeCall) : net (calls ++ [.up]) = net calls + 1 :=
  net_append calls [.up]

theorem net_concat_down (calls : List GaugeCall) : net (calls ++ [.down]) = net calls - 1 :=
  net_append calls [.down]

theorem level_nil : Level [] 0 := by
  constructor
  · exact ⟨[], List.nil_suffix, rfl⟩
  · rintro m ⟨last, ends, rfl⟩
    rw [List.suffix_nil.1 ends]
    rfl

/-- One call keeps the count at the greatest net. -/
theorem Level.concat (level : Level calls n) (call : GaugeCall) :
    Level (calls ++ [call]) (call.apply n) := by
  obtain ⟨⟨last, ends, most⟩, above⟩ := level
  have bound : ∀ earlier, earlier <:+ calls → net earlier ≤ n := fun earlier ends =>
    above ⟨earlier, ends, rfl⟩
  cases call with
  | up =>
    constructor
    · refine ⟨last ++ [.up], List.suffix_concat_iff.2 (Or.inr ⟨last, rfl, ends⟩), ?_⟩
      rw [net_concat_up, ← most]
      rfl
    · rintro m ⟨longer, ends', rfl⟩
      rcases List.suffix_concat_iff.1 ends' with rfl | ⟨earlier, rfl, within⟩
      · exact Int.natCast_nonneg (n + 1)
      · have most := bound earlier within
        rw [net_concat_up, apply]
        omega
  | down =>
    constructor
    · -- At zero the call is lost, and the greatest net is that of no calls at all.
      cases n with
      | zero => exact ⟨[], List.nil_suffix, rfl⟩
      | succ n =>
        refine ⟨last ++ [.down], List.suffix_concat_iff.2 (Or.inr ⟨last, rfl, ends⟩), ?_⟩
        rw [net_concat_down, ← most, apply]
        omega
    · rintro m ⟨longer, ends', rfl⟩
      rcases List.suffix_concat_iff.1 ends' with rfl | ⟨earlier, rfl, within⟩
      · exact Int.natCast_nonneg (n - 1)
      · have most := bound earlier within
        rw [net_concat_down, apply]
        omega

theorem Level.le_length (level : Level calls n) : n ≤ calls.length := by
  obtain ⟨last, ends, most⟩ := level.1
  have short := ends.length_le
  have bound := net_le_length last
  omega

/-- Where no calls from the first on go down more than up, the count is the net of them all. -/
theorem Level.eq_net (level : Level calls n)
    (covered : ∀ before, before <+: calls → 0 ≤ net before) : n = net calls := by
  obtain ⟨last, ⟨before, split⟩, most⟩ := level.1
  apply le_antisymm
  · have nonneg := covered before ⟨last, split⟩
    rw [most, ← split, net_append]
    omega
  · exact level.2 ⟨calls, List.suffix_refl calls, rfl⟩

theorem Level.pos_iff (level : Level calls n) : 0 < n ↔ ∃ last, last <:+ calls ∧ 0 < net last := by
  constructor
  · intro pos
    obtain ⟨last, ends, most⟩ := level.1
    exact ⟨last, ends, by omega⟩
  · rintro ⟨last, ends, pos⟩
    have bound := level.2 ⟨last, ends, rfl⟩
    omega

theorem successive_nil : Successive [] [] := ⟨rfl, fun i n found => by simp at found⟩

theorem Successive.concat (successive : Successive calls values)
    (level : Level (calls ++ [call]) n) : Successive (calls ++ [call]) (values ++ [n]) := by
  obtain ⟨length, levels⟩ := successive
  refine ⟨by simp [length], fun i m found => ?_⟩
  rcases Nat.lt_or_ge i values.length with old | new
  · rw [List.getElem?_append_left old] at found
    rw [List.take_append_of_le_length (by omega)]
    exact levels i m found
  · rw [List.getElem?_append_right new, List.getElem?_singleton] at found
    split at found
    · next last =>
      obtain rfl := Option.some.inj found
      rwa [List.take_of_length_le]
      rw [List.length_append, List.length_singleton]
      omega
    · cases found

theorem Successive.le_length (successive : Successive calls values) (among : n ∈ values) :
    n ≤ calls.length := by
  obtain ⟨i, found⟩ := List.mem_iff_getElem?.1 among
  have bound := (successive.2 i n found).le_length
  rw [List.length_take] at bound
  omega

end GaugeCall

namespace NodeMetric

/-- The call that a change makes on the gauge. -/
def call? : NodeMetric → Change → Option GaugeCall
  | .openConnections, .connectionOpened | .pendingReconnections, .reconnectionStarted => some .up
  | .openConnections, .connectionClosed | .pendingReconnections, .reconnectionStopped => some .down
  | _, _ => none

/-- The calls on the gauge among the changes to a descriptor. -/
def calls (metric : NodeMetric) (changes : List Change) : List GaugeCall :=
  changes.filterMap metric.call?

/-- The value, if it is this gauge that is recorded. -/
def value? (metric : NodeMetric) : MetricRecord → Option Nat
  | .gauge _ other value => if other = metric then some value else none
  | .created _ => none

theorem calls_concat (metric : NodeMetric) (changes : List Change) (c : Change) :
    metric.calls (changes ++ [c]) = metric.calls changes ++ (metric.call? c).toList := by
  cases call : metric.call? c <;> simp [calls, call]

end NodeMetric

namespace Descriptor
open GaugeCall
variable {d : Descriptor} {metric : NodeMetric} {c : Change}

def count (d : Descriptor) : NodeMetric → Nat
  | .openConnections => d.openConnections
  | .pendingReconnections => d.reconnections

theorem count_apply (d : Descriptor) (metric : NodeMetric) (c : Change) :
    (d.apply c).count metric =
      (metric.call? c).elim (d.count metric) (GaugeCall.apply (d.count metric)) := by
  cases metric <;> cases c <;> simp [count, NodeMetric.call?, GaugeCall.apply]

/-- A call records the count that it leaves, if the metric is enabled. No other change records. -/
theorem values_records (d : Descriptor) (metric : NodeMetric) (c : Change) :
    (d.records c).filterMap metric.value? = if metric ∈ d.metrics then
      (metric.call? c).toList.map (GaugeCall.apply (d.count metric)) else [] := by
  cases metric <;> cases c <;>
    simp [records, gauge, NodeMetric.value?, NodeMetric.call?, count, GaugeCall.apply, apply_ite]

theorem gauge_of_records {record : MetricRecord} (recorded : record ∈ d.records c) :
    ∃ metric value, record = .gauge d.address metric value := by
  cases c with
  | state _ | distance _ | info _ => cases recorded
  | connectionOpened | connectionClosed | reconnectionStarted | reconnectionStopped =>
    rw [records, gauge] at recorded
    split at recorded
    · exact ⟨_, _, List.mem_singleton.1 recorded⟩
    · cases recorded

theorem metrics_applyAll (d : Descriptor) (changes : List Change) :
    (d.applyAll changes).metrics = d.metrics := by
  induction changes generalizing d with
  | nil => rfl
  | cons c rest ih => exact (ih (d.apply c)).trans (metrics_apply d c)

theorem address_applyAll (d : Descriptor) (changes : List Change) :
    (d.applyAll changes).address = d.address := by
  induction changes generalizing d with
  | nil => rfl
  | cons c rest ih => exact (ih (d.apply c)).trans (address_apply d c)

theorem applyAll_concat (d : Descriptor) (changes : List Change) (c : Change) :
    d.applyAll (changes ++ [c]) = (d.applyAll changes).apply c :=
  List.foldl_concat _ _ _ _

theorem level_applyAll (new : d.count metric = 0) (changes : List Change) :
    Level (metric.calls changes) ((d.applyAll changes).count metric) := by
  induction changes using List.reverseRecOn with
  | nil =>
    rw [applyAll, List.foldl_nil, new]
    exact level_nil
  | append_singleton changes c ih =>
    rw [applyAll_concat, count_apply, NodeMetric.calls_concat]
    cases metric.call? c with
    | none => simpa using ih
    | some call => exact ih.concat call

/-- A change records for the gauge what follows, or nothing at all. -/
theorem successive_records {values : List Nat} {calls : List GaugeCall}
    (enabled : metric ∈ d.metrics) (level : Level calls (d.count metric))
    (successive : Successive calls values) (c : Change) :
    Successive (calls ++ (metric.call? c).toList)
      (values ++ (d.records c).filterMap metric.value?) := by
  rw [values_records, if_pos enabled]
  cases metric.call? c with
  | none => simpa using successive
  | some call => exact successive.concat (level.concat call)

end Descriptor

namespace Operation

/-- The descriptor that it changes. -/
def target? : Operation → Option NodeId
  | .change id _ => some id
  | _ => none

theorem changesOf_concat (id : NodeId) (operations : List Operation) (operation : Operation) :
    changesOf id (operations ++ [operation]) =
      changesOf id operations ++ (operation.changeOf? id).toList := by
  cases change : operation.changeOf? id <;> simp [changesOf, change]

end Operation

namespace NodeTable
open GaugeCall
variable {t : NodeTable} {address : Endpoint} {id : NodeId} {d : Descriptor} {metric : NodeMetric}

/-- What the operation records. -/
def recordsOf (t : NodeTable) (operation : Operation) : List MetricRecord :=
  (t.perform operation).records.drop t.records.length

/-- What operations record, each record with the descriptor that the operation changes. -/
def log (t : NodeTable) : List Operation → List (Option NodeId × MetricRecord)
  | [] => []
  | operation :: rest =>
    (t.recordsOf operation).map (operation.target?, ·) ++ (t.perform operation).log rest

/-- What is recorded for a gauge of a descriptor. -/
def gaugeValues (id : NodeId) (metric : NodeMetric) (log : List (Option NodeId × MetricRecord)) :
    List Nat :=
  log.filterMap fun entry => if entry.1 = some id then metric.value? entry.2 else none

theorem records_perform (t : NodeTable) (operation : Operation) :
    (t.perform operation).records = t.records ++ t.recordsOf operation := by
  have grows : t.records <+: (t.perform operation).records := by
    cases operation with
    | add address => cases member : t.member? address <;> simp [perform, addNode, member]
    | remove address => cases member : t.member? address <;> simp [perform, removeNode, member]
    | change id c => cases known : t.descriptor? id <;> simp [perform, change, update, known]
  exact (List.prefix_iff_eq_append.1 grows).symm

/-- The log is complete. -/
theorem records_performAll (t : NodeTable) (operations : List Operation) :
    (t.performAll operations).records = t.records ++ (t.log operations).map Prod.snd := by
  induction operations generalizing t with
  | nil => exact (List.append_nil _).symm
  | cons operation rest ih =>
    rw [log, List.map_append, List.map_map, ← List.append_assoc]
    have new : (t.recordsOf operation).map (Prod.snd ∘ (operation.target?, ·)) =
        t.recordsOf operation := List.map_id _
    rw [new, ← records_perform]
    exact ih (t.perform operation)

theorem log_concat (t : NodeTable) (operations : List Operation) (operation : Operation) :
    t.log (operations ++ [operation]) = t.log operations ++
      ((t.performAll operations).recordsOf operation).map (operation.target?, ·) := by
  induction operations generalizing t with
  | nil => simp [log, performAll]
  | cons first rest ih =>
    rw [List.cons_append, log, ih, log, List.append_assoc]
    rfl

theorem created_of_recordsOf {record : MetricRecord}
    (recorded : record ∈ t.recordsOf (.add address)) : record = .created address := by
  cases member : t.member? address with
  | some id => simp [recordsOf, perform, addNode, member] at recorded
  | none =>
    have announced : t.factory.announces = true ∧ record = .created address := by
      simpa [recordsOf, perform, addNode, member] using recorded
    exact announced.2

theorem recordsOf_remove (t : NodeTable) (address : Endpoint) :
    t.recordsOf (.remove address) = [] := by
  cases member : t.member? address <;> simp [recordsOf, perform, removeNode, member]

theorem recordsOf_change (known : t.descriptor? id = some d) (c : Change) :
    t.recordsOf (.change id c) = d.records c := by
  simp [recordsOf, perform, change_of_known known]

theorem gaugeValues_map (target : Option NodeId) (records : List MetricRecord) :
    gaugeValues id metric (records.map (target, ·)) =
      if target = some id then records.filterMap metric.value? else [] := by
  by_cases own : target = some id <;> simp [gaugeValues, List.filterMap_map, own]

/-- An operation changes the descriptor, or it records nothing for it. -/
theorem gaugeValues_concat (known : t.descriptor? id = some d) (operations : List Operation)
    (operation : Operation) :
    gaugeValues id metric (t.log (operations ++ [operation])) =
      gaugeValues id metric (t.log operations) ++ (operation.changeOf? id).toList.flatMap fun c =>
        ((d.applyAll (Operation.changesOf id operations)).records c).filterMap metric.value? := by
  have now := descriptor_performAll known operations
  rw [log_concat, gaugeValues, List.filterMap_append]
  congr 1
  rw [← gaugeValues, gaugeValues_map]
  cases operation with
  | add address => rfl
  | remove address => rfl
  | change other c =>
    by_cases own : other = id
    · subst own
      simp [Operation.target?, Operation.changeOf?, recordsOf_change now]
    · simp [Operation.target?, Operation.changeOf?, own]

theorem successive_gaugeValues (known : t.descriptor? id = some d) (new : d.count metric = 0)
    (enabled : metric ∈ d.metrics) (operations : List Operation) :
    Successive (metric.calls (Operation.changesOf id operations))
      (gaugeValues id metric (t.log operations)) := by
  induction operations using List.reverseRecOn with
  | nil => exact successive_nil
  | append_singleton operations operation ih =>
    rw [gaugeValues_concat known, Operation.changesOf_concat]
    cases operation.changeOf? id with
    | none => simpa using ih
    | some c =>
      have level := Descriptor.level_applyAll new (Operation.changesOf id operations)
      have enabled' : metric ∈ (d.applyAll (Operation.changesOf id operations)).metrics := by
        rwa [Descriptor.metrics_applyAll]
      simpa [NodeMetric.calls_concat] using Descriptor.successive_records enabled' level ih c

theorem gaugeValues_of_disabled (known : t.descriptor? id = some d) (disabled : metric ∉ d.metrics)
    (operations : List Operation) : gaugeValues id metric (t.log operations) = [] := by
  induction operations using List.reverseRecOn with
  | nil => rfl
  | append_singleton operations operation ih =>
    rw [gaugeValues_concat known, ih]
    simp [Descriptor.values_records, Descriptor.metrics_applyAll, disabled]

/-- A change records gauges of its own descriptor. Else only the creation of a node is recorded. -/
theorem entry_of_log (known : t.descriptor? id = some d) {operations : List Operation}
    {target : Option NodeId} {record : MetricRecord}
    (logged : (target, record) ∈ t.log operations) :
    (target = some id → ∃ metric value, record = .gauge d.address metric value) ∧
      (target = none → ∃ address, record = .created address) := by
  induction operations generalizing t d with
  | nil => cases logged
  | cons operation rest ih =>
    rcases List.mem_append.1 logged with now | later
    · obtain ⟨record', recorded, same⟩ := List.mem_map.1 now
      cases same
      cases operation with
      | add address => exact ⟨nofun, fun _ => ⟨address, created_of_recordsOf recorded⟩⟩
      | remove address =>
        rw [recordsOf_remove] at recorded
        cases recorded
      | change other c =>
        refine ⟨fun own => ?_, nofun⟩
        obtain rfl : other = id := Option.some.inj own
        rw [recordsOf_change known] at recorded
        exact Descriptor.gauge_of_records recorded
    · have same := d.address_applyAll (operation.changeOf? id).toList
      rw [← same]
      exact ih (descriptor_perform known operation) later

/-- What holds of a gauge of a descriptor after some calls. -/
structure Gauged (enabled : Prop) (calls : List GaugeCall) (values : List Nat) (count : Nat) :
    Prop where
  level : Level calls count
  balance : (∀ before, before <+: calls → 0 ≤ net before) → count = net calls
  bounded : calls.length ≤ Text.u64Limit →
    count ≤ Text.u64Limit ∧ ∀ value ∈ values, value ≤ Text.u64Limit
  recorded : enabled → Successive calls values
  silent : ¬ enabled → values = []

/-- What operations of any kind come to for the gauges of a descriptor that a table hands out. Its
counts are the greatest nets of the last calls. They are recorded after each call, where the metric
is enabled. Nothing else is recorded for the descriptor, and the log holds all that is recorded. -/
theorem gauges_exact (t : NodeTable) (address : Endpoint) (absent : t.member? address = none)
    (operations : List Operation) :
    let joined := (t.addNode address).2
    let id := (t.addNode address).1
    let changes := Operation.changesOf id operations
    let log := joined.log operations
    (∃ d, (joined.performAll operations).descriptor? id = some d ∧ d.address = address ∧
      (∀ metric, Gauged (metric ∈ t.factory.enabled) (metric.calls changes)
        (gaugeValues id metric log) (d.count metric)) ∧
      (d.isReconnecting = true ↔
        ∃ last, last <:+ NodeMetric.pendingReconnections.calls changes ∧ 0 < net last)) ∧
    (joined.performAll operations).records = joined.records ++ log.map Prod.snd ∧
    ∀ target record, (target, record) ∈ log →
      (target = some id → ∃ metric value, record = .gauge address metric value) ∧
      (target = none → ∃ address, record = .created address) := by
  intro joined id changes log
  let new : Descriptor := { address, metrics := t.factory.enabled }
  have known : joined.descriptor? id = some new := by
    have place : id = t.descriptors.length := by simp [id, addNode, absent]
    rw [place]
    exact descriptor_addNode_new absent
  have zero : ∀ metric, new.count metric = 0 := by
    intro metric
    cases metric <;> rfl
  have level : ∀ metric, Level (metric.calls changes) ((new.applyAll changes).count metric) :=
    fun metric => Descriptor.level_applyAll (zero metric) changes
  refine ⟨⟨new.applyAll changes, descriptor_performAll known operations,
    new.address_applyAll changes, fun metric => ?_, ?_⟩, records_performAll joined operations,
    fun target record logged => entry_of_log known logged⟩
  · have silent : metric ∉ t.factory.enabled → gaugeValues id metric log = [] :=
      fun disabled => gaugeValues_of_disabled known disabled operations
    have recorded : metric ∈ t.factory.enabled →
        Successive (metric.calls changes) (gaugeValues id metric log) :=
      fun enabled => successive_gaugeValues known (zero metric) enabled operations
    refine ⟨level metric, (level metric).eq_net, fun few => ⟨?_, fun value among => ?_⟩,
      recorded, silent⟩
    · exact Nat.le_trans (level metric).le_length few
    · by_cases enabled : metric ∈ t.factory.enabled
      · exact Nat.le_trans ((recorded enabled).le_length among) few
      · rw [silent enabled] at among
        cases among
  · rw [← (level .pendingReconnections).pos_iff, Descriptor.isReconnecting, decide_eq_true_iff]
    rfl

/-- A connection is closed before one is opened, and the node is removed meanwhile. -/
def unbalanced : List Operation :=
  [.change 0 .connectionClosed, .change 0 .connectionOpened, .remove (.v4 .loopback 9042),
    .change 0 .reconnectionStarted, .change 0 .connectionOpened, .change 0 .connectionClosed]

/-- It has one member, whose open connections are recorded. -/
def watched : NodeTable :=
  (({ factory := { enabled := [.openConnections] } } : NodeTable).addNode (.v4 .loopback 9042)).2

theorem unbalanced_gauged :
    (∃ d, (watched.performAll unbalanced).descriptor? 0 = some d ∧
      Level [.down, .up, .up, .down] d.openConnections ∧ d.isReconnecting = true) ∧
    Successive [.down, .up, .up, .down] [0, 1, 2, 1] := by
  obtain ⟨⟨d, known, _, gauges, reconnecting⟩, _⟩ := gauges_exact
    { factory := { enabled := [.openConnections] } } (.v4 .loopback 9042) rfl unbalanced
  have level := (gauges .openConnections).level
  have recorded := (gauges .openConnections).recorded (by decide)
  refine ⟨⟨d, known, level, ?_⟩, recorded⟩
  exact reconnecting.2 ⟨[GaugeCall.up], List.suffix_refl [GaugeCall.up], by decide⟩

end NodeTable
end ClusterDriver
