import ClusterDriver.Proofs.Registry.Outcomes
import Mathlib.Logic.Hydra
import Mathlib.Algebra.BigOperators.Group.Finset.Basic
import Mathlib.Data.Fintype.EquivFin
import Mathlib.Tactic.Abel
/-!
# Endings

With finitely many cells no run goes on for ever. What is left to do is a multiset of programs, each
with the stage that it is in: those of the threads, those around them, and the builders that are
still in their cells. Every action replaces one of them by finitely many smaller ones. Nothing is
assumed of the programs, and nothing of the detector.
-/
namespace ClusterDriver
open Relation

/-- What may remain of a program after its first action. A program that asks may also be left by
a panic of the builder that it asked for. -/
inductive Program.Remains {T C σ α : Type} : Program T C σ α → Program T C σ α → Prop
  | answered {cell next} (result) : Remains (next result) (.get cell next)
  | unwound {cell next} : Remains .panic (.get cell next)
  | seen {cell next} (content) : Remains (next content) (.look cell next)
  | installed {cell builder next} : Remains builder (.replace cell builder next)
  | replaced {cell builder next} (effective) : Remains (next effective) (.replace cell builder next)
  | listed {next} (cells) : Remains (next cells) (.stack next)
  | updated {change next} (t s) : Remains (next t s) (.update change next)
  | opened {gate next} : Remains next (.await gate next)

theorem Program.remains_wellFounded {T C σ α : Type} :
    WellFounded (Program.Remains (T := T) (C := C) (σ := σ) (α := α)) := by
  have panics : Acc Program.Remains (.panic : Program T C σ α) := ⟨_, fun _ h => nomatch h⟩
  constructor
  intro p
  induction p with
  | ok value => exact ⟨_, fun _ h => nomatch h⟩
  | fail failure => exact ⟨_, fun _ h => nomatch h⟩
  | panic => exact panics
  | get cell next ih =>
    refine ⟨_, fun q h => ?_⟩
    cases h with
    | answered result => exact ih result
    | unwound => exact panics
  | look cell next ih =>
    refine ⟨_, fun q h => ?_⟩
    cases h with
    | seen content => exact ih content
  | replace cell builder next ihb ih =>
    refine ⟨_, fun q h => ?_⟩
    cases h with
    | installed => exact ihb
    | replaced effective => exact ih effective
  | stack next ih =>
    refine ⟨_, fun q h => ?_⟩
    cases h with
    | listed cells => exact ih cells
  | update change next ih =>
    refine ⟨_, fun q h => ?_⟩
    cases h with
    | updated t s => exact ih t s
  | await gate next ih =>
    refine ⟨_, fun q h => ?_⟩
    cases h with
    | opened => exact ih

/-- A program and a number that falls while the program stays where it is. -/
abbrev Duty (T C σ α : Type) := Program T C σ α × Nat

namespace Duty
variable {T C σ α : Type}

def Smaller : Duty T C σ α → Duty T C σ α → Prop := Prod.Lex Program.Remains (· < ·)

/-- Less is left to do. -/
def Less : Multiset (Duty T C σ α) → Multiset (Duty T C σ α) → Prop := TransGen (CutExpand Smaller)

theorem less_wellFounded : WellFounded (Less (T := T) (C := C) (σ := σ) (α := α)) := by
  have smaller : WellFounded (Smaller (T := T) (C := C) (σ := σ) (α := α)) :=
    WellFounded.prod_lex Program.remains_wellFounded Nat.lt_wfRel.wf
  exact smaller.cutExpand.transGen

/-- One duty is replaced by smaller ones. -/
theorem less_cut (duty : Duty T C σ α) {smaller : Multiset (Duty T C σ α)}
    (rest : Multiset (Duty T C σ α)) (h : ∀ s ∈ smaller, Smaller s duty) :
    Less (smaller + rest) ({duty} + rest) :=
  .single ((cutExpand_add_right rest).2 (cutExpand_singleton h))

theorem less_one {duty duty' : Duty T C σ α} (rest : Multiset (Duty T C σ α))
    (h : Smaller duty' duty) : Less ({duty'} + rest) ({duty} + rest) :=
  less_cut duty rest fun _ hs => Multiset.mem_singleton.1 hs ▸ h

/-- One duty is dropped. -/
theorem less_drop (duty : Duty T C σ α) (rest : Multiset (Duty T C σ α)) :
    Less rest ({duty} + rest) := by
  have gone : Less (0 + rest) ({duty} + rest) :=
    less_cut duty rest fun _ hs => absurd hs (Multiset.notMem_zero _)
  rwa [zero_add] at gone

theorem smaller_remains {p q : Program T C σ α} (h : p.Remains q) (k l : Nat) :
    Smaller (p, k) (q, l) :=
  Prod.Lex.left k l h

theorem smaller_stage {p : Program T C σ α} {k l : Nat} (h : k < l) : Smaller (p, k) (p, l) :=
  Prod.Lex.right p h

end Duty

/-- A request is the program that asks, at a later stage. -/
def Request.duty {T C σ α : Type} (r : Request T C σ α) (stage : Nat) : Duty T C σ α :=
  (.get r.cell r.next, stage)

def Stage.rank {T C σ α : Type} : Stage T C σ α → Nat
  | .check => 8
  | .register => 7
  | .inspect => 6
  | .served _ | .claimed _ => 5
  | .cleared _ => 4
  | .ended _ => 2
  | .published _ => 1

/-- The builder that the stage is about to run. -/
def Stage.builder? {T C σ α : Type} : Stage T C σ α → Option (Program T C σ α)
  | .claimed builder | .cleared builder => some builder
  | _ => none

/-- A program that has not begun. -/
def Program.duty {T C σ α : Type} (p : Program T C σ α) : Duty T C σ α := (p, 9)

def optionDuty {T C σ α : Type} : Option (Program T C σ α) → Multiset (Duty T C σ α)
  | some p => {p.duty}
  | none => 0

/-- Requests whose builders are at work. -/
def requestDuties {T C σ α : Type} (requests : List (Request T C σ α)) : Multiset (Duty T C σ α) :=
  (requests.map fun r => r.duty 3 : List (Duty T C σ α))

theorem requestDuties_cons {T C σ α : Type} (r : Request T C σ α)
    (outer : List (Request T C σ α)) :
    requestDuties (r :: outer) = {r.duty 3} + requestDuties outer := by
  simp [requestDuties]

def Thread.duties {T C σ α : Type} : Thread T C σ α → Multiset (Duty T C σ α)
  | .run requests program => {program.duty} + requestDuties requests
  | .request stage r outer =>
    {r.duty stage.rank} + (optionDuty stage.builder? + requestDuties outer)
  | .done _ => 0

def Cell.duties {T C σ α : Type} : Cell T C σ α → Multiset (Duty T C σ α)
  | .empty builder => {builder.duty}
  | _ => 0

namespace Machine
variable {T C σ α : Type} [DecidableEq T] [DecidableEq C] {m m' : Machine T C σ α} {t : T}

def threadDuties (entries : List (T × Thread T C σ α)) : Multiset (Duty T C σ α) :=
  (entries.map fun e => e.2.duties).sum

/-- All that is left to do. -/
def duties [Fintype C] (m : Machine T C σ α) : Multiset (Duty T C σ α) :=
  threadDuties m.threads.entries + ∑ c, (m.cells c).duties

omit [DecidableEq C] in
theorem threadDuties_put {thread : Thread T C σ α} {entries : List (T × Thread T C σ α)}
    (found : (entries.find? fun e => e.1 = t).map Prod.snd = some thread) :
    ∃ rest, threadDuties entries = thread.duties + rest ∧
      ∀ new, threadDuties (Table.put t new entries) = new.duties + rest := by
  induction entries with
  | nil => cases found
  | cons e entries ih =>
    by_cases he : e.1 = t
    · have hthread : e.2 = thread := by simpa [he] using found
      refine ⟨threadDuties entries, by simp [threadDuties, hthread], fun new => ?_⟩
      simp [threadDuties, Table.put, he]
    · obtain ⟨rest, hbefore, hafter⟩ := ih (by simpa [List.find?_cons, he] using found)
      refine ⟨e.2.duties + rest, ?_, fun new => ?_⟩
      · have hsum : threadDuties (e :: entries) = e.2.duties + threadDuties entries := by
          simp [threadDuties]
        rw [hsum, hbefore, add_left_comm]
      · have hsum : threadDuties (Table.put t new (e :: entries)) =
            e.2.duties + threadDuties (Table.put t new entries) := by
          simp [threadDuties, Table.put, he]
        rw [hsum, hafter, add_left_comm]

omit [DecidableEq T] in
theorem cellDuties_setCell [Fintype C] (m : Machine T C σ α) (c : C) :
    ∃ rest, ∑ d, (m.cells d).duties = (m.cells c).duties + rest ∧
      ∀ cell, ∑ d, ((m.setCell c cell).cells d).duties = cell.duties + rest := by
  refine ⟨∑ d ∈ Finset.univ.erase c, (m.cells d).duties, ?_, fun cell => ?_⟩
  · exact (Finset.add_sum_erase _ _ (Finset.mem_univ c)).symm
  · rw [← Finset.add_sum_erase _ _ (Finset.mem_univ c), cells_setCell_self]
    congr 1
    refine Finset.sum_congr rfl fun d hd => ?_
    rw [cells_setCell_of_ne m (Finset.ne_of_mem_erase hd)]

/-- What is left apart from one thread and one cell. -/
theorem duties_split [Fintype C] {thread : Thread T C σ α} (found : m.threads.get? t = some thread)
    (c : C) : ∃ rest, m.duties = thread.duties + ((m.cells c).duties + rest) ∧
      ∀ new cell, ((m.setCell c cell).setThread t new).duties =
        new.duties + (cell.duties + rest) := by
  obtain ⟨threads, hthreads, hthreads'⟩ := threadDuties_put found
  obtain ⟨cells, hcells, hcells'⟩ := cellDuties_setCell m c
  refine ⟨threads + cells, ?_, fun new cell => ?_⟩
  · rw [duties, hthreads, hcells]
    abel
  · have split : ((m.setCell c cell).setThread t new).duties =
        threadDuties (Table.put t new m.threads.entries) +
          ∑ d, ((m.setCell c cell).cells d).duties := rfl
    rw [split, hthreads' new, hcells' cell]
    abel

omit [DecidableEq C] in
/-- A thread goes on with less to do, and no cell changes. -/
theorem less_of_thread [Fintype C] {thread new : Thread T C σ α}
    (found : m.threads.get? t = some thread) {n : Machine T C σ α}
    (threads : n.threads = m.threads.insert t new) (cells : n.cells = m.cells)
    (lower : ∀ rest, Duty.Less (new.duties + rest) (thread.duties + rest)) :
    Duty.Less n.duties m.duties := by
  obtain ⟨rest, hthreads, hthreads'⟩ := threadDuties_put found
  have hput : n.threads.entries = Table.put t new m.threads.entries := by
    rw [threads]
    rfl
  rw [duties, duties, hput, hthreads, hthreads' new, cells, add_assoc, add_assoc]
  exact lower _

omit [DecidableEq T] [DecidableEq C] in
/-- A program at work goes on with what remains of it. -/
theorem less_run {p q : Program T C σ α} (h : p.Remains q) (requests : List (Request T C σ α))
    (rest : Multiset (Duty T C σ α)) :
    Duty.Less ((Thread.run requests p).duties + rest) ((Thread.run requests q).duties + rest) := by
  simp only [Thread.duties, add_assoc]
  exact Duty.less_one _ (Duty.smaller_remains h 9 9)

omit [DecidableEq T] [DecidableEq C] in
/-- A request goes on to a later stage, with the same builder in hand. -/
theorem less_stage (stage stage' : Stage T C σ α) (rank : stage'.rank < stage.rank)
    (builder : stage'.builder? = stage.builder?) (r : Request T C σ α)
    (outer : List (Request T C σ α)) (rest : Multiset (Duty T C σ α)) :
    Duty.Less ((Thread.request stage' r outer).duties + rest)
      ((Thread.request stage r outer).duties + rest) := by
  simp only [Thread.duties, builder, add_assoc]
  exact Duty.less_one _ (Duty.smaller_stage rank)

omit [DecidableEq T] [DecidableEq C] in
/-- A request ends, and what remains of the program that asked goes on. -/
theorem less_answer {stage : Stage T C σ α} (builder : stage.builder? = none)
    {r : Request T C σ α} {p : Program T C σ α} (h : p.Remains (.get r.cell r.next))
    (outer : List (Request T C σ α)) (rest : Multiset (Duty T C σ α)) :
    Duty.Less ((Thread.run outer p).duties + rest)
      ((Thread.request stage r outer).duties + rest) := by
  simp only [Thread.duties, builder, optionDuty, zero_add, add_assoc]
  exact Duty.less_one _ (Duty.smaller_remains h 9 stage.rank)

omit [DecidableEq T] [DecidableEq C] in
/-- A program has ended, and its request goes on to publish. -/
theorem less_conclude (m : Machine T C σ α) (outcome : Outcome Failure α)
    (requests : List (Request T C σ α)) (p : Program T C σ α) (rest : Multiset (Duty T C σ α)) :
    Duty.Less ((m.ended outcome requests).duties + rest)
      ((Thread.run requests p).duties + rest) := by
  cases requests with
  | nil =>
    have before : (Thread.run [] p).duties + rest = {p.duty} + rest := by
      simp [Thread.duties, requestDuties]
    have after : (m.ended outcome []).duties + rest = rest := by
      simp [ended, Thread.duties]
    rw [before, after]
    exact Duty.less_drop _ _
  | cons r outer =>
    have before : (Thread.run (r :: outer) p).duties + rest =
        {p.duty} + ({r.duty 3} + (requestDuties outer + rest)) := by
      rw [Thread.duties, requestDuties_cons]
      abel
    have after : (m.ended outcome (r :: outer)).duties + rest =
        {r.duty 2} + (requestDuties outer + rest) := by
      simp only [ended, Thread.duties, Stage.builder?, Stage.rank, optionDuty]
      abel
    have later : Duty.Less ({r.duty 2} + (requestDuties outer + rest))
        ({r.duty 3} + (requestDuties outer + rest)) :=
      Duty.less_one _ (Duty.smaller_stage (show 2 < 3 by omega))
    rw [before, after]
    exact later.trans (Duty.less_drop _ _)

omit [DecidableEq T] [DecidableEq C] in
theorem less_enter (r : Request T C σ α) (outer : List (Request T C σ α))
    (builder : Program T C σ α) (rest : Multiset (Duty T C σ α)) :
    Duty.Less ((Thread.run (r :: outer) builder).duties + rest)
      ((Thread.request (.cleared builder) r outer).duties + rest) := by
  have before : (Thread.request (.cleared builder) r outer).duties + rest =
      {r.duty 4} + ({builder.duty} + (requestDuties outer + rest)) := by
    simp only [Thread.duties, Stage.builder?, Stage.rank, optionDuty]
    abel
  have after : (Thread.run (r :: outer) builder).duties + rest =
      {r.duty 3} + ({builder.duty} + (requestDuties outer + rest)) := by
    rw [Thread.duties, requestDuties_cons]
    abel
  rw [before, after]
  exact Duty.less_one _ (Duty.smaller_stage (show 3 < 4 by omega))

/-- The builder of a cell goes into the hands of the thread that claims it. -/
theorem less_claim [Fintype C] {r : Request T C σ α} {outer : List (Request T C σ α)}
    {builder : Program T C σ α} (found : m.threads.get? t = some (.request .inspect r outer))
    (free : m.cells r.cell = .empty builder) :
    Duty.Less ((m.setCell r.cell .building).setThread t
      (.request (.claimed builder) r outer)).duties m.duties := by
  obtain ⟨rest, hbefore, hafter⟩ := duties_split found r.cell
  have before : m.duties = {r.duty 6} + ({builder.duty} + (requestDuties outer + rest)) := by
    simp only [hbefore, free, Thread.duties, Cell.duties, Stage.builder?, Stage.rank, optionDuty]
    abel
  have after : ((m.setCell r.cell .building).setThread t
      (.request (.claimed builder) r outer)).duties =
      {r.duty 5} + ({builder.duty} + (requestDuties outer + rest)) := by
    simp only [hafter, Thread.duties, Cell.duties, Stage.builder?, Stage.rank, optionDuty]
    abel
  rw [before, after]
  exact Duty.less_one _ (Duty.smaller_stage (show 5 < 6 by omega))

/-- What was in the cell before an outcome is published is dropped. -/
theorem less_publish [Fintype C] {r : Request T C σ α} {outer : List (Request T C σ α)}
    {outcome : Outcome AccessError α}
    (found : m.threads.get? t = some (.request (.ended outcome) r outer)) :
    Duty.Less ((m.setCell r.cell (m.settled r.cell outcome)).setThread t
      (.request (.published outcome) r outer)).duties m.duties := by
  obtain ⟨rest, hbefore, hafter⟩ := duties_split found r.cell
  have settled : (m.settled r.cell outcome).duties = 0 := by
    cases outcome with
    | panicked => rfl
    | returned result => cases result <;> rfl
  have lower : Duty.Less ((Thread.request (.published outcome) r outer).duties + rest)
      ((Thread.request (.ended outcome) r outer).duties + rest) :=
    less_stage (.ended outcome) (.published outcome) (show 1 < 2 by omega) rfl r outer rest
  rw [hbefore, hafter, settled, zero_add]
  cases hcell : m.cells r.cell with
  | empty builder =>
    rw [Cell.duties, add_left_comm]
    exact lower.trans (Duty.less_drop _ _)
  | building | built _ | failed _ => simpa only [Cell.duties, zero_add] using lower

/-- The builder that is replaced is dropped; the new one was part of the program. -/
theorem less_replace [Fintype C] {requests : List (Request T C σ α)} {c : C}
    {builder : Program T C σ α} {next : Bool → Program T C σ α}
    (found : m.threads.get? t = some (.run requests (.replace c builder next))) :
    Duty.Less ((m.replace c builder).2.setThread t
      (.run requests (next (m.replace c builder).1))).duties m.duties := by
  let whole : Program T C σ α := .replace c builder next
  cases hcell : m.cells c with
  | empty old =>
    obtain ⟨rest, hbefore, hafter⟩ := duties_split found c
    have effective : m.replace c builder = (true, m.setCell c (.empty builder)) := by
      simp [replace, hcell]
    have before : m.duties =
        {old.duty} + ({whole.duty} + (requestDuties requests + rest)) := by
      simp only [hbefore, hcell, Thread.duties, Cell.duties]
      abel
    have after : ((m.setCell c (.empty builder)).setThread t (.run requests (next true))).duties =
        {(next true).duty, builder.duty} + (requestDuties requests + rest) := by
      have pair : ({(next true).duty, builder.duty} : Multiset (Duty T C σ α)) =
        {(next true).duty} + {builder.duty} := rfl
      simp only [hafter, Thread.duties, Cell.duties, pair]
      abel
    have parts : Duty.Less ({(next true).duty, builder.duty} + (requestDuties requests + rest))
        ({whole.duty} + (requestDuties requests + rest)) := by
      refine Duty.less_cut _ _ fun s hs => ?_
      rcases Multiset.mem_cons.1 hs with rfl | hs
      · exact Duty.smaller_remains (.replaced true) 9 9
      · rw [Multiset.mem_singleton.1 hs]
        exact Duty.smaller_remains .installed 9 9
    rw [effective, before, after]
    exact parts.trans (Duty.less_drop _ _)
  | building | built _ | failed _ =>
    have refused : m.replace c builder = (false, m) := by simp [replace, hcell]
    rw [refused]
    exact less_of_thread found rfl rfl (less_run (.replaced false) requests)

/-- Every action leaves less to do. -/
theorem less_turn [Fintype C] {thread : Thread T C σ α} (found : m.threads.get? t = some thread)
    (turn : Turn m t thread m') : Duty.Less m'.duties m.duties := by
  cases turn with
  | conclude ends => exact less_of_thread found rfl rfl (less_conclude m _ _ _)
  | @ask requests cell next =>
    refine less_of_thread found rfl rfl fun rest => ?_
    simp only [Thread.duties, Stage.builder?, optionDuty, zero_add, add_assoc]
    exact Duty.less_one _ (Duty.smaller_stage (show 8 < 9 by omega))
  | look => exact less_of_thread found rfl rfl (less_run (.seen _) _)
  | replace => exact less_replace found
  | stack => exact less_of_thread found rfl rfl (less_run (.listed _) _)
  | update => exact less_of_thread found rfl rfl (less_run (.updated _ _) _)
  | await _ => exact less_of_thread found rfl rfl (less_run .opened _)
  | reuse _ => exact less_of_thread found rfl rfl (less_answer rfl (.answered _) _)
  | approach _ =>
    exact less_of_thread found rfl rfl (less_stage .check .register (Nat.lt_succ_self 7) rfl _ _)
  | refuse _ => exact less_of_thread found rfl rfl (less_answer rfl (.answered _) _)
  | wait _ =>
    exact less_of_thread found rfl rfl (less_stage .register .inspect (Nat.lt_succ_self 6) rfl _ _)
  | serve _ =>
    exact less_of_thread found rfl rfl
      (less_stage .inspect (.served _) (Nat.lt_succ_self 5) rfl _ _)
  | claim free => exact less_claim found free
  | release => exact less_of_thread found rfl rfl (less_answer rfl (.answered _) _)
  | clear =>
    exact less_of_thread found rfl rfl
      (less_stage (.claimed _) (.cleared _) (Nat.lt_succ_self 4) rfl _ _)
  | enter => exact less_of_thread found rfl rfl (less_enter _ _ _)
  | publish => exact less_publish found
  | leave => exact less_of_thread found rfl rfl (less_answer rfl (.answered _) _)
  | unwind => exact less_of_thread found rfl rfl (less_answer rfl .unwound _)

/-- Threads cannot act for ever. -/
theorem step_wellFounded [Finite C] :
    WellFounded fun m' m : Machine T C σ α => ∃ t, m.step t = some m' := by
  cases nonempty_fintype C
  have lower : ∀ m' m : Machine T C σ α, (∃ t, m.step t = some m') →
      Duty.Less m'.duties m.duties := by
    rintro m' m ⟨t, hstep⟩
    obtain ⟨thread, found, turn⟩ := turn_of_step hstep
    exact less_turn found turn
  exact Subrelation.wf (fun h => lower _ _ h) (InvImage.wf duties Duty.less_wellFounded)

/-- Every thread of the machine gets turns again and again. -/
def FairTurns (m : Machine T C σ α) (turns : Nat → T) : Prop :=
  ∀ t thread, m.threads.get? t = some thread → ∀ n, ∃ k, n ≤ k ∧ turns k = t

/-- The first `n` turns. -/
def firstTurns (turns : Nat → T) (n : Nat) : List T := (List.range n).map turns

omit [DecidableEq T] [DecidableEq C] in
theorem firstTurns_add (turns : Nat → T) (k n : Nat) :
    firstTurns turns (k + n) = firstTurns turns k ++ firstTurns (fun i => turns (k + i)) n := by
  simp [firstTurns, List.range_add, Function.comp_def]

/-- No thread joins in the course of a run. -/
theorem present_turn {thread : Thread T C σ α} (found : m.threads.get? t = some thread)
    (turn : Turn m t thread m') {u : T} {other : Thread T C σ α}
    (hother : m'.threads.get? u = some other) : ∃ before, m.threads.get? u = some before := by
  by_cases hu : u = t
  · exact ⟨thread, hu ▸ found⟩
  · exact ⟨other, threads_turn turn hu ▸ hother⟩

theorem runSchedule_of_idle {schedule : List T} (idle : ∀ t ∈ schedule, m.step t = none) :
    m.runSchedule schedule = m := by
  induction schedule with
  | nil => rfl
  | cons t rest ih =>
    have first : m.runSchedule (t :: rest) = m.runSchedule rest := by
      simp [runSchedule, idle t List.mem_cons_self]
    rw [first]
    exact ih fun u hu => idle u (List.mem_cons_of_mem t hu)

/-- Where every thread gets its turns, the run comes to a point where no thread can act. -/
theorem fair_turns_end [Finite C] (m : Machine T C σ α) (turns : Nat → T)
    (fair : m.FairTurns turns) :
    ∃ n, ∀ t, (m.runSchedule (firstTurns turns n)).step t = none := by
  have ends := (step_wellFounded (T := T) (C := C) (σ := σ) (α := α)).apply m
  induction ends generalizing turns with | intro m _ ih
  by_cases stuck : ∀ t, m.step t = none
  · exact ⟨0, stuck⟩
  obtain ⟨t, ht⟩ := not_forall.1 stuck
  obtain ⟨m₁, hm₁⟩ := Option.ne_none_iff_exists'.1 ht
  obtain ⟨_, present, _⟩ := turn_of_step hm₁
  obtain ⟨l, _, rfl⟩ := fair t _ present 0
  -- The first turn that is not passed.
  have acts : ∃ k, m.step (turns k) ≠ none := ⟨l, ht⟩
  have before : m.runSchedule (firstTurns turns (Nat.find acts)) = m := by
    refine runSchedule_of_idle fun u hu => ?_
    obtain ⟨j, hj, rfl⟩ := List.mem_map.1 hu
    exact not_not.1 (Nat.find_min acts (List.mem_range.1 hj))
  obtain ⟨m', hm'⟩ := Option.ne_none_iff_exists'.1 (Nat.find_spec acts)
  have first : m.runSchedule (firstTurns turns (Nat.find acts + 1)) = m' := by
    rw [firstTurns_add, runSchedule_append, before]
    simp [firstTurns, runSchedule, hm']
  obtain ⟨thread, found, turn⟩ := turn_of_step hm'
  have fair' : m'.FairTurns fun i => turns (Nat.find acts + 1 + i) := by
    intro u other hother n
    obtain ⟨_, present⟩ := present_turn found turn hother
    obtain ⟨k, hk, rfl⟩ := fair u _ present (Nat.find acts + 1 + n)
    obtain ⟨i, rfl⟩ := Nat.exists_eq_add_of_le hk
    exact ⟨n + i, Nat.le_add_right n i, by rw [Nat.add_assoc]⟩
  obtain ⟨n, hn⟩ := ih m' ⟨_, hm'⟩ _ fair'
  refine ⟨Nat.find acts + 1 + n, ?_⟩
  rwa [firstTurns_add, runSchedule_append, first]

end Machine
end ClusterDriver
