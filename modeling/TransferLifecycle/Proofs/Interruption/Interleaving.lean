import TransferLifecycle.Proofs.Monitoring.Knowledge
import TransferLifecycle.Session.Waiting

/-! Any number of unit monitors and transfers, and any number of threads that wait for a transfer, wait on a
handle or call a monitor, in any interleaving of their steps. A thread does one thing after another. Anybody
may interrupt any thread at any time, and nothing but a wait of the thread takes the interrupt away. -/
namespace TransferLifecycle.Interruption

open Monitoring (Handle)
open UnitMonitor (Operation)
open Session (WaitKind WaitReport)
open Wait (Drive)

structure World where
  monitors : List (UnitMonitor Handle) := []
  /-- The monitor that is attached to each transfer. -/
  transfers : List (Option Nat) := []
  completions : Handle → Completion := fun _ => {}
  gates : Nat := 0
  tokens : Nat → Bool := fun _ => false
  next : Nat := 0

namespace World

/-- What an operation on one monitor sees of the world. -/
def facing (w : World) (m : UnitMonitor Handle) : Monitoring.World where
  monitor := m
  completions := w.completions
  gates := w.gates
  tokens := w.tokens
  next := w.next

/-- What becomes of the world when an operation on one monitor has made this of its view. -/
def after (w : World) (k : Nat) (view : Monitoring.World) : World where
  monitors := w.monitors.set k view.monitor
  transfers := w.transfers
  completions := view.completions
  gates := view.gates
  tokens := view.tokens
  next := view.next

def setToken (w : World) (thread : Nat) (pending : Bool) : World :=
  { w with tokens := fun t => if t = thread then pending else w.tokens t }

def finish (w : World) (h : Handle) (outcome : Outcome) : World :=
  { w with
    completions := fun k => if k = h then ((w.completions h).finish outcome).2 else w.completions k }

/-- A new monitor. That of a single unit is sealed at once, and its gate stands open. -/
def newMonitor (w : World) (first : Handle) (single : Bool) : World :=
  let made := { w with
    monitors := w.monitors ++ [{ current := first, isSealed := single, gate := .gate w.gates }]
    gates := w.gates + 1 }
  if single then made.finish (.gate w.gates) .success else made

def holder (w : World) (k : Nat) : Option Nat := w.monitors[k]?.bind (·.holder)

def Quiet (w : World) : Prop := (∀ m ∈ w.monitors, m.holder = none) ∧ ∀ thread, w.tokens thread = false

@[simp] theorem monitor_facing (w : World) (m : UnitMonitor Handle) : (w.facing m).monitor = m := rfl

def Grows (w later : World) : Prop :=
  ∀ h outcome, (w.completions h).outcome = some outcome → (later.completions h).outcome = some outcome

theorem grows_finish (w : World) (h : Handle) (outcome : Outcome) : w.Grows (w.finish h outcome) := by
  intro k kept some
  simp only [finish]
  split
  case isTrue same =>
    subst same
    simp [Completion.finish, some]
  case isFalse => exact some

structure Arranges (w later : World) : Prop where
  tokens : later.tokens = w.tokens
  grows : w.Grows later
  kept : ∀ (k : Nat) m, w.monitors[k]? = some m → later.monitors[k]? = some m
  holder : ∀ k, later.holder k = w.holder k

private theorem arranges_finish (w : World) (h : Handle) (outcome : Outcome) : w.Arranges (w.finish h outcome) where
  tokens := rfl
  grows := grows_finish w h outcome
  kept _ _ found := found
  holder _ := rfl

private theorem arranges_newMonitor (w : World) (first : Handle) (single : Bool) :
    w.Arranges (w.newMonitor first single) := by
  have monitors : (w.newMonitor first single).monitors =
      w.monitors ++ [{ current := first, isSealed := single, gate := .gate w.gates }] := by
    cases single <;> rfl
  refine ⟨by cases single <;> rfl, ?grows, ?kept, ?holder⟩
  case grows =>
    cases single with
    | false => exact fun _ _ some => some
    | true => exact grows_finish _ (.gate w.gates) .success
  case kept =>
    intro k m found
    rw [monitors, List.getElem?_append_left (List.getElem?_eq_some_iff.mp found).1, found]
  case holder =>
    intro k
    rw [World.holder, World.holder, monitors, List.getElem?_append]
    split
    case isTrue => rfl
    case isFalse outside =>
      rw [List.getElem?_eq_none (Nat.le_of_not_lt outside)]
      cases k - w.monitors.length <;> rfl

private theorem arranges_transfers (w : World) (transfers : List (Option Nat)) :
    w.Arranges { w with transfers := transfers } where
  tokens := rfl
  grows _ _ some := some
  kept _ _ found := found
  holder _ := rfl

end World

inductive Stage where
  | attaching (transfer : Nat)
  | watching (monitor : Nat) (stage : Monitoring.Stage)
  | detached (result : Except WaitError Unit)
  | awaiting (h : Handle)
  | awaited (result : Waited)

structure Effect where
  world : World
  stage : Stage

def Stage.step? (me thread : Nat) (w : World) : Stage → Option Effect
  | .attaching transfer => do
    let attached ← w.transfers[transfer]?
    match (Drive.attach : Drive Nat).step attached with
    | .goto (.turn monitor) => some { world := w, stage := .watching monitor (.driving (.turn ())) }
    | .done result => some { world := w, stage := .detached result }
    | _ => none
  | .watching k stage => do
    let m ← w.monitors[k]?
    let e ← stage.step? me thread (w.facing m)
    return { world := w.after k e.world, stage := .watching k e.stage }
  | .awaiting h =>
    match (w.completions h).look (w.tokens thread) w.next with
    | .finished result next => some { world := { w with next := next }, stage := .awaited result }
    | .interrupted => some { world := w.setToken thread false, stage := .awaited (.error .interrupted) }
    | .nothing => none
  | .detached _ | .awaited _ => none

inductive Stage.Acts (me thread : Nat) (w : World) : Stage → Effect → Prop where
  | attach {transfer monitor} (attached : w.transfers[transfer]? = some (some monitor)) :
    Acts me thread w (.attaching transfer)
      { world := w, stage := .watching monitor (.driving (.turn ())) }
  | detach {transfer} (detached : w.transfers[transfer]? = some none) :
    Acts me thread w (.attaching transfer)
      { world := w, stage := .detached (.error (.transfer .noMonitor)) }
  | watch {k m stage e} (found : w.monitors[k]? = some m) (acts : stage.Acts me thread (w.facing m) e) :
    Acts me thread w (.watching k stage) { world := w.after k e.world, stage := .watching k e.stage }
  | finished {h outcome} (some : (w.completions h).outcome = some outcome) :
    Acts me thread w (.awaiting h)
      { world := { w with next := (outcome.waited w.next).2 }
        stage := .awaited (outcome.waited w.next).1 }
  | interrupted {h} (none : (w.completions h).outcome = none) (pending : w.tokens thread = true) :
    Acts me thread w (.awaiting h)
      { world := w.setToken thread false, stage := .awaited (.error .interrupted) }

theorem Stage.acts {me thread : Nat} {w : World} {stage : Stage} {e : Effect}
    (acted : stage.step? me thread w = some e) : Acts me thread w stage e := by
  cases stage with
  | attaching transfer =>
    obtain ⟨attached, found, acted⟩ := Option.bind_eq_some_iff.mp acted
    cases attached with
    | none =>
      cases Option.some.inj acted
      exact .detach found
    | some monitor =>
      cases Option.some.inj acted
      exact .attach found
  | watching k stage =>
    obtain ⟨m, found, rest⟩ := Option.bind_eq_some_iff.mp acted
    obtain ⟨view, stepped, same⟩ := Option.bind_eq_some_iff.mp rest
    cases Option.some.inj same
    exact .watch found (Monitoring.Stage.acts stepped)
  | awaiting h =>
    cases ended : (w.completions h).outcome with
    | some outcome =>
      simp only [step?, Completion.look, ended] at acted
      cases Option.some.inj acted
      exact .finished ended
    | none => cases pending : w.tokens thread with
      | true =>
        simp [step?, Completion.look, ended, pending] at acted
        subst acted
        exact .interrupted ended pending
      | false => simp [step?, Completion.look, ended, pending] at acted
  | detached | awaited => cases acted

def Stage.finished : Stage → Bool
  | .watching _ stage => match stage with
    | .waited _ | .answered _ => true
    | _ => false
  | .detached _ | .awaited _ => true
  | .attaching _ | .awaiting _ => false

theorem Stage.Acts.unfinished {me thread : Nat} {w : World} {stage : Stage} {e : Effect}
    (acts : stage.Acts me thread w e) : stage.finished = false := by
  cases acts with
  | watch found acts => cases acts <;> rfl
  | _ => rfl

structure Strand where
  thread : Nat
  kind : Option WaitKind := none
  stage : Stage

def Strand.report? (strand : Strand) : Option WaitReport :=
  match strand.stage with
  | .watching _ (.waited result) | .detached result => Session.waitReport strand.kind (.driven result)
  | .awaited result => Session.waitReport strand.kind (.waited result)
  | _ => none

structure System where
  world : World
  strands : List Strand := []

inductive Action where
  | call (thread monitor : Nat) (op : Operation Handle)
  | wait (thread transfer : Nat) (kind : WaitKind)
  | await (thread : Nat) (h : Handle)
  | step (place : Nat)
  | finish (id : Nat) (outcome : Outcome)
  | interrupt (thread : Nat)
  | newMonitor (first : Handle) (single : Bool)
  | newTransfer
  | attach (transfer monitor : Nat)

namespace System

def busy (s : System) (thread : Nat) : Bool :=
  s.strands.any fun strand => strand.thread == thread && !strand.stage.finished

def begin? (s : System) (strand : Strand) : Option System :=
  if s.busy strand.thread then none else some { s with strands := s.strands ++ [strand] }

def effect (s : System) (place : Nat) (strand : Strand) (e : Effect) : System where
  world := e.world
  strands := s.strands.set place { strand with stage := e.stage }

def change (s : System) (world : World) : System := { s with world := world }

def perform? (s : System) : Action → Option System
  | .call thread monitor op =>
    s.begin? { thread := thread, stage := .watching monitor (.calling .itself op (.enter op)) }
  | .wait thread transfer kind =>
    s.begin? { thread := thread, kind := some kind, stage := .attaching transfer }
  | .await thread h => s.begin? { thread := thread, stage := .awaiting h }
  | .step place => do
    let strand ← s.strands[place]?
    let e ← strand.stage.step? place strand.thread s.world
    return s.effect place strand e
  | .finish id outcome => some (s.change (s.world.finish (.unit id) outcome))
  | .interrupt thread => some (s.change (s.world.setToken thread true))
  | .newMonitor first single => some (s.change (s.world.newMonitor first single))
  | .newTransfer => some (s.change { s.world with transfers := s.world.transfers ++ [none] })
  | .attach transfer monitor =>
    some (s.change { s.world with transfers := s.world.transfers.set transfer (some monitor) })

def run? (s : System) : List Action → Option System
  | [] => some s
  | action :: rest => (s.perform? action).bind (run? · rest)

inductive Reachable : System → Prop where
  | start (w : World) (quiet : w.Quiet) : Reachable { world := w }
  | next {s t : System} (action : Action) (before : Reachable s)
      (performed : s.perform? action = some t) : Reachable t

theorem Reachable.run {s t : System} (before : s.Reachable) {actions : List Action}
    (ran : s.run? actions = some t) : t.Reachable := by
  induction actions generalizing s with
  | nil => cases Option.some.inj ran; exact before
  | cons action rest ih =>
    obtain ⟨middle, performed, ran⟩ := Option.bind_eq_some_iff.mp ran
    exact ih (.next action before performed) ran

def Fresh (strand : Strand) : Prop :=
  (∃ transfer, strand.stage = .attaching transfer) ∨ (∃ h, strand.stage = .awaiting h) ∨
    ∃ k op, strand.stage = .watching k (.calling .itself op (.enter op))

inductive Turns (s : System) : Action → System → Prop where
  | begin {action strand} (idle : s.busy strand.thread = false) (fresh : Fresh strand)
      (other : ∀ place, action ≠ .step place) :
    Turns s action { s with strands := s.strands ++ [strand] }
  | step {place strand e} (found : s.strands[place]? = some strand)
      (acts : strand.stage.Acts place strand.thread s.world e) :
    Turns s (.step place) (s.effect place strand e)
  | interrupt {thread} : Turns s (.interrupt thread) (s.change (s.world.setToken thread true))
  | arrange {action later} (arranges : s.world.Arranges later) (other : ∀ place, action ≠ .step place) :
    Turns s action (s.change later)

theorem begun {s t : System} {strand : Strand} (performed : s.begin? strand = some t) :
    s.busy strand.thread = false ∧ { s with strands := s.strands ++ [strand] } = t := by
  unfold begin? at performed
  split at performed
  case isTrue => cases performed
  case isFalse idle => exact ⟨Bool.eq_false_iff.mpr idle, Option.some.inj performed⟩

theorem turns {s t : System} {action : Action} (performed : s.perform? action = some t) :
    s.Turns action t := by
  cases action with
  | call thread k op =>
    obtain ⟨idle, rfl⟩ := begun performed
    exact .begin idle (Or.inr (Or.inr ⟨k, op, rfl⟩)) nofun
  | wait thread transfer kind =>
    obtain ⟨idle, rfl⟩ := begun performed
    exact .begin idle (Or.inl ⟨transfer, rfl⟩) nofun
  | await thread h =>
    obtain ⟨idle, rfl⟩ := begun performed
    exact .begin idle (Or.inr (Or.inl ⟨h, rfl⟩)) nofun
  | step place =>
    obtain ⟨strand, found, rest⟩ := Option.bind_eq_some_iff.mp performed
    obtain ⟨e, acted, same⟩ := Option.bind_eq_some_iff.mp rest
    cases Option.some.inj same
    exact .step found (Stage.acts acted)
  | interrupt thread => cases Option.some.inj performed; exact .interrupt
  | finish id outcome =>
    cases Option.some.inj performed
    exact .arrange (World.arranges_finish _ _ _) nofun
  | newMonitor first single =>
    cases Option.some.inj performed
    exact .arrange (World.arranges_newMonitor _ _ _) nofun
  | newTransfer | attach =>
    cases Option.some.inj performed
    exact .arrange (World.arranges_transfers _ _) nofun

theorem found_effect {s : System} {acting place : Nat} {actor strand : Strand} {e : Effect}
    (here : s.strands[acting]? = some actor)
    (found : (s.effect acting actor e).strands[place]? = some strand) :
    acting = place ∧ strand = { actor with stage := e.stage } ∨
      acting ≠ place ∧ s.strands[place]? = some strand := by
  by_cases same : acting = place
  · subst same
    rw [effect, List.getElem?_set_self (List.getElem?_eq_some_iff.mp here).1] at found
    exact Or.inl ⟨rfl, (Option.some.inj found).symm⟩
  · rw [effect, List.getElem?_set_ne same] at found
    exact Or.inr ⟨same, found⟩

theorem found_begin {s : System} {new strand : Strand} {place : Nat}
    (found : (s.strands ++ [new])[place]? = some strand) :
    s.strands[place]? = some strand ∨ s.strands.length = place ∧ strand = new := by
  rw [List.getElem?_append] at found
  split at found
  case isTrue => exact Or.inl found
  case isFalse outside =>
    have bound := (List.getElem?_eq_some_iff.mp found).1
    rw [List.length_singleton] at bound
    exact Or.inr ⟨by omega, List.mem_singleton.mp (List.mem_of_getElem? found)⟩

theorem Turns.found {s t : System} {action : Action} (turns : s.Turns action t) {place : Nat}
    {strand : Strand} (found : t.strands[place]? = some strand) :
    s.strands[place]? = some strand ∧ action ≠ .step place ∨
    (∃ old e, action = .step place ∧ s.strands[place]? = some old ∧
      old.stage.Acts place old.thread s.world e ∧ strand = { old with stage := e.stage } ∧
      t = s.effect place old e) ∨
    s.strands.length = place ∧ s.busy strand.thread = false ∧ Fresh strand := by
  cases turns with
  | begin idle fresh other =>
    obtain old | ⟨rfl, rfl⟩ := found_begin found
    · exact Or.inl ⟨old, other place⟩
    · exact Or.inr (Or.inr ⟨rfl, idle, fresh⟩)
  | @step acting actor e here acts =>
    obtain ⟨rfl, rfl⟩ | ⟨elsewhere, old⟩ := found_effect here found
    · exact Or.inr (Or.inl ⟨actor, e, rfl, here, acts, rfl, rfl⟩)
    · exact Or.inl ⟨old, fun same => elsewhere (Action.step.inj same)⟩
  | interrupt => exact Or.inl ⟨found, nofun⟩
  | arrange _ other => exact Or.inl ⟨found, other place⟩

theorem Turns.next {s t : System} {action : Action} (turns : s.Turns action t) {place : Nat}
    {strand : Strand} (found : s.strands[place]? = some strand) :
    ∃ later, t.strands[place]? = some later ∧ later.thread = strand.thread ∧
      (strand.stage.finished = true → later = strand) := by
  have bound := (List.getElem?_eq_some_iff.mp found).1
  cases turns with
  | begin => exact ⟨strand, (List.getElem?_append_left bound).trans found, rfl, fun _ => rfl⟩
  | @step acting actor e here acts =>
    by_cases same : acting = place
    · subst same
      obtain rfl := Option.some.inj (found.symm.trans here)
      refine ⟨{ strand with stage := e.stage }, List.getElem?_set_self bound, rfl, fun finished => ?_⟩
      rw [acts.unfinished] at finished
      cases finished
    · exact ⟨strand, (List.getElem?_set_ne same).trans found, rfl, fun _ => rfl⟩
  | interrupt | arrange => exact ⟨strand, found, rfl, fun _ => rfl⟩

theorem Reachable.invariant {s : System} (reach : s.Reachable) (holds : System → Prop)
    (start : ∀ w : World, w.Quiet → holds { world := w })
    (turn : ∀ s action t, s.Reachable → holds s → s.Turns action t → holds t) : holds s := by
  induction reach with
  | start w quiet => exact start w quiet
  | next action before performed ih => exact turn _ action _ before ih (turns performed)

end System

end TransferLifecycle.Interruption
