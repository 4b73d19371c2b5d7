import TransferLifecycle.UnitMonitor
import TransferLifecycle.Wait

/-! One unit monitor, its units, and any number of threads that wait for a transfer or call the
monitor themselves, in any interleaving of their steps. A unit may be finished by anybody at any
time, also between two questions that one operation of the monitor puts to it. Gates are finished
by the monitor alone. -/
namespace TransferLifecycle

/-- Everything that a step of an operation on a monitor can do, case by case. -/
inductive UnitMonitor.Moves {η : Type} (me : Nat) (m : UnitMonitor η) :
    Point η → UnitMonitor η → Next (Point η) (Question η) (Result η) → Prop where
  | enter {op} (free : m.holder = none) :
    Moves me m (.enter op) { m with holder := some me } (.goto (.check op))
  | ignore {unit} (closed : m.isSealed = true) :
    Moves me m (.check (.advance unit)) m (.goto (.leave (.truth false)))
  | advance {unit} (opened : m.isSealed = false) :
    Moves me m (.check (.advance unit)) m (.goto (.latch (.advance unit)))
  | seal :
    Moves me m (.check .seal) { m with isSealed := true } (.ask (.openGate m.gate) (.opening .nothing))
  | isDone : Moves me m (.check .isDone) m (.goto (.latch .isDone))
  | currentHandle : Moves me m (.check .currentHandle) m (.goto (.latch .currentHandle))
  | latched {op unit} (failed : m.failed = some unit) : Moves me m (.latch op) m (.goto (.act op))
  | judge {op} (none : m.failed = none) :
    Moves me m (.latch op) m (.ask (.isFailed m.current) (.judging op))
  | latch {op} : Moves me m (.verdict op true) { m with failed := some m.current } (.goto (.act op))
  | pass {op} : Moves me m (.verdict op false) m (.goto (.act op))
  | replace {unit} :
    Moves me m (.act (.advance unit)) { m with current := unit } (.ask .newGate .awaitGate)
  | nothingMore : Moves me m (.act .seal) m (.goto (.leave .nothing))
  | doneByFailure {unit} (failed : m.failed = some unit) :
    Moves me m (.act .isDone) m (.goto (.leave (.truth true)))
  | lookAtLast (none : m.failed = none) (closed : m.isSealed = true) :
    Moves me m (.act .isDone) m (.ask (.isFinished m.current) (.looking .isDone))
  | notDone (none : m.failed = none) (opened : m.isSealed = false) :
    Moves me m (.act .isDone) m (.goto (.leave (.truth false)))
  | handFailed {unit} (failed : m.failed = some unit) :
    Moves me m (.act .currentHandle) m (.goto (.leave (.handle unit)))
  | handLast (none : m.failed = none) (closed : m.isSealed = true) :
    Moves me m (.act .currentHandle) m (.goto (.leave (.handle m.current)))
  | lookAtCurrent (none : m.failed = none) (opened : m.isSealed = false) :
    Moves me m (.act .currentHandle) m (.ask (.isFinished m.current) (.looking .currentHandle))
  | install {gate} :
    Moves me m (.install gate) { m with gate := gate } (.ask (.openGate m.gate) (.opening (.truth true)))
  | handGate : Moves me m (.settle .currentHandle true) m (.goto (.leave (.handle m.gate)))
  | handCurrent : Moves me m (.settle .currentHandle false) m (.goto (.leave (.handle m.current)))
  | answer {op isFinished} (other : op ≠ .currentHandle) :
    Moves me m (.settle op isFinished) m (.goto (.leave (.truth isFinished)))
  | leave {result} : Moves me m (.leave result) { m with holder := none } (.done result)

theorem UnitMonitor.moves {η : Type} (me : Nat) (m : UnitMonitor η) (point : Point η)
    (free : (step me m point).2.2 ≠ .blocked) :
    Moves me m point (step me m point).1 (step me m point).2.2 := by
  cases point with
  | enter op =>
    cases holder : m.holder with
    | some other => simp [step, holder] at free
    | none => simpa [step, holder] using Moves.enter holder
  | check op => cases op with
    | advance unit =>
      cases closed : m.isSealed with
      | true => simpa [step, closed] using Moves.ignore closed
      | false => simpa [step, closed] using Moves.advance closed
    | _ => constructor
  | latch op =>
    cases failed : m.failed with
    | some unit => simpa [step, failed] using Moves.latched failed
    | none => simpa [step, failed] using Moves.judge failed
  | verdict op hasFailed => cases hasFailed <;> constructor
  | act op => cases op with
    | isDone =>
      cases failed : m.failed with
      | some unit => simpa [step, failed] using Moves.doneByFailure failed
      | none => cases closed : m.isSealed with
        | true => simpa [step, failed, closed] using Moves.lookAtLast failed closed
        | false => simpa [step, failed, closed] using Moves.notDone failed closed
    | currentHandle =>
      cases failed : m.failed with
      | some unit => simpa [step, failed] using Moves.handFailed failed
      | none => cases closed : m.isSealed with
        | true => simpa [step, failed, closed] using Moves.handLast failed closed
        | false => simpa [step, failed, closed] using Moves.lookAtCurrent failed closed
    | _ => constructor
  | settle op isFinished => cases op with
    | currentHandle => cases isFinished <;> constructor
    | _ => exact .answer nofun
  | install | leave => constructor
  | judging | awaitGate | opening | looking => exact (free rfl).elim

namespace Monitoring

open UnitMonitor (Operation Question Answer Result Point)
open Wait (Drive Turn)

inductive Handle where
  | unit (id : Nat)
  | gate (id : Nat)
  deriving DecidableEq, Repr

structure World where
  monitor : UnitMonitor Handle
  completions : Handle → Completion
  gates : Nat := 1
  tokens : Nat → Bool := fun _ => false
  next : Nat := 0

namespace World

def new (units : Nat → Completion) (first : Nat) : World where
  monitor := { current := .unit first, gate := .gate 0 }
  completions
    | .unit id => units id
    | .gate _ => {}

def finish (w : World) (h : Handle) (outcome : Outcome) : World :=
  { w with
    completions := fun k => if k = h then ((w.completions h).finish outcome).2 else w.completions k }

def setToken (w : World) (thread : Nat) (pending : Bool) : World :=
  { w with tokens := fun t => if t = thread then pending else w.tokens t }

def answer (w : World) : Question Handle → Answer Handle × World
  | .isFailed h => (.truth (w.completions h).isFailed, w)
  | .isFinished h => (.truth (w.completions h).isFinished, w)
  | .newGate => (.gate (.gate w.gates), { w with gates := w.gates + 1 })
  | .openGate h => (.opened, w.finish h .success)

@[simp] theorem monitor_finish (w : World) (h : Handle) (outcome : Outcome) :
    (w.finish h outcome).monitor = w.monitor := rfl

@[simp] theorem monitor_setToken (w : World) (thread : Nat) (pending : Bool) :
    (w.setToken thread pending).monitor = w.monitor := rfl

@[simp] theorem completions_setToken (w : World) (thread : Nat) (pending : Bool) :
    (w.setToken thread pending).completions = w.completions := rfl

@[simp] theorem monitor_answer (w : World) (question : Question Handle) :
    (w.answer question).2.monitor = w.monitor := by
  cases question <;> rfl

end World

inductive Deed where
  | current (unit : Handle)
  | latched (unit : Handle)
  | handed (handle : Handle)
  deriving DecidableEq, Repr

def deedsOf (m : UnitMonitor Handle) : Point Handle → List Deed
  | .act (.advance unit) => [.current unit]
  | .verdict _ true => [.latched m.current]
  | .leave (.handle h) => [.handed h]
  | _ => []

inductive Caller where
  | itself
  | wait (drive : Drive Unit) (turn : Turn Handle)

/-- Where a call of the monitor or a wait for the transfer stands between two indivisible steps. -/
inductive Stage where
  | driving (drive : Drive Unit)
  | turning (drive : Drive Unit) (turn : Turn Handle)
  | awaiting (drive : Drive Unit) (turn : Turn Handle) (h : Handle)
  | calling (caller : Caller) (op : Operation Handle) (point : Point Handle)
  | asking (caller : Caller) (op : Operation Handle) (question : Question Handle) (point : Point Handle)
  | waited (result : Except WaitError Unit)
  | answered (result : Result Handle)

def Caller.give (result : Result Handle) : Caller → Stage
  | .itself => .answered result
  | .wait drive turn =>
    match result with
    | .handle h => .turning drive (turn.resume (.handle h))
    | .truth b => .turning drive (turn.resume (.done b))
    | .nothing => .turning drive turn

structure Effect where
  world : World
  stage : Stage
  deeds : List Deed := []

def Stage.step? (me thread : Nat) (w : World) : Stage → Option Effect
  | .driving drive =>
    match drive.step (some ()) with
    | .goto drive => some { world := w, stage := .driving drive }
    | .ask () drive => some { world := w, stage := .turning drive .fetch }
    | .done result => some { world := w, stage := .waited result }
    | .blocked => none
  | .turning drive turn =>
    match turn.step with
    | .goto turn => some { world := w, stage := .turning drive turn }
    | .ask .currentHandle turn =>
      some { world := w, stage := .calling (.wait drive turn) .currentHandle (.enter .currentHandle) }
    | .ask (.wait h) turn => some { world := w, stage := .awaiting drive turn h }
    | .ask .isDone turn =>
      some { world := w, stage := .calling (.wait drive turn) .isDone (.enter .isDone) }
    | .done result => some { world := w, stage := .driving (drive.resume result) }
    | .blocked => none
  | .awaiting drive turn h =>
    match (w.completions h).look (w.tokens thread) w.next with
    | .finished result next =>
      some { world := { w with next := next }, stage := .turning drive (turn.resume (.waited result)) }
    | .interrupted =>
      some { world := w.setToken thread false
             stage := .turning drive (turn.resume (.waited (.error .interrupted))) }
    | .nothing => none
  | .calling caller op point =>
    let (m, _, next) := UnitMonitor.step me w.monitor point
    let w' := { w with monitor := m }
    let deeds := deedsOf w.monitor point
    match next with
    | .goto next => some { world := w', stage := .calling caller op next, deeds := deeds }
    | .ask q next => some { world := w', stage := .asking caller op q next, deeds := deeds }
    | .done result => some { world := w', stage := caller.give result, deeds := deeds }
    | .blocked => none
  | .asking caller op question point =>
    let (answer, w) := w.answer question
    some { world := w, stage := .calling caller op (UnitMonitor.resume point answer) }
  | .waited _ | .answered _ => none

inductive Stage.Acts (me thread : Nat) (w : World) : Stage → Effect → Prop where
  | attach : Acts me thread w (.driving .attach) { world := w, stage := .driving (.turn ()) }
  | begin : Acts me thread w (.driving (.turn ())) { world := w, stage := .turning (.turning ()) .fetch }
  | report {result} : Acts me thread w (.driving (.leave result)) { world := w, stage := .waited result }
  | fetch {drive} :
    Acts me thread w (.turning drive .fetch)
      { world := w, stage := .calling (.wait drive .fetching) .currentHandle (.enter .currentHandle) }
  | await {drive h} :
    Acts me thread w (.turning drive (.await h)) { world := w, stage := .awaiting drive .awaiting h }
  | inquire {drive} :
    Acts me thread w (.turning drive .inquire)
      { world := w, stage := .calling (.wait drive .inquiring) .isDone (.enter .isDone) }
  | finishTurn {drive result} :
    Acts me thread w (.turning drive (.leave result))
      { world := w, stage := .driving (drive.resume result) }
  | finished {drive turn h outcome} (some : (w.completions h).outcome = some outcome) :
    Acts me thread w (.awaiting drive turn h)
      { world := { w with next := (outcome.waited w.next).2 }
        stage := .turning drive (turn.resume (.waited (outcome.waited w.next).1)) }
  | interrupted {drive turn h} (none : (w.completions h).outcome = none)
    (pending : w.tokens thread = true) :
    Acts me thread w (.awaiting drive turn h)
      { world := w.setToken thread false
        stage := .turning drive (turn.resume (.waited (.error .interrupted))) }
  | goto {caller op point m next} (moves : UnitMonitor.Moves me w.monitor point m (.goto next)) :
    Acts me thread w (.calling caller op point)
      { world := { w with monitor := m }, stage := .calling caller op next
        deeds := deedsOf w.monitor point }
  | ask {caller op point m question next}
    (moves : UnitMonitor.Moves me w.monitor point m (.ask question next)) :
    Acts me thread w (.calling caller op point)
      { world := { w with monitor := m }, stage := .asking caller op question next
        deeds := deedsOf w.monitor point }
  | leave {caller op result} :
    Acts me thread w (.calling caller op (.leave result))
      { world := { w with monitor := { w.monitor with holder := none } }, stage := caller.give result
        deeds := deedsOf w.monitor (.leave result) }
  | answer {caller op question point} :
    Acts me thread w (.asking caller op question point)
      { world := (w.answer question).2
        stage := .calling caller op (UnitMonitor.resume point (w.answer question).1) }

theorem Stage.acts {me thread : Nat} {w : World} {stage : Stage} {e : Effect}
    (acted : stage.step? me thread w = some e) : Acts me thread w stage e := by
  cases stage with
  | driving drive => cases drive with
    | turning _ => cases acted
    | _ => cases Option.some.inj acted; constructor
  | turning drive turn => cases turn with
    | fetching | awaiting | inquiring => cases acted
    | _ => cases Option.some.inj acted; constructor
  | awaiting drive turn h =>
    cases outcome : (w.completions h).outcome with
    | some outcome =>
      simp only [step?, Completion.look, outcome] at acted
      cases Option.some.inj acted
      exact .finished outcome
    | none => cases pending : w.tokens thread with
      | true =>
        simp [step?, Completion.look, outcome, pending] at acted
        subst acted
        exact .interrupted outcome pending
      | false => simp [step?, Completion.look, outcome, pending] at acted
  | calling caller op point =>
    have moves := UnitMonitor.moves me w.monitor point
    simp only [step?] at acted
    cases next : (UnitMonitor.step me w.monitor point).2.2 with
    | goto point =>
      rw [next] at acted moves
      cases Option.some.inj acted
      exact .goto (moves nofun)
    | ask question point =>
      rw [next] at acted moves
      cases Option.some.inj acted
      exact .ask (moves nofun)
    | done result =>
      rw [next] at acted moves
      cases Option.some.inj acted
      generalize UnitMonitor.step me w.monitor point = stepped at moves
      obtain ⟨m, notices, next⟩ := stepped
      cases moves nofun
      exact .leave
    | blocked =>
      rw [next] at acted
      cases acted
  | asking caller op question point => cases Option.some.inj acted; exact .answer
  | waited | answered => cases acted

structure Strand where
  thread : Nat
  stage : Stage

/-- The world, the strands that have been begun, each at its place for ever, and what has been
told, each deed of a strand with the place of the strand. -/
structure System where
  world : World
  strands : List Strand := []
  history : List (Option Nat × Deed) := []

inductive Action where
  | call (thread : Nat) (op : Operation Handle)
  | wait (thread : Nat)
  | step (place : Nat)
  | finish (id : Nat) (outcome : Outcome)
  | interrupt (thread : Nat)

namespace System

def new (units : Nat → Completion) (first : Nat) : System where
  world := .new units first
  history := [(none, .current (.unit first))]

def begin (s : System) (strand : Strand) : System := { s with strands := s.strands ++ [strand] }

def effect (s : System) (place thread : Nat) (e : Effect) : System where
  world := e.world
  strands := s.strands.set place { thread := thread, stage := e.stage }
  history := s.history ++ e.deeds.map (some place, ·)

def change (s : System) (world : World) : System := { s with world := world }

def perform? (s : System) : Action → Option System
  | .call thread op => some (s.begin { thread := thread, stage := .calling .itself op (.enter op) })
  | .wait thread => some (s.begin { thread := thread, stage := .driving .attach })
  | .step place => do
    let strand ← s.strands[place]?
    let e ← strand.stage.step? place strand.thread s.world
    return s.effect place strand.thread e
  | .finish id outcome => some (s.change (s.world.finish (.unit id) outcome))
  | .interrupt thread => some (s.change (s.world.setToken thread true))

inductive Reachable : System → Prop where
  | start (units : Nat → Completion) (first : Nat) : Reachable (.new units first)
  | next {s t : System} (action : Action) (before : Reachable s)
      (performed : s.perform? action = some t) : Reachable t

def run? (s : System) : List Action → Option System
  | [] => some s
  | action :: rest => (s.perform? action).bind (run? · rest)

theorem Reachable.run {s t : System} (before : s.Reachable) (actions : List Action)
    (ran : s.run? actions = some t) : t.Reachable := by
  induction actions generalizing s with
  | nil => cases Option.some.inj ran; exact before
  | cons action rest ih =>
    obtain ⟨middle, performed, ran⟩ := Option.bind_eq_some_iff.mp ran
    exact ih (.next action before performed) ran

def steps (place count : Nat) : List Action := List.replicate count (.step place)

theorem acts_of_perform {s t : System} {place : Nat} (performed : s.perform? (.step place) = some t) :
    ∃ strand e, s.strands[place]? = some strand ∧ strand.stage.Acts place strand.thread s.world e ∧
      t = s.effect place strand.thread e := by
  obtain ⟨strand, found, rest⟩ := Option.bind_eq_some_iff.mp performed
  obtain ⟨e, acted, same⟩ := Option.bind_eq_some_iff.mp rest
  exact ⟨strand, e, found, Stage.acts acted, (Option.some.inj same).symm⟩

def Fresh (strand : Strand) : Prop :=
  strand.stage = .driving .attach ∨ ∃ op, strand.stage = .calling .itself op (.enter op)

theorem Reachable.invariant {s : System} (reach : s.Reachable) (holds : System → Prop)
    (start : ∀ units first, holds (.new units first))
    (begin : ∀ s strand, holds s → Fresh strand → holds (s.begin strand))
    (finish : ∀ s id outcome, holds s → holds (s.change (s.world.finish (.unit id) outcome)))
    (interrupt : ∀ s thread, holds s → holds (s.change (s.world.setToken thread true)))
    (step : ∀ s place strand e, s.Reachable → holds s → s.strands[place]? = some strand →
      strand.stage.Acts place strand.thread s.world e → holds (s.effect place strand.thread e)) :
    holds s := by
  induction reach with
  | start units first => exact start units first
  | next action before performed ih =>
    cases action with
    | call thread op =>
      cases Option.some.inj performed
      exact begin _ _ ih (Or.inr ⟨op, rfl⟩)
    | wait thread =>
      cases Option.some.inj performed
      exact begin _ _ ih (Or.inl rfl)
    | step place =>
      obtain ⟨strand, e, found, acts, rfl⟩ := acts_of_perform performed
      exact step _ place strand e before ih found acts
    | finish id outcome =>
      cases Option.some.inj performed
      exact finish _ id outcome ih
    | interrupt thread =>
      cases Option.some.inj performed
      exact interrupt _ thread ih

def deeds (s : System) : List Deed := s.history.map (·.2)

theorem found_begin {s : System} {new strand : Strand} {place : Nat}
    (found : (s.begin new).strands[place]? = some strand) :
    s.strands[place]? = some strand ∨ strand = new := by
  rw [begin, List.getElem?_append] at found
  split at found
  case isTrue => exact Or.inl found
  case isFalse => exact Or.inr (List.mem_singleton.mp (List.mem_of_getElem? found))

theorem found_effect {s : System} {acting place thread : Nat} {acts strand : Strand} {e : Effect}
    (here : s.strands[acting]? = some acts)
    (found : (s.effect acting thread e).strands[place]? = some strand) :
    acting = place ∧ strand = ⟨thread, e.stage⟩ ∨ acting ≠ place ∧ s.strands[place]? = some strand := by
  by_cases same : acting = place
  · subst same
    rw [effect, List.getElem?_set_self (List.getElem?_eq_some_iff.mp here).1] at found
    exact Or.inl ⟨rfl, (Option.some.inj found).symm⟩
  · rw [effect, List.getElem?_set_ne same] at found
    exact Or.inr ⟨same, found⟩

@[simp] theorem deeds_effect (s : System) (place thread : Nat) (e : Effect) :
    (s.effect place thread e).deeds = s.deeds ++ e.deeds := by
  simp [effect, deeds, Function.comp_def]

@[simp] theorem deeds_begin (s : System) (strand : Strand) : (s.begin strand).deeds = s.deeds := rfl

@[simp] theorem deeds_change (s : System) (world : World) : (s.change world).deeds = s.deeds := rfl

end System

end Monitoring

end TransferLifecycle
