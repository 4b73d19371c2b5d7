import TransferLifecycle.Session.Executing

/-! Units of work, any number of handles to each, and any number of threads that finish units, wait on them and
ask about them, in any interleaving. A unit can be spawned: its work is offered to an executor, which accepts
the work, refuses it or panics, and which runs what it was offered once or never, at whatever time. -/
namespace TransferLifecycle.Settling

inductive Attempt where
  | succeed
  | fail (cause : Fault)
  | failShared (cause : SharedFault)
  | cancel

/-- The outcome, and the next free address. The cause of a failure is put at an address if it has none. -/
def Attempt.outcome (next : Nat) : Attempt → Outcome × Nat
  | .succeed => (.success, next)
  | .fail cause => (.failure ⟨(SharedFault.allocate cause next).1⟩, (SharedFault.allocate cause next).2)
  | .failShared cause => (.failure ⟨cause⟩, next)
  | .cancel => (.cancellation, next)

inductive Ending where
  | returned
  | failed (cause : Fault)
  | panicked

def panicFault : Fault := .transfer (.client "unit of work panicked" none)

def Ending.attempt : Ending → Attempt
  | .returned => .succeed
  | .failed cause => .fail cause
  | .panicked => .fail panicFault

def endingOf (next : Nat) : Session.Work → Ending × Nat
  | .succeed => (.returned, next)
  | .fail cause => (.failed (cause.build next).1, (cause.build next).2)
  | .panic _ => (.panicked, next)

theorem workOutcome_eq (s : Session) (work : Session.Work) :
    s.workOutcome work =
      let (outcome, next) := (endingOf s.nextAddress work).1.attempt.outcome (endingOf s.nextAddress work).2
      (outcome, { s with nextAddress := next }) := by
  cases work with
  | succeed => rfl
  | fail cause => rfl
  | panic => rfl

inductive Query where
  | isFinished | isFailed | isCanceled
  deriving DecidableEq, Repr

def Query.answer (c : Completion) : Query → Bool
  | .isFinished => c.isFinished
  | .isFailed => c.isFailed
  | .isCanceled => c.isCanceled

inductive Verdict where
  | accepts
  | refuses (reason : Refusal)
  | panics
  deriving DecidableEq, Repr

/-- What has become of the offer of a unit that is spawned. -/
inductive Offer where
  | unmade
  | pending
  | decided (verdict : Verdict)
  deriving DecidableEq, Repr

/-- What has become of the work of a unit that is spawned. -/
inductive Task where
  | unmade
  | queued (work : Ending)
  | worked (work : Ending) (outcome : Outcome)
  | settled (work : Ending) (outcome : Outcome) (first : Bool)
  | dropped

inductive Strand where
  | waiting (handle thread : Nat)
  /-- Asks whether the unit has finished, and only then waits to learn whether it has failed. -/
  | judging (handle thread : Nat)
  | deciding (handle thread : Nat)
  | ended
  deriving DecidableEq, Repr

inductive Deed where
  | attempted (handle unit : Nat) (attempt : Attempt) (outcome : Outcome) (first : Bool)
  | asked (handle unit : Nat) (query : Query) (answer : Bool)
  | waited (handle unit : Nat) (result : Waited)
  | judged (handle unit : Nat) (failed : Bool)
  | spawned (handle unit : Nat)
  | refused (unit : Nat) (reason : Refusal)
  | ran (unit : Nat) (work : Ending)
  | settled (unit : Nat) (outcome : Outcome) (first : Bool)

structure Store where
  completions : Nat → Completion := fun _ => {}
  made : Nat := 0
  handles : List Nat := []
  tokens : Nat → Bool := fun _ => false
  next : Nat := 0

namespace Store

def setToken (w : Store) (thread : Nat) (pending : Bool) : Store :=
  { w with tokens := fun t => if t = thread then pending else w.tokens t }

def outcome (w : Store) (unit : Nat) : Option Outcome := (w.completions unit).outcome

def isFirst (w : Store) (unit : Nat) (outcome : Outcome) : Bool := ((w.completions unit).finish outcome).1

def finish (w : Store) (unit : Nat) (outcome : Outcome) : Store :=
  { w with
    completions := fun k => if k = unit then ((w.completions unit).finish outcome).2 else w.completions k }

theorem isFirst_eq (w : Store) (unit : Nat) (outcome : Outcome) :
    w.isFirst unit outcome = (w.outcome unit).isNone := by
  cases written : (w.completions unit).outcome <;>
    simp [isFirst, Completion.finish, Store.outcome, written]

theorem outcome_finish (w : Store) (unit k : Nat) (outcome : Outcome) :
    (w.finish unit outcome).outcome k =
      if k = unit then some ((w.outcome k).getD outcome) else w.outcome k := by
  by_cases same : k = unit
  · cases written : (w.completions unit).outcome <;>
      simp [finish, Completion.finish, Store.outcome, written, same]
  · simp [finish, Store.outcome, same]

end Store

def hasFailed : Waited → Bool
  | .error (.execution _) => true
  | .error .interrupted | .ok () => false

structure Effect where
  store : Store
  strand : Strand := .ended
  deeds : List Deed := []

def Strand.step? (w : Store) : Strand → Option Effect
  | .waiting handle thread => do
    let unit ← w.handles[handle]?
    match (w.completions unit).look (w.tokens thread) w.next with
    | .finished result next =>
      some { store := { w with next := next }, deeds := [.waited handle unit result] }
    | .interrupted =>
      some { store := w.setToken thread false, deeds := [.waited handle unit (.error .interrupted)] }
    | .nothing => none
  | .judging handle thread => do
    let unit ← w.handles[handle]?
    if (w.completions unit).isFinished then some { store := w, strand := .deciding handle thread }
    else some { store := w, deeds := [.judged handle unit false] }
  | .deciding handle thread => do
    let unit ← w.handles[handle]?
    match (w.completions unit).look (w.tokens thread) w.next with
    | .finished result next =>
      some { store := { w with next := next }, deeds := [.judged handle unit (hasFailed result)] }
    | .interrupted => some { store := w.setToken thread false, deeds := [.judged handle unit false] }
    | .nothing => none
  | .ended => none

inductive Strand.Acts (w : Store) : Strand → Effect → Prop where
  | returned {handle thread unit outcome} (here : w.handles[handle]? = some unit)
      (finished : w.outcome unit = some outcome) :
    Acts w (.waiting handle thread)
      { store := { w with next := (outcome.waited w.next).2 }
        deeds := [.waited handle unit (outcome.waited w.next).1] }
  | interrupted {handle thread unit} (here : w.handles[handle]? = some unit)
      (unfinished : w.outcome unit = none) :
    Acts w (.waiting handle thread)
      { store := w.setToken thread false, deeds := [.waited handle unit (.error .interrupted)] }
  | proceed {handle thread unit outcome} (here : w.handles[handle]? = some unit)
      (finished : w.outcome unit = some outcome) :
    Acts w (.judging handle thread) { store := w, strand := .deciding handle thread }
  | denied {handle thread unit} (here : w.handles[handle]? = some unit)
      (unfinished : w.outcome unit = none) :
    Acts w (.judging handle thread) { store := w, deeds := [.judged handle unit false] }
  | decided {handle thread unit outcome} (here : w.handles[handle]? = some unit)
      (finished : w.outcome unit = some outcome) :
    Acts w (.deciding handle thread)
      { store := { w with next := (outcome.waited w.next).2 }
        deeds := [.judged handle unit (hasFailed (outcome.waited w.next).1)] }
  | missed {handle thread unit} (here : w.handles[handle]? = some unit)
      (unfinished : w.outcome unit = none) :
    Acts w (.deciding handle thread)
      { store := w.setToken thread false, deeds := [.judged handle unit false] }

theorem Strand.acts {w : Store} {strand : Strand} {e : Effect} (stepped : strand.step? w = some e) :
    strand.Acts w e := by
  cases strand with
  | waiting handle thread =>
    obtain ⟨unit, here, stepped⟩ := Option.bind_eq_some_iff.mp stepped
    cases outcome : (w.completions unit).outcome with
    | some outcome =>
      simp [Completion.look, outcome] at stepped
      subst e
      exact .returned here ‹_›
    | none =>
      cases token : w.tokens thread <;> simp [Completion.look, outcome, token] at stepped
      subst e
      exact .interrupted here outcome
  | judging handle thread =>
    obtain ⟨unit, here, stepped⟩ := Option.bind_eq_some_iff.mp stepped
    cases outcome : (w.completions unit).outcome <;>
      simp [Completion.isFinished, outcome] at stepped <;> subst e
    · exact .denied here outcome
    · exact .proceed here outcome
  | deciding handle thread =>
    obtain ⟨unit, here, stepped⟩ := Option.bind_eq_some_iff.mp stepped
    cases outcome : (w.completions unit).outcome with
    | some outcome =>
      simp [Completion.look, outcome] at stepped
      subst e
      exact .decided here ‹_›
    | none =>
      cases token : w.tokens thread <;> simp [Completion.look, outcome, token] at stepped
      subst e
      exact .missed here outcome
  | ended => cases stepped

structure System where
  store : Store := {}
  offers : Nat → Offer := fun _ => .unmade
  tasks : Nat → Task := fun _ => .unmade
  strands : List Strand := []
  history : List Deed := []

inductive Action where
  | create
  | clone (handle : Nat)
  | attempt (handle : Nat) (attempt : Attempt)
  | ask (handle : Nat) (query : Query)
  | wait (handle thread : Nat)
  | judge (handle thread : Nat)
  | step (place : Nat)
  | interrupt (thread : Nat)
  | spawn (work : Ending)
  | decide (unit : Nat) (verdict : Verdict)
  | run (unit : Nat)
  | drop (unit : Nat)
  | settle (unit : Nat)

namespace System

def setTask (s : System) (unit : Nat) (task : Task) : System :=
  { s with tasks := fun u => if u = unit then task else s.tasks u }

def setOffer (s : System) (unit : Nat) (offer : Offer) : System :=
  { s with offers := fun u => if u = unit then offer else s.offers u }

def tell (s : System) (deeds : List Deed) : System := { s with history := s.history ++ deeds }

def addHandle (s : System) (unit : Nat) : System :=
  { s with store := { s.store with handles := s.store.handles ++ [unit] } }

def newUnit (s : System) : System := { s with store := { s.store with made := s.store.made + 1 } }

/-- Tries to finish a unit. The outcome has been made before that, and its cause put at an address. -/
def finish (s : System) (unit : Nat) (outcome : Outcome) (next : Nat) : System :=
  { s with store := { s.store with next := next }.finish unit outcome }

def perform? (s : System) : Action → Option System
  | .create => some (s.newUnit.addHandle s.store.made)
  | .clone handle => do
    let unit ← s.store.handles[handle]?
    return s.addHandle unit
  | .attempt handle attempt => do
    let unit ← s.store.handles[handle]?
    let (outcome, next) := attempt.outcome s.store.next
    return (s.finish unit outcome next).tell
      [.attempted handle unit attempt outcome (s.store.isFirst unit outcome)]
  | .ask handle query => do
    let unit ← s.store.handles[handle]?
    return s.tell [.asked handle unit query (query.answer (s.store.completions unit))]
  | .wait handle thread => some { s with strands := s.strands ++ [.waiting handle thread] }
  | .judge handle thread => some { s with strands := s.strands ++ [.judging handle thread] }
  | .step place => do
    let strand ← s.strands[place]?
    let e ← strand.step? s.store
    return { s with store := e.store, strands := s.strands.set place e.strand }.tell e.deeds
  | .interrupt thread => some { s with store := s.store.setToken thread true }
  | .spawn work => some ((s.newUnit.setOffer s.store.made .pending).setTask s.store.made (.queued work))
  | .decide unit verdict =>
    if s.offers unit = .pending then
      let s := s.setOffer unit (.decided verdict)
      match verdict with
      | .accepts => some ((s.addHandle unit).tell [.spawned s.store.handles.length unit])
      | .refuses reason => some (s.tell [.refused unit reason])
      | .panics => some s
    else none
  | .run unit =>
    match s.tasks unit with
    | .queued work =>
      let (outcome, next) := work.attempt.outcome s.store.next
      some (({ s with store := { s.store with next := next } }.setTask unit (.worked work outcome)).tell
        [.ran unit work])
    | _ => none
  | .drop unit =>
    match s.tasks unit with
    | .queued _ => some (s.setTask unit .dropped)
    | _ => none
  | .settle unit =>
    match s.tasks unit with
    | .worked work outcome =>
      let first := s.store.isFirst unit outcome
      some (((s.finish unit outcome s.store.next).setTask unit (.settled work outcome first)).tell
        [.settled unit outcome first])
    | _ => none

inductive Steps (s : System) : Action → System → Prop where
  | create : Steps s .create (s.newUnit.addHandle s.store.made)
  | clone {handle unit} (here : s.store.handles[handle]? = some unit) :
    Steps s (.clone handle) (s.addHandle unit)
  | attempt {handle unit attempt outcome next} (here : s.store.handles[handle]? = some unit)
      (tried : Attempt.outcome s.store.next attempt = (outcome, next)) :
    Steps s (.attempt handle attempt)
      ((s.finish unit outcome next).tell
        [.attempted handle unit attempt outcome (s.store.isFirst unit outcome)])
  | ask {handle unit query} (here : s.store.handles[handle]? = some unit) :
    Steps s (.ask handle query)
      (s.tell [.asked handle unit query (query.answer (s.store.completions unit))])
  | wait {handle thread} :
    Steps s (.wait handle thread) { s with strands := s.strands ++ [.waiting handle thread] }
  | judge {handle thread} :
    Steps s (.judge handle thread) { s with strands := s.strands ++ [.judging handle thread] }
  | step {place strand e} (found : s.strands[place]? = some strand) (acts : strand.Acts s.store e) :
    Steps s (.step place) ({ s with store := e.store, strands := s.strands.set place e.strand }.tell e.deeds)
  | interrupt {thread} : Steps s (.interrupt thread) { s with store := s.store.setToken thread true }
  | spawn {work} :
    Steps s (.spawn work) ((s.newUnit.setOffer s.store.made .pending).setTask s.store.made (.queued work))
  | accept {unit} (offer : s.offers unit = .pending) :
    Steps s (.decide unit .accepts)
      (((s.setOffer unit (.decided .accepts)).addHandle unit).tell [.spawned s.store.handles.length unit])
  | refuse {unit reason} (offer : s.offers unit = .pending) :
    Steps s (.decide unit (.refuses reason))
      ((s.setOffer unit (.decided (.refuses reason))).tell [.refused unit reason])
  | panic {unit} (offer : s.offers unit = .pending) :
    Steps s (.decide unit .panics) (s.setOffer unit (.decided .panics))
  | run {unit work outcome next} (task : s.tasks unit = .queued work)
      (tried : work.attempt.outcome s.store.next = (outcome, next)) :
    Steps s (.run unit)
      (({ s with store := { s.store with next := next } }.setTask unit (.worked work outcome)).tell
        [.ran unit work])
  | drop {unit work} (task : s.tasks unit = .queued work) : Steps s (.drop unit) (s.setTask unit .dropped)
  | settle {unit work outcome} (task : s.tasks unit = .worked work outcome) :
    Steps s (.settle unit)
      (((s.finish unit outcome s.store.next).setTask unit
          (.settled work outcome (s.store.isFirst unit outcome))).tell
        [.settled unit outcome (s.store.isFirst unit outcome)])

theorem steps_of_perform {s t : System} {action : Action} (performed : s.perform? action = some t) :
    s.Steps action t := by
  cases action with
  | create =>
    cases Option.some.inj performed
    exact .create
  | clone handle =>
    obtain ⟨unit, here, same⟩ := Option.bind_eq_some_iff.mp performed
    cases Option.some.inj same
    exact .clone here
  | attempt handle attempt =>
    obtain ⟨unit, here, same⟩ := Option.bind_eq_some_iff.mp performed
    cases Option.some.inj same
    exact .attempt here rfl
  | ask handle query =>
    obtain ⟨unit, here, same⟩ := Option.bind_eq_some_iff.mp performed
    cases Option.some.inj same
    exact .ask here
  | wait handle thread =>
    cases Option.some.inj performed
    exact .wait
  | judge handle thread =>
    cases Option.some.inj performed
    exact .judge
  | step place =>
    obtain ⟨strand, found, rest⟩ := Option.bind_eq_some_iff.mp performed
    obtain ⟨e, stepped, same⟩ := Option.bind_eq_some_iff.mp rest
    cases Option.some.inj same
    exact .step found (Strand.acts stepped)
  | interrupt thread =>
    cases Option.some.inj performed
    exact .interrupt
  | spawn work =>
    cases Option.some.inj performed
    exact .spawn
  | decide unit verdict =>
    obtain ⟨offer, same⟩ := Option.ite_none_right_eq_some.mp performed
    cases verdict <;> cases Option.some.inj same
    · exact .accept offer
    · exact .refuse offer
    · exact .panic offer
  | run unit =>
    cases task : s.tasks unit <;> simp [perform?, task] at performed
    subst t
    exact .run task rfl
  | drop unit =>
    cases task : s.tasks unit <;> simp [perform?, task] at performed
    subst t
    exact .drop task
  | settle unit =>
    cases task : s.tasks unit <;> simp [perform?, task] at performed
    subst t
    exact .settle task

def run? (s : System) : List Action → Option System
  | [] => some s
  | action :: rest => (s.perform? action).bind (run? · rest)

inductive Reachable : System → Prop where
  | start : Reachable {}
  | next {s t : System} (action : Action) (before : Reachable s) (performed : s.perform? action = some t) :
    Reachable t

theorem Reachable.invariant {s : System} (reach : s.Reachable) (holds : System → Prop) (start : holds {})
    (step : ∀ s action t, s.Reachable → holds s → s.Steps action t → holds t) : holds s := by
  induction reach with
  | start => exact start
  | next action before performed ih => exact step _ action _ before ih (steps_of_perform performed)

theorem Reachable.run {s t : System} (before : s.Reachable) (actions : List Action)
    (ran : s.run? actions = some t) : t.Reachable := by
  induction actions generalizing s with
  | nil =>
    cases Option.some.inj ran
    exact before
  | cons action rest ih =>
    obtain ⟨middle, performed, ran⟩ := Option.bind_eq_some_iff.mp ran
    exact ih (.next action before performed) ran

end System

end TransferLifecycle.Settling
