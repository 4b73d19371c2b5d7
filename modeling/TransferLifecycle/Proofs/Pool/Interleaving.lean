import TransferLifecycle.Pool

/-! Any number of submissions and shutdowns of one pool, in any interleaving of their steps with those
of the workers. A task is known by the place of its submission. While it runs it takes as long as it
likes and may panic; what it submits is a strand of its own. -/
namespace TransferLifecycle.Pool

/-- Where a submission, a shutdown or a worker stands between two indivisible steps. -/
inductive Strand where
  | submitting (point : Submit)
  | answered (result : Except Refusal Unit)
  | stopping (point : Shutdown)
  /-- A shutdown is over. Only the first one has waited for the workers. -/
  | returned (first : Bool)
  | working (point : Loop)
  | running (task : Nat)
  | exited

inductive Deed where
  /-- A submission shares the lock, and the pool is shutting down by now or is not. -/
  | entered (closing : Bool)
  | accepted
  | refused (reason : Refusal)
  | flagged
  | taken (task : Nat)
  | finished (task : Nat) (panicked : Bool)
  | signalled
  deriving DecidableEq, Repr

inductive Act where
  | move
  | finish (panicked : Bool)
  deriving DecidableEq, Repr

structure Effect where
  core : Pool Nat
  strand : Strand
  deeds : List Deed := []

def Submit.deeds (p : Pool Nat) : Submit → List Deed
  | .enter => [.entered p.shuttingDown]
  | .check => if p.shuttingDown then [.refused .shuttingDown] else []
  | .send => [if p.queue.length < p.capacity then .accepted else .refused .queueFull]
  | .leave _ => []

def Shutdown.deeds (p : Pool Nat) : Shutdown → List Deed
  | .mark => if p.shuttingDown then [] else [.flagged]
  | _ => []

def Loop.deeds (p : Pool Nat) : Loop → List Deed
  | .receive =>
    match p.queue with
    | .run task :: _ => [.taken task]
    | .stop :: _ => [.signalled]
    | [] => []
  | _ => []

def Shutdown.first : Shutdown → Bool
  | .leave _ => false
  | _ => true

def Submit.follow : Next Submit Empty (Except Refusal Unit) → Option Strand
  | .goto point => some (.submitting point)
  | .done result => some (.answered result)
  | .blocked => none

def Shutdown.follow (point : Shutdown) : Next Shutdown Empty Unit → Option Strand
  | .goto point => some (.stopping point)
  | .done () => some (.returned point.first)
  | .blocked => none

def Loop.follow : Next Loop Nat Unit → Option Strand
  | .goto point => some (.working point)
  | .ask task _ => some (.running task)
  | .done () => some .exited
  | .blocked => none

def Strand.act? (me : Nat) (p : Pool Nat) : Strand → Act → Option Effect
  | .submitting point, .move => do
    let (core, next) := point.step me p
    return { core := core, strand := ← Submit.follow next, deeds := point.deeds p }
  | .stopping point, .move => do
    let (core, _, next) := point.step p
    return { core := core, strand := ← point.follow next, deeds := point.deeds p }
  | .working point, .move => do
    let (core, _, next) := point.step me p
    return { core := core, strand := ← Loop.follow next, deeds := point.deeds p }
  | .running task, .finish panicked =>
    some { core := p, strand := .working (Loop.running.resume panicked)
           deeds := [.finished task panicked] }
  | _, _ => none

inductive Strand.Acts (me : Nat) (p : Pool Nat) : Strand → Act → Effect → Prop where
  | enter (shared : p.exclusive = false) :
    Acts me p (.submitting .enter) .move
      { core := { p with submitting := p.submitting + 1 }, strand := .submitting .check
        deeds := [.entered p.shuttingDown] }
  | findClosing (closing : p.shuttingDown = true) :
    Acts me p (.submitting .check) .move
      { core := p, strand := .submitting (.leave (.error .shuttingDown))
        deeds := [.refused .shuttingDown] }
  | findOpen (opened : p.shuttingDown = false) :
    Acts me p (.submitting .check) .move { core := p, strand := .submitting .send }
  | send (room : p.queue.length < p.capacity) :
    Acts me p (.submitting .send) .move
      { core := { p with queue := p.queue ++ [.run me] }, strand := .submitting (.leave (.ok ()))
        deeds := [.accepted] }
  | overflow (full : ¬ p.queue.length < p.capacity) :
    Acts me p (.submitting .send) .move
      { core := p, strand := .submitting (.leave (.error .queueFull))
        deeds := [.refused .queueFull] }
  | answer {result} :
    Acts me p (.submitting (.leave result)) .move
      { core := { p with submitting := p.submitting - 1 }, strand := .answered result }
  | exclude (shared : p.exclusive = false) (idle : p.submitting = 0) :
    Acts me p (.stopping .enter) .move
      { core := { p with exclusive := true }, strand := .stopping .mark }
  | mark (opened : p.shuttingDown = false) :
    Acts me p (.stopping .mark) .move
      { core := { p with shuttingDown := true }, strand := .stopping (.leave true)
        deeds := [.flagged] }
  | markAgain (closing : p.shuttingDown = true) :
    Acts me p (.stopping .mark) .move
      { core := { p with shuttingDown := true }, strand := .stopping (.leave false) }
  | lead :
    Acts me p (.stopping (.leave true)) .move
      { core := { p with exclusive := false }, strand := .stopping .begin }
  | turnBack :
    Acts me p (.stopping (.leave false)) .move
      { core := { p with exclusive := false }, strand := .returned false }
  | begin :
    Acts me p (.stopping .begin) .move
      { core := p, strand := .stopping (.signal p.workers.length) }
  | signal {left} (room : p.queue.length < p.capacity) :
    Acts me p (.stopping (.signal (left + 1))) .move
      { core := { p with queue := p.queue ++ [.stop] }, strand := .stopping (.signal left) }
  | signalled :
    Acts me p (.stopping (.signal 0)) .move { core := p, strand := .stopping (.join 0) }
  | join {id worker} (present : p.workers[id]? = some worker) (gone : worker.exited = true) :
    Acts me p (.stopping (.join id)) .move { core := p, strand := .stopping (.join (id + 1)) }
  | joined {id} (absent : p.workers[id]? = none) :
    Acts me p (.stopping (.join id)) .move { core := p, strand := .returned true }
  | start : Acts me p (.working .start) .move { core := p, strand := .working .receive }
  | take {task rest} (front : p.queue = .run task :: rest) :
    Acts me p (.working .receive) .move
      { core := { p with queue := rest }, strand := .running task, deeds := [.taken task] }
  | receiveStop {rest} (front : p.queue = .stop :: rest) :
    Acts me p (.working .receive) .move
      { core := { p with queue := rest }, strand := .working .signalled, deeds := [.signalled] }
  | finish {task} :
    Acts me p (.running task) (.finish false)
      { core := p, strand := .working .count, deeds := [.finished task false] }
  | panic {task} :
    Acts me p (.running task) (.finish true)
      { core := p, strand := .working .contain, deeds := [.finished task true] }
  | contain :
    Acts me p (.working .contain) .move
      { core := p.updateWorker me fun w => { w with panicked := w.panicked + 1 }
        strand := .working .count }
  | count :
    Acts me p (.working .count) .move
      { core := p.updateWorker me fun w => { w with executed := w.executed + 1 }
        strand := .working .receive }
  | leaveLoop : Acts me p (.working .signalled) .move { core := p, strand := .working .exit }
  | exit :
    Acts me p (.working .exit) .move
      { core := p.updateWorker me fun w => { w with exited := true }, strand := .exited }

private theorem Strand.submitting_acts {me : Nat} {p : Pool Nat} {point : Submit} {e : Effect}
    (acted : (Strand.submitting point).act? me p .move = some e) :
    Acts me p (.submitting point) .move e := by
  cases point with
  | enter =>
    cases shared : p.exclusive with
    | true => simp [act?, Submit.step, Submit.follow, shared] at acted
    | false =>
      have stepped : Submit.step me p .enter =
          ({ p with submitting := p.submitting + 1 }, .goto .check) := by
        simp [Submit.step, shared]
      simp only [act?, stepped] at acted
      cases Option.some.inj acted
      exact .enter shared
  | check =>
    cases closing : p.shuttingDown <;>
      simp [act?, Submit.step, Submit.follow, Submit.deeds, closing] at acted <;> subst e
    · exact .findOpen closing
    · exact .findClosing closing
  | send =>
    by_cases room : p.queue.length < p.capacity <;>
      simp [act?, Submit.step, Submit.follow, Submit.deeds, room] at acted <;> subst e
    · exact .send room
    · exact .overflow room
  | leave result =>
    cases Option.some.inj acted
    exact .answer

private theorem Strand.stopping_acts {me : Nat} {p : Pool Nat} {point : Shutdown} {e : Effect}
    (acted : (Strand.stopping point).act? me p .move = some e) :
    Acts me p (.stopping point) .move e := by
  cases point with
  | enter =>
    by_cases free : p.exclusive = false ∧ p.submitting = 0
    · obtain ⟨shared, idle⟩ := free
      have stepped : Shutdown.step p .enter = ({ p with exclusive := true }, [], .goto .mark) := by
        simp [Shutdown.step, shared, idle]
      simp only [act?, stepped] at acted
      cases Option.some.inj acted
      exact .exclude shared idle
    · have held : (p.exclusive || p.submitting != 0) = true := by
        cases exclusive : p.exclusive <;> simp_all
      simp [act?, Shutdown.step, Shutdown.follow, held] at acted
  | mark =>
    cases closing : p.shuttingDown <;>
      simp [act?, Shutdown.step, Shutdown.follow, Shutdown.deeds, closing] at acted <;> subst e
    · exact .mark closing
    · exact .markAgain closing
  | leave first => cases first <;> cases Option.some.inj acted <;> constructor
  | begin =>
    cases Option.some.inj acted
    exact .begin
  | signal left => cases left with
    | zero =>
      cases Option.some.inj acted
      exact .signalled
    | succ left =>
      by_cases room : p.queue.length < p.capacity <;>
        simp [act?, Shutdown.step, Shutdown.follow, Shutdown.deeds, room] at acted
      subst e
      exact .signal room
  | join id =>
    cases present : p.workers[id]? with
    | none =>
      simp [act?, Shutdown.step, Shutdown.follow, Shutdown.deeds, Shutdown.first, present] at acted
      subst e
      exact .joined present
    | some worker =>
      cases gone : worker.exited <;>
        simp [act?, Shutdown.step, Shutdown.follow, Shutdown.deeds, present, gone] at acted
      subst e
      exact .join present gone

private theorem Strand.working_acts {me : Nat} {p : Pool Nat} {point : Loop} {e : Effect}
    (acted : (Strand.working point).act? me p .move = some e) :
    Acts me p (.working point) .move e := by
  cases point with
  | receive =>
    cases front : p.queue with
    | nil => simp [act?, Loop.step, Loop.follow, front] at acted
    | cons job rest =>
      cases job <;> simp [act?, Loop.step, Loop.follow, Loop.deeds, front] at acted <;> subst e
      · exact .take front
      · exact .receiveStop front
  | running => simp [act?, Loop.step, Loop.follow] at acted
  | _ =>
    cases Option.some.inj acted
    constructor

theorem Strand.acts {me : Nat} {p : Pool Nat} {strand : Strand} {act : Act} {e : Effect}
    (acted : strand.act? me p act = some e) : Acts me p strand act e := by
  cases strand with
  | submitting point => cases act with
    | move => exact submitting_acts acted
    | finish panicked => simp [act?] at acted
  | stopping point => cases act with
    | move => exact stopping_acts acted
    | finish panicked => simp [act?] at acted
  | working point => cases act with
    | move => exact working_acts acted
    | finish panicked => simp [act?] at acted
  | running task => cases act with
    | move => simp [act?] at acted
    | finish panicked =>
      cases panicked <;> cases Option.some.inj acted
      · exact .finish
      · exact .panic
  | answered | returned | exited => simp [act?] at acted

structure System where
  core : Pool Nat
  strands : List Strand
  history : List (Nat × Deed) := []

inductive Action where
  | submit
  | shutdown
  | act (place : Nat) (act : Act)
  deriving DecidableEq, Repr

namespace System

def new (settings : PoolSettings) : System where
  core := Pool.new settings
  strands := List.replicate settings.workerCount (.working .start)

def begin (s : System) (strand : Strand) : System := { s with strands := s.strands ++ [strand] }

def effect (s : System) (place : Nat) (e : Effect) : System where
  core := e.core
  strands := s.strands.set place e.strand
  history := s.history ++ e.deeds.map (place, ·)

def perform? (s : System) : Action → Option System
  | .submit => some (s.begin (.submitting .enter))
  | .shutdown => some (s.begin (.stopping .enter))
  | .act place act => do
    let strand ← s.strands[place]?
    let e ← strand.act? place s.core act
    return s.effect place e

/-- A channel without room hands each task over directly, and is not covered here. -/
inductive Reachable : System → Prop where
  | start (settings : PoolSettings) (room : 0 < settings.room) : Reachable (new settings)
  | next {s t : System} (action : Action) (before : Reachable s)
      (performed : s.perform? action = some t) : Reachable t

def run? (s : System) : List Action → Option System
  | [] => some s
  | action :: rest => (s.perform? action).bind (run? · rest)

def moves (place count : Nat) : List Action := List.replicate count (.act place .move)

theorem Reachable.of_fits {settings : PoolSettings} (positive : 0 < settings.capacity)
    (fits : settings.capacity * settings.workerCount < 0x10000000000000000) : Reachable (new settings) := by
  refine .start settings ?_
  have some : 0 < settings.workerCount := settings.workerCount_pos
  rw [PoolSettings.room, UInt64.toNat_mul, UInt64.toNat_ofNat', UInt64.toNat_ofNat', ← Nat.mul_mod,
    Nat.mod_eq_of_lt fits]
  exact Nat.mul_pos positive some

theorem Reachable.run {s t : System} (before : s.Reachable) (actions : List Action)
    (ran : s.run? actions = some t) : t.Reachable := by
  induction actions generalizing s with
  | nil =>
    cases Option.some.inj ran
    exact before
  | cons action rest ih =>
    obtain ⟨middle, performed, ran⟩ := Option.bind_eq_some_iff.mp ran
    exact ih (.next action before performed) ran

theorem acts_of_perform {s t : System} {place : Nat} {act : Act}
    (performed : s.perform? (.act place act) = some t) :
    ∃ strand e, s.strands[place]? = some strand ∧ strand.Acts place s.core act e ∧
      t = s.effect place e := by
  obtain ⟨strand, found, rest⟩ := Option.bind_eq_some_iff.mp performed
  obtain ⟨e, acted, same⟩ := Option.bind_eq_some_iff.mp rest
  exact ⟨strand, e, found, Strand.acts acted, (Option.some.inj same).symm⟩

def Fresh (strand : Strand) : Prop := strand = .submitting .enter ∨ strand = .stopping .enter

theorem Reachable.invariant {s : System} (reach : s.Reachable) (holds : System → Prop)
    (start : ∀ settings, 0 < settings.room → holds (new settings))
    (begin : ∀ s strand, s.Reachable → holds s → Fresh strand → holds (s.begin strand))
    (act : ∀ s place strand act e, s.Reachable → holds s → s.strands[place]? = some strand →
      strand.Acts place s.core act e → holds (s.effect place e)) : holds s := by
  induction reach with
  | start settings room => exact start settings room
  | next action before performed ih =>
    cases action with
    | submit =>
      cases Option.some.inj performed
      exact begin _ _ before ih (Or.inl rfl)
    | shutdown =>
      cases Option.some.inj performed
      exact begin _ _ before ih (Or.inr rfl)
    | act place a =>
      obtain ⟨strand, e, found, acts, rfl⟩ := acts_of_perform performed
      exact act _ place strand a e before ih found acts

def deedsOf (s : System) (place : Nat) : List Deed := (s.history.filter (·.1 == place)).map (·.2)

theorem mem_deedsOf {s : System} {place : Nat} {deed : Deed} :
    deed ∈ s.deedsOf place ↔ (place, deed) ∈ s.history := by
  simp [deedsOf]

@[simp] theorem deedsOf_effect (s : System) (acting : Nat) (e : Effect) (place : Nat) :
    (s.effect acting e).deedsOf place =
      s.deedsOf place ++ if acting = place then e.deeds else [] := by
  by_cases same : acting = place <;>
    simp [effect, deedsOf, same, List.filter_map, Function.comp_def]

theorem found_begin {s : System} {new strand : Strand} {place : Nat}
    (found : (s.begin new).strands[place]? = some strand) :
    s.strands[place]? = some strand ∨ s.strands.length = place ∧ strand = new := by
  rw [begin, List.getElem?_append] at found
  split at found
  case isTrue => exact Or.inl found
  case isFalse outside =>
    have bound := (List.getElem?_eq_some_iff.mp found).1
    rw [List.length_singleton] at bound
    have last : s.strands.length = place := by omega
    exact Or.inr ⟨last, List.mem_singleton.mp (List.mem_of_getElem? found)⟩

theorem found_effect {s : System} {acting place : Nat} {acts strand : Strand} {e : Effect}
    (here : s.strands[acting]? = some acts)
    (found : (s.effect acting e).strands[place]? = some strand) :
    acting = place ∧ strand = e.strand ∨ acting ≠ place ∧ s.strands[place]? = some strand := by
  have inside := (List.getElem?_eq_some_iff.mp here).1
  unfold effect at found
  by_cases same : acting = place
  · subst same
    rw [List.getElem?_set_self inside] at found
    exact Or.inl ⟨rfl, (Option.some.inj found).symm⟩
  · rw [List.getElem?_set_ne same] at found
    exact Or.inr ⟨same, found⟩

theorem found_effect_self {s : System} {place : Nat} {strand : Strand} (e : Effect)
    (here : s.strands[place]? = some strand) :
    (s.effect place e).strands[place]? = some e.strand :=
  List.getElem?_set_self (List.getElem?_eq_some_iff.mp here).1

theorem found_effect_ne {s : System} {acting place : Nat} (e : Effect) (other : acting ≠ place) :
    (s.effect acting e).strands[place]? = s.strands[place]? :=
  List.getElem?_set_ne other

theorem Reachable.place_lt {s : System} (reach : s.Reachable) {place : Nat} {deed : Deed}
    (told : (place, deed) ∈ s.history) : place < s.strands.length := by
  refine reach.invariant (fun s => ∀ place deed, (place, deed) ∈ s.history →
    place < s.strands.length) ?start ?begin ?act place deed told
  case start =>
    intro settings _ place deed told
    cases told
  case begin =>
    intro s strand _ ih _ place deed told
    have old := ih place deed told
    rw [begin, List.length_append]
    omega
  case act =>
    intro s acting strand act e _ ih found _ place deed told
    simp only [effect, List.mem_append, List.mem_map, Prod.mk.injEq] at told
    rw [effect, List.length_set]
    obtain told | ⟨_, -, rfl, -⟩ := told
    · exact ih place deed told
    · exact (List.getElem?_eq_some_iff.mp found).1

theorem Reachable.deedsOf_eq_nil {s : System} (reach : s.Reachable) {place : Nat}
    (outside : s.strands.length ≤ place) : s.deedsOf place = [] := by
  rw [List.eq_nil_iff_forall_not_mem]
  intro deed told
  have inside := reach.place_lt (mem_deedsOf.mp told)
  omega

/-- How often a deed is told of a strand can be read off the strand, if its acts keep it so. -/
theorem Reachable.count_deed {s : System} (reach : s.Reachable) (deed : Deed) (times : Strand → Nat)
    (law : ∀ {me p strand act e}, Strand.Acts me p strand act e →
      e.deeds.count deed + times strand = times e.strand)
    (worker : times (.working .start) = 0) (idle : ∀ strand, Fresh strand → times strand = 0)
    {place : Nat} {strand : Strand} (found : s.strands[place]? = some strand) :
    (s.deedsOf place).count deed = times strand := by
  refine reach.invariant (fun s => ∀ place strand, s.strands[place]? = some strand →
    (s.deedsOf place).count deed = times strand) ?start ?begin ?act place strand found
  case start =>
    intro settings _ place strand found
    rw [List.eq_of_mem_replicate (List.mem_of_getElem? found), worker]
    rfl
  case begin =>
    intro s new reach ih fresh place strand found
    obtain old | ⟨rfl, rfl⟩ := found_begin found
    · exact ih place strand old
    · rw [show (s.begin strand).deedsOf s.strands.length = s.deedsOf s.strands.length from rfl,
        reach.deedsOf_eq_nil (Nat.le_refl _), idle strand fresh]
      rfl
  case act =>
    intro s acting strand act e _ ih found acts place other there
    rw [deedsOf_effect]
    obtain ⟨rfl, rfl⟩ | ⟨elsewhere, old⟩ := found_effect found there
    · have before := ih acting strand found
      have told := law acts
      rw [if_pos rfl, List.count_append]
      omega
    · rw [if_neg elsewhere, List.append_nil]
      exact ih place other old

end System

end TransferLifecycle.Pool
