import TransferLifecycle.Pass
import TransferLifecycle.Transition

/-! Any number of requests to one transfer, in any interleaving of their steps: moves to a state and
passes without a move. Listeners come and go at any time. A listener that is called, and the firing
that follows a pass, take as long as they like and may panic; what they do meanwhile is a request of
its own, a change of the listeners, or does not concern the state. -/
namespace TransferLifecycle.Transition

variable {α : Type}

def Goal.state : Goal → State
  | .move state | .announce state => state

/-- Where a request stands between two indivisible steps. -/
inductive Strand (α : Type) where
  | standing (point : Point)
  | passing (state : State) (pass : Pass.Point) (point : Point)
  | calling (listener : α) (state : State) (pass : Pass.Point) (point : Point)
  /-- The listener that was called has panicked, and the pass is still to be given up. -/
  | failing (pass : Pass.Point) (point : Point)
  | firing (kind : EventKind) (point : Point)
  | unwinding (point : Point)
  | ended
  | panicked
  deriving DecidableEq

inductive Deed (α : Type) where
  | entered (goal : Goal) (state : State)
  | noted (notice : Notice)
  | called (listener : α) (state : State)
  | fired (kind : EventKind)
  | answered (applied : Bool)
  deriving DecidableEq

inductive Act where
  | move
  | finish (panicked : Bool)
  deriving DecidableEq, Repr

structure Effect (α : Type) where
  core : Lifecycle α
  strand : Strand α
  deeds : List (Deed α) := []

def Point.deeds (l : Lifecycle α) : Point → List (Deed α)
  | .enter goal => [.entered goal l.state]
  | _ => []

def Strand.follow : Next Point Question Bool → Option (Strand α × List (Deed α))
  | .goto point => some (.standing point, [])
  | .ask (.pass state) point => some (.passing state .start point, [])
  | .ask (.fire kind) point => some (.firing kind point, [.fired kind])
  | .done applied => some (.ended, [.answered applied])
  | .blocked => none

def Strand.act? (me : Nat) (l : Lifecycle α) : Strand α → Act → Option (Effect α)
  | .standing point, .move => do
    let (core, notices, next) := step me l point
    let (strand, told) ← Strand.follow next
    return { core := core, strand := strand, deeds := point.deeds l ++ notices.map .noted ++ told }
  | .passing state pass point, .move =>
    let (observers, next) := Pass.step l.observers pass
    let core := { l with observers := observers }
    match next with
    | .goto pass => some { core := core, strand := .passing state pass point }
    | .ask listener pass =>
      some { core := core, strand := .calling listener state pass point
             deeds := [.called listener state] }
    | .done () => some { core := core, strand := .standing (resume point) }
    | .blocked => none
  | .calling _ state pass point, .finish false => some { core := l, strand := .passing state pass point }
  | .calling _ _ pass point, .finish true => some { core := l, strand := .failing pass point }
  | .failing pass point, .move =>
    some { core := { l with observers := Pass.abandon l.observers pass }, strand := .unwinding point }
  | .firing _ point, .finish false => some { core := l, strand := .standing (resume point) }
  | .firing _ point, .finish true => some { core := l, strand := .unwinding point }
  | .unwinding point, .move => some { core := abandon l point, strand := .panicked }
  | _, _ => none

inductive Strand.Acts (me : Nat) (l : Lifecycle α) : Strand α → Act → Effect α → Prop where
  | enter {goal} (free : l.turn = none) :
    Acts me l (.standing (.enter goal)) .move
      { core := { l with turn := some me }, strand := .standing (.inspect goal)
        deeds := [.entered goal l.state] }
  | keepSilent {new} (terminal : l.state.isTerminal = true) (same : l.state = new) :
    Acts me l (.standing (.inspect (.move new))) .move
      { core := l, strand := .standing (.leave false) }
  | ignore {new} (terminal : l.state.isTerminal = true) (other : l.state ≠ new) :
    Acts me l (.standing (.inspect (.move new))) .move
      { core := l, strand := .standing (.leave false)
        deeds := [.noted (.moveIgnored l.description l.state new)] }
  | resolve {new} (opened : l.state.isTerminal = false) :
    Acts me l (.standing (.inspect (.move new))) .move
      { core := l, strand := .standing (.store l.state new) }
  | announce {state} :
    Acts me l (.standing (.inspect (.announce state))) .move
      { core := l, strand := .standing (.notify (.announce state)) }
  | store {old new} :
    Acts me l (.standing (.store old new)) .move
      { core := { l with state := new }, strand := .standing (.notify (.move new))
        deeds := [.noted (.moved l.description old new)] }
  | notify {goal} :
    Acts me l (.standing (.notify goal)) .move
      { core := l, strand := .passing goal.state .start (.notified goal) }
  | beginPass {state point} :
    Acts me l (.passing state .start point) .move
      { core := { l with observers := l.observers.snapshot.2 }
        strand := .passing state (.visit l.observers.snapshot.1 0) point }
  | call {state snapshot index listener point}
      (present : (l.observers.view snapshot)[index]? = some listener) :
    Acts me l (.passing state (.visit snapshot index) point) .move
      { core := l, strand := .calling listener state (.visit snapshot (index + 1)) point
        deeds := [.called listener state] }
  | endPass {state snapshot index point} (absent : (l.observers.view snapshot)[index]? = none) :
    Acts me l (.passing state (.visit snapshot index) point) .move
      { core := { l with observers := l.observers.release snapshot }
        strand := .standing (resume point) }
  | returned {listener state pass point} :
    Acts me l (.calling listener state pass point) (.finish false)
      { core := l, strand := .passing state pass point }
  | broken {listener state pass point} :
    Acts me l (.calling listener state pass point) (.finish true)
      { core := l, strand := .failing pass point }
  | abandonPass {pass point} :
    Acts me l (.failing pass point) .move
      { core := { l with observers := Pass.abandon l.observers pass }, strand := .unwinding point }
  | fire {state kind} (event : state.entryEvent = some kind) :
    Acts me l (.standing (.entered state)) .move
      { core := l, strand := .firing kind .fired, deeds := [.fired kind] }
  | fireNothing {state} (silent : state.entryEvent = none) :
    Acts me l (.standing (.entered state)) .move { core := l, strand := .standing (.leave true) }
  | fired {kind point} :
    Acts me l (.firing kind point) (.finish false) { core := l, strand := .standing (resume point) }
  | misfired {kind point} :
    Acts me l (.firing kind point) (.finish true) { core := l, strand := .unwinding point }
  | abandon {point} :
    Acts me l (.unwinding point) .move { core := abandon l point, strand := .panicked }
  | leave {applied} :
    Acts me l (.standing (.leave applied)) .move
      { core := { l with turn := none }, strand := .ended, deeds := [.answered applied] }

theorem Strand.standing_acts {me : Nat} {l : Lifecycle α} {point : Point} {e : Effect α}
    (acted : (Strand.standing point).act? me l .move = some e) :
    Acts me l (.standing point) .move e := by
  cases point with
  | enter goal =>
    cases free : l.turn <;> simp [act?, step, follow, Point.deeds, free] at acted
    subst e
    exact .enter free
  | inspect goal =>
    cases goal with
    | announce state =>
      cases Option.some.inj acted
      exact .announce
    | move new =>
      cases terminal : l.state.isTerminal with
      | false =>
        simp [act?, step, follow, Point.deeds, terminal] at acted
        subst e
        exact .resolve terminal
      | true =>
        by_cases same : l.state = new
        · subst same
          simp [act?, step, follow, Point.deeds, terminal] at acted
          subst e
          exact .keepSilent terminal rfl
        · simp [act?, step, follow, Point.deeds, terminal, same] at acted
          subst e
          exact .ignore terminal same
  | notify goal =>
    cases goal <;> cases Option.some.inj acted <;> exact .notify
  | entered state =>
    cases event : state.entryEvent <;> simp [act?, step, follow, Point.deeds, event] at acted <;>
      subst e
    · exact .fireNothing event
    · exact .fire event
  | notified goal => simp [act?, step, follow] at acted
  | fired => simp [act?, step, follow] at acted
  | store old new =>
    cases Option.some.inj acted
    exact .store
  | leave applied =>
    cases Option.some.inj acted
    exact .leave

theorem Strand.acts {me : Nat} {l : Lifecycle α} {strand : Strand α} {act : Act} {e : Effect α}
    (acted : strand.act? me l act = some e) : Acts me l strand act e := by
  cases strand with
  | standing point => cases act with
    | move => exact standing_acts acted
    | finish panicked => simp [act?] at acted
  | passing state pass point => cases act with
    | finish panicked => simp [act?] at acted
    | move => cases pass with
      | start =>
        cases Option.some.inj acted
        exact .beginPass
      | visit snapshot index =>
        cases entry : (l.observers.view snapshot)[index]? <;>
          simp [act?, Pass.step, entry] at acted <;> subst e
        · exact .endPass entry
        · exact .call entry
  | calling listener state pass point => cases act with
    | move => simp [act?] at acted
    | finish panicked =>
      cases panicked <;> cases Option.some.inj acted
      · exact .returned
      · exact .broken
  | failing pass point => cases act with
    | finish panicked => simp [act?] at acted
    | move =>
      cases Option.some.inj acted
      exact .abandonPass
  | firing kind point => cases act with
    | move => simp [act?] at acted
    | finish panicked =>
      cases panicked <;> cases Option.some.inj acted
      · exact .fired
      · exact .misfired
  | unwinding point => cases act with
    | finish panicked => simp [act?] at acted
    | move =>
      cases Option.some.inj acted
      exact .abandon
  | ended => simp [act?] at acted
  | panicked => simp [act?] at acted

structure System (α : Type) where
  core : Lifecycle α
  strands : List (Strand α) := []
  history : List (Nat × Deed α) := []

inductive Action (α : Type) where
  | request (goal : Goal)
  | act (place : Nat) (act : Act)
  | add (listener : α)
  | remove (listener : α)

namespace System

def new (description : String) : System α where
  core := { description := description }

def request (s : System α) (goal : Goal) : System α :=
  { s with strands := s.strands ++ [.standing (.enter goal)] }

def effect (s : System α) (place : Nat) (e : Effect α) : System α where
  core := e.core
  strands := s.strands.set place e.strand
  history := s.history ++ e.deeds.map (place, ·)

def change (s : System α) (list : ListenerList α) : System α :=
  { s with core := { s.core with observers := list } }

def perform? [BEq α] (s : System α) : Action α → Option (System α)
  | .request goal => some (s.request goal)
  | .act place act => do
    let strand ← s.strands[place]?
    let e ← strand.act? place s.core act
    return s.effect place e
  | .add listener => some (s.change (s.core.observers.add listener))
  | .remove listener => some (s.change (s.core.observers.remove listener).2)

inductive Reachable [BEq α] : System α → Prop where
  | start (description : String) : Reachable (new description)
  | next {s t : System α} (action : Action α) (before : Reachable s)
      (performed : s.perform? action = some t) : Reachable t

def run? [BEq α] (s : System α) : List (Action α) → Option (System α)
  | [] => some s
  | action :: rest => (s.perform? action).bind (run? · rest)

def moves (place count : Nat) : List (Action α) := List.replicate count (.act place .move)

theorem Reachable.run [BEq α] {s t : System α} (before : s.Reachable) (actions : List (Action α))
    (ran : s.run? actions = some t) : t.Reachable := by
  induction actions generalizing s with
  | nil =>
    cases Option.some.inj ran
    exact before
  | cons action rest ih =>
    obtain ⟨middle, performed, ran⟩ := Option.bind_eq_some_iff.mp ran
    exact ih (.next action before performed) ran

theorem acts_of_perform [BEq α] {s t : System α} {place : Nat} {act : Act}
    (performed : s.perform? (.act place act) = some t) :
    ∃ strand e, s.strands[place]? = some strand ∧ Strand.Acts place s.core strand act e ∧
      t = s.effect place e := by
  obtain ⟨strand, found, rest⟩ := Option.bind_eq_some_iff.mp performed
  obtain ⟨e, acted, same⟩ := Option.bind_eq_some_iff.mp rest
  exact ⟨strand, e, found, Strand.acts acted, (Option.some.inj same).symm⟩

theorem Reachable.invariant [BEq α] {s : System α} (reach : s.Reachable) (holds : System α → Prop)
    (start : ∀ description, holds (new description))
    (request : ∀ s goal, s.Reachable → holds s → holds (s.request goal))
    (change : ∀ s list, holds s → holds (s.change list))
    (act : ∀ s place strand act e, s.Reachable → holds s → s.strands[place]? = some strand →
      Strand.Acts place s.core strand act e → holds (s.effect place e)) : holds s := by
  induction reach with
  | start description => exact start description
  | next action before performed ih =>
    cases action with
    | request goal =>
      cases Option.some.inj performed
      exact request _ goal before ih
    | act place a =>
      obtain ⟨strand, e, found, acts, rfl⟩ := acts_of_perform performed
      exact act _ place strand a e before ih found acts
    | add listener =>
      cases Option.some.inj performed
      exact change _ _ ih
    | remove listener =>
      cases Option.some.inj performed
      exact change _ _ ih

def deedsOf (s : System α) (place : Nat) : List (Deed α) :=
  (s.history.filter (·.1 == place)).map (·.2)

theorem mem_deedsOf {s : System α} {place : Nat} {deed : Deed α} :
    deed ∈ s.deedsOf place ↔ (place, deed) ∈ s.history := by
  simp [deedsOf]

@[simp] theorem deedsOf_request (s : System α) (goal : Goal) (place : Nat) :
    (s.request goal).deedsOf place = s.deedsOf place := rfl

@[simp] theorem deedsOf_change (s : System α) (list : ListenerList α) (place : Nat) :
    (s.change list).deedsOf place = s.deedsOf place := rfl

@[simp] theorem deedsOf_effect (s : System α) (acting : Nat) (e : Effect α) (place : Nat) :
    (s.effect acting e).deedsOf place =
      s.deedsOf place ++ if acting = place then e.deeds else [] := by
  by_cases same : acting = place <;>
    simp [effect, deedsOf, same, List.filter_map, Function.comp_def]

theorem found_request {s : System α} {goal : Goal} {place : Nat} {strand : Strand α}
    (found : (s.request goal).strands[place]? = some strand) :
    s.strands[place]? = some strand ∨
      s.strands.length = place ∧ strand = .standing (.enter goal) := by
  unfold request at found
  rw [List.getElem?_append] at found
  split at found
  case isTrue => exact Or.inl found
  case isFalse outside =>
    have bound := (List.getElem?_eq_some_iff.mp found).1
    rw [List.length_singleton] at bound
    exact Or.inr ⟨by omega, List.mem_singleton.mp (List.mem_of_getElem? found)⟩

theorem found_effect {s : System α} {acting place : Nat} {acts strand : Strand α} {e : Effect α}
    (here : s.strands[acting]? = some acts)
    (found : (s.effect acting e).strands[place]? = some strand) :
    acting = place ∧ strand = e.strand ∨ acting ≠ place ∧ s.strands[place]? = some strand := by
  have inside := (List.getElem?_eq_some_iff.mp here).1
  unfold effect at found
  by_cases same : acting = place
  · subst same
    rw [List.getElem?_set_self inside] at found
    exact Or.inl ⟨rfl, (Option.some.inj found).symm⟩
  · rw [List.getElem?_set_ne same] at found
    exact Or.inr ⟨same, found⟩

theorem Reachable.place_lt [BEq α] {s : System α} (reach : s.Reachable) {place : Nat} {deed : Deed α}
    (told : (place, deed) ∈ s.history) : place < s.strands.length := by
  refine reach.invariant (fun s => ∀ place deed, (place, deed) ∈ s.history →
    place < s.strands.length) ?start ?request ?change ?act place deed told
  case start =>
    intro description place deed told
    cases told
  case request =>
    intro s goal _ ih place deed told
    have old := ih place deed told
    rw [request, List.length_append]
    omega
  case change =>
    intro s list ih
    exact ih
  case act =>
    intro s acting strand act e _ ih found _ place deed told
    simp only [effect, List.mem_append, List.mem_map, Prod.mk.injEq] at told
    rw [effect, List.length_set]
    obtain told | ⟨_, -, rfl, -⟩ := told
    · exact ih place deed told
    · exact (List.getElem?_eq_some_iff.mp found).1

theorem Reachable.deedsOf_eq_nil [BEq α] {s : System α} (reach : s.Reachable) {place : Nat}
    (outside : s.strands.length ≤ place) : s.deedsOf place = [] := by
  rw [List.eq_nil_iff_forall_not_mem]
  intro deed told
  have inside := reach.place_lt (mem_deedsOf.mp told)
  omega

end System

end TransferLifecycle.Transition
