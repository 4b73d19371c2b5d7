import TransferLifecycle.Proofs.Dispatch.Order
import TransferLifecycle.Proofs.Transition.Path

/-! A transfer and the dispatcher of its progress events. A move whose pass is over fires the event of
its state at the dispatcher, and keeps the turn until that firing is back. Everything else that is asked
of the transfer, fired at the dispatcher, taken from its queue, or changed in the two lists of listeners
comes in any interleaving. -/
namespace TransferLifecycle.Announcing

open Transition (Deed Point)

variable {α β : Type}

/-- A move has fired the event of its state: the places of the request and of the firing. -/
structure Announcement where
  request : Nat
  state : State
  firing : Nat
  deriving DecidableEq, Repr

/-- The two components, and what has been recorded of the requests in the order in which it happened:
the listeners that a pass was begun with, the moves whose pass is over without a panic, and the
announcements. -/
structure System (α β : Type) where
  transition : Transition.System α
  dispatch : Dispatch.System β := {}
  gathered : List (Nat × List α) := []
  passed : List (Nat × State) := []
  announced : List Announcement := []

inductive Action (α β : Type) where
  | transition (action : Transition.Action α)
  | dispatch (action : Dispatch.Action β)

/-- A firing comes back once it has ended, and panics if the executor does to which it has offered an
emptying. -/
def comesBack (panicked : Bool) : Dispatch.Strand β → Bool
  | .ended => !panicked
  | .offering | .accepted => panicked
  | _ => false

def gathers (l : Lifecycle α) : Transition.Strand α → List (List α)
  | .passing _ .start _ => [l.observers.toList]
  | _ => []

def passes : Transition.Strand α → Transition.Strand α → List State
  | .passing _ _ _, .standing (.entered state) => [state]
  | _, _ => []

def announces : Transition.Strand α → Transition.Strand α → Option (State × EventKind)
  | .standing (.entered state), .firing kind _ => some (state, kind)
  | _, _ => none

namespace System

def new (description : String) : System α β where
  transition := .new description

/-- What the request waits for has happened: its firing is back, or it does not wait for one. -/
def admits (s : System α β) (place : Nat) : Transition.Strand α → Transition.Act → Bool
  | .firing _ _, .finish panicked =>
    s.announced.all fun a =>
      a.request != place || (s.dispatch.strands[a.firing]?).any (comesBack panicked)
  | _, _ => true

def effect (s : System α β) (place : Nat) (strand : Transition.Strand α) (e : Transition.Effect α) :
    System α β where
  transition := s.transition.effect place e
  dispatch :=
    match announces strand e.strand with
    | some (_, kind) => s.dispatch.fire (.lifecycle kind)
    | none => s.dispatch
  gathered := s.gathered ++ (gathers s.transition.core strand).map (place, ·)
  passed := s.passed ++ (passes strand e.strand).map (place, ·)
  announced := s.announced ++ (announces strand e.strand).toList.map fun (state, _) =>
    ⟨place, state, s.dispatch.strands.length⟩

def perform? [BEq α] [BEq β] (s : System α β) : Action α β → Option (System α β)
  | .transition (.act place act) => do
    let strand ← s.transition.strands[place]?
    let e ← strand.act? place s.transition.core act
    if s.admits place strand act then some (s.effect place strand e) else none
  | .transition action => do
    let transition ← s.transition.perform? action
    return { s with transition := transition }
  | .dispatch action => do
    let dispatch ← s.dispatch.perform? action
    return { s with dispatch := dispatch }

inductive Reachable [BEq α] [BEq β] : System α β → Prop where
  | start (description : String) : Reachable (new description)
  | next {s t : System α β} (action : Action α β) (before : Reachable s)
      (performed : s.perform? action = some t) : Reachable t

def run? [BEq α] [BEq β] (s : System α β) : List (Action α β) → Option (System α β)
  | [] => some s
  | action :: rest => (s.perform? action).bind (run? · rest)

theorem Reachable.run [BEq α] [BEq β] {s t : System α β} (before : s.Reachable)
    (actions : List (Action α β)) (ran : s.run? actions = some t) : t.Reachable := by
  induction actions generalizing s with
  | nil =>
    cases Option.some.inj ran
    exact before
  | cons action rest ih =>
    obtain ⟨middle, performed, ran⟩ := Option.bind_eq_some_iff.mp ran
    exact ih (.next action before performed) ran

theorem acts_of_perform [BEq α] [BEq β] {s t : System α β} {place : Nat} {act : Transition.Act}
    (performed : s.perform? (.transition (.act place act)) = some t) :
    ∃ strand e, s.transition.strands[place]? = some strand ∧
      strand.act? place s.transition.core act = some e ∧ s.admits place strand act = true ∧
      t = s.effect place strand e := by
  obtain ⟨strand, found, rest⟩ := Option.bind_eq_some_iff.mp performed
  obtain ⟨e, acted, rest⟩ := Option.bind_eq_some_iff.mp rest
  split at rest
  case isTrue admitted => exact ⟨strand, e, found, acted, admitted, (Option.some.inj rest).symm⟩
  case isFalse => cases rest

section

variable [BEq α] [BEq β] {s : System α β}

theorem Reachable.components (reach : s.Reachable) :
    s.transition.Reachable ∧ s.dispatch.Reachable := by
  induction reach with
  | start description => exact ⟨.start description, .start⟩
  | @next s t action before performed ih =>
    obtain ⟨onTransition, onDispatch⟩ := ih
    cases action with
    | dispatch action =>
      obtain ⟨dispatch, moved, same⟩ := Option.bind_eq_some_iff.mp performed
      cases Option.some.inj same
      exact ⟨onTransition, .next action onDispatch moved⟩
    | transition action =>
      cases action with
      | act place act =>
        obtain ⟨strand, e, found, acted, -, rfl⟩ := acts_of_perform performed
        have moved : s.transition.perform? (.act place act) = some (s.transition.effect place e) := by
          simp [Transition.System.perform?, found, acted]
        refine ⟨.next _ onTransition moved, ?_⟩
        rw [effect]
        cases announces strand e.strand with
        | none => exact onDispatch
        | some fired => exact .next (.fire (.lifecycle fired.2)) onDispatch rfl
      | request goal =>
        cases Option.some.inj performed
        exact ⟨.next (.request goal) onTransition rfl, onDispatch⟩
      | add listener =>
        cases Option.some.inj performed
        exact ⟨.next (.add listener) onTransition rfl, onDispatch⟩
      | remove listener =>
        cases Option.some.inj performed
        exact ⟨.next (.remove listener) onTransition rfl, onDispatch⟩

theorem Reachable.invariant (reach : s.Reachable) (holds : System α β → Prop)
    (start : ∀ description, holds (new description))
    (request : ∀ s goal, s.Reachable → holds s →
      holds { s with transition := s.transition.request goal })
    (change : ∀ s list, s.transition.core.observers.Keeps list → holds s →
      holds { s with transition := s.transition.change list })
    (act : ∀ s place strand act e, s.Reachable → holds s → s.transition.strands[place]? = some strand →
      Transition.Strand.Acts place s.transition.core strand act e → s.admits place strand act = true →
      holds (s.effect place strand e))
    (dispatch : ∀ s action dispatch, s.Reachable → holds s →
      s.dispatch.perform? action = some dispatch → holds { s with dispatch := dispatch }) : holds s := by
  induction reach with
  | start description => exact start description
  | @next s t action before performed ih =>
    cases action with
    | dispatch action =>
      obtain ⟨later, moved, same⟩ := Option.bind_eq_some_iff.mp performed
      cases Option.some.inj same
      exact dispatch s action later before ih moved
    | transition action =>
      cases action with
      | act place a =>
        obtain ⟨strand, e, found, acted, admitted, rfl⟩ := acts_of_perform performed
        exact act s place strand a e before ih found (Transition.Strand.acts acted) admitted
      | request goal =>
        cases Option.some.inj performed
        exact request s goal before ih
      | add listener =>
        cases Option.some.inj performed
        exact change s _ (ListenerList.keeps_mutate _ _) ih
      | remove listener =>
        cases Option.some.inj performed
        exact change s _ (ListenerList.keeps_remove _ _) ih

end

end System

def fired? : Deed α → Option EventKind
  | .fired kind => some kind
  | _ => none

theorem announces_of_acts {me : Nat} {l : Lifecycle α} {strand : Transition.Strand α}
    {act : Transition.Act} {e : Transition.Effect α} (acts : strand.Acts me l act e) :
    announces strand e.strand = none ∧ e.deeds.filterMap fired? = [] ∨
    ∃ state kind, state.entryEvent = some kind ∧ strand = .standing (.entered state) ∧
      e = { core := l, strand := .firing kind .fired, deeds := [.fired kind] } := by
  cases acts with
  | fire event => exact Or.inr ⟨_, _, event, rfl, rfl⟩
  | _ => exact Or.inl ⟨rfl, rfl⟩

end TransferLifecycle.Announcing
