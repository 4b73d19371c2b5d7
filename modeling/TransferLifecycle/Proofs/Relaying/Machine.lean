import Mathlib.Logic.Function.Basic
import TransferLifecycle.Event
import TransferLifecycle.Pass

/-! One event on its way through chains that have chains as entries. The passes under way on one thread
stand in a stack, the innermost on top. A pass brings the event to a listener, to an adapter that shows it
in the older shape, or to another chain, of which the pass is put on top. A pass contains the panic of what
it has called. Whatever a listener does while it is called, and whatever other threads do at any time, comes
down to entries added to chains or removed from them, and to snapshots taken and given back. -/
namespace TransferLifecycle.Relay

variable {α : Type}

/-- What stands in a chain: a listener, an adapter in front of an older one, or a chain. -/
inductive Entry (α : Type) where
  | listener (listener : α)
  | coded (listener : α)
  | chain (id : Nat)
  deriving DecidableEq, Repr

/-- An event in the shape in which a listener sees it. -/
inductive Shown where
  | event (event : Event)
  | coded (event : CodedEvent)
  deriving DecidableEq, Repr

structure Frame where
  chain : Nat
  point : Pass.Point
  deriving DecidableEq, Repr

inductive Mode where
  | running
  | calling
  | returned
  | unwinding
  deriving DecidableEq, Repr

inductive Record (α : Type) where
  | entered (chain : Nat) (entries : List (Entry α))
  | called (listener : α) (shown : Shown)
  | ended (panicked : Bool)
  /-- The pass over a chain logs this. -/
  | warned (chain : Nat) (notice : Notice)
  | added (chain : Nat) (entry : Entry α)
  | removed (chain : Nat) (entry : Entry α)
  deriving DecidableEq, Repr

end Relay

structure Relay (α : Type) where
  event : Event
  chains : Nat → ListenerList (Relay.Entry α)
  /-- The vectors of each chain of which others hold snapshots. -/
  borrowed : Nat → List Nat
  stack : List Relay.Frame
  mode : Relay.Mode := .running
  history : List (Relay.Record α) := []

namespace Relay

inductive Action (α : Type) where
  | move
  | finishCall (panicked : Bool)
  | add (chain : Nat) (entry : Entry α)
  | remove (chain : Nat) (entry : Entry α)
  | borrow (chain : Nat)
  | giveBack (chain : Nat) (snapshot : Snapshot)

def Action.isOwn : Action α → Bool
  | .move | .finishCall _ => true
  | .add _ _ | .remove _ _ | .borrow _ | .giveBack _ _ => false

/-- The event is brought to a chain. Others may hold snapshots of any chain. -/
def begin (chains : Nat → ListenerList (Entry α)) (root : Nat) (event : Event) : Relay α where
  event := event
  chains := chains
  borrowed chain := (chains chain).leases
  stack := [⟨root, .start⟩]

def IsOver (s : Relay α) : Prop := s.stack = [] ∧ s.mode = .returned

def Escapes (s : Relay α) : Prop := s.stack = [] ∧ s.mode = .unwinding

def update (s : Relay α) (chain : Nat) (list : ListenerList (Entry α)) : Relay α :=
  { s with chains := Function.update s.chains chain list }

/-- The event is brought to an entry; `frames` wait for it. -/
def bring (s : Relay α) (frames : List Frame) : Entry α → Relay α
  | .listener listener =>
    { s with stack := frames, mode := .calling, history := s.history ++ [.called listener (.event s.event)] }
  | .coded listener =>
    { s with stack := frames, mode := .calling
             history := s.history ++ [.called listener (.coded (.ofEvent s.event))] }
  | .chain id => { s with stack := ⟨id, .start⟩ :: frames }

def move? (s : Relay α) : Option (Relay α) :=
  match s.mode, s.stack with
  | .running, ⟨chain, point⟩ :: rest =>
    let (list, next) := Pass.step (s.chains chain) point
    let after := s.update chain list
    match next with
    | .goto point =>
      some { after with stack := ⟨chain, point⟩ :: rest
                        history := s.history ++ [.entered chain (s.chains chain).toList] }
    | .ask entry point => some (after.bring (⟨chain, point⟩ :: rest) entry)
    | .done () => some { after with stack := rest, mode := .returned }
    | .blocked => none
  | .returned, _ :: _ => some { s with mode := .running }
  | .unwinding, ⟨chain, point⟩ :: _ =>
    let notices := Pass.contain s.event.kind point
    some { s with mode := .running, history := s.history ++ notices.map (.warned chain) }
  | _, _ => none

def perform? [DecidableEq α] (s : Relay α) : Action α → Option (Relay α)
  | .move => s.move?
  | .finishCall panicked =>
    if s.mode = .calling then
      some { s with mode := if panicked then .unwinding else .returned
                    history := s.history ++ [.ended panicked] }
    else none
  | .add chain entry =>
    some { s.update chain ((s.chains chain).add entry) with history := s.history ++ [.added chain entry] }
  | .remove chain entry =>
    some { s.update chain ((s.chains chain).remove entry).2 with
             history := s.history ++ [.removed chain entry] }
  | .borrow chain =>
    let (snapshot, list) := (s.chains chain).snapshot
    some { s.update chain list with
             borrowed := Function.update s.borrowed chain (snapshot.vector :: s.borrowed chain) }
  | .giveBack chain snapshot =>
    if snapshot.vector ∈ s.borrowed chain then
      some { s.update chain ((s.chains chain).release snapshot) with
               borrowed := Function.update s.borrowed chain ((s.borrowed chain).erase snapshot.vector) }
    else none

def run? [DecidableEq α] (s : Relay α) : List (Action α) → Option (Relay α)
  | [] => some s
  | action :: rest => (s.perform? action).bind (run? · rest)

inductive Moves (s : Relay α) : Action α → Relay α → Prop where
  | enter {chain rest} (running : s.mode = .running) (top : s.stack = ⟨chain, .start⟩ :: rest) :
    Moves s .move
      { s.update chain (s.chains chain).snapshot.2 with
          stack := ⟨chain, .visit (s.chains chain).snapshot.1 0⟩ :: rest
          history := s.history ++ [.entered chain (s.chains chain).toList] }
  | bring {chain snapshot index rest entry} (running : s.mode = .running)
      (top : s.stack = ⟨chain, .visit snapshot index⟩ :: rest)
      (here : ((s.chains chain).view snapshot)[index]? = some entry) :
    Moves s .move (s.bring (⟨chain, .visit snapshot (index + 1)⟩ :: rest) entry)
  | leave {chain snapshot index rest} (running : s.mode = .running)
      (top : s.stack = ⟨chain, .visit snapshot index⟩ :: rest)
      (exhausted : ((s.chains chain).view snapshot)[index]? = none) :
    Moves s .move
      { s.update chain ((s.chains chain).release snapshot) with stack := rest, mode := .returned }
  | goOn {frame rest} (returned : s.mode = .returned) (top : s.stack = frame :: rest) :
    Moves s .move { s with mode := .running }
  | contain {chain point rest} (unwinding : s.mode = .unwinding) (top : s.stack = ⟨chain, point⟩ :: rest) :
    Moves s .move
      { s with mode := .running
               history := s.history ++ [.warned chain (.listenerPanicked point.last s.event.kind)] }
  | finish (calling : s.mode = .calling) :
    Moves s (.finishCall false) { s with mode := .returned, history := s.history ++ [.ended false] }
  | panic (calling : s.mode = .calling) :
    Moves s (.finishCall true) { s with mode := .unwinding, history := s.history ++ [.ended true] }

private theorem update_self (s : Relay α) (chain : Nat) : s.update chain (s.chains chain) = s := by
  simp [update]

private theorem moves_of_move {s t : Relay α} (moved : s.move? = some t) : Moves s .move t := by
  unfold move? at moved
  split at moved
  case h_1 chain point rest running top =>
    cases point with
    | start =>
      cases Option.some.inj moved
      exact .enter running top
    | visit snapshot index =>
      cases entry : ((s.chains chain).view snapshot)[index]? with
      | some found =>
        simp only [Pass.step, entry, update_self] at moved
        cases Option.some.inj moved
        exact .bring running top entry
      | none =>
        simp only [Pass.step, entry] at moved
        cases Option.some.inj moved
        exact .leave running top entry
  case h_2 frame rest returned top =>
    cases Option.some.inj moved
    exact .goOn returned top
  case h_3 chain point rest unwinding top =>
    cases Option.some.inj moved
    exact .contain unwinding top
  case h_4 => cases moved

theorem moves_of_own [DecidableEq α] {s t : Relay α} {action : Action α} (own : action.isOwn = true)
    (performed : s.perform? action = some t) : Moves s action t := by
  cases action with
  | move => exact moves_of_move performed
  | finishCall panicked =>
    rw [perform?] at performed
    split at performed
    case isTrue calling =>
      cases Option.some.inj performed
      cases panicked
      · exact .finish calling
      · exact .panic calling
    case isFalse => cases performed
  | add | remove | borrow | giveBack => cases own

end Relay

end TransferLifecycle
