import TransferLifecycle.Event
import TransferLifecycle.ListenerList
import TransferLifecycle.Notice
import TransferLifecycle.Operation

/-! Moves of a transfer from state to state. One thread at a time has the turn. A move stores
the new state before anyone hears of it, runs a pass over the state listeners, and then fires
the event that announces the state; out of a terminal state nothing moves. A pass can also be
run without a move. -/
namespace TransferLifecycle

structure Lifecycle (α : Type) where
  description : String
  state : State := .waiting
  turn : Option Nat := none
  observers : ListenerList α := {}

namespace Transition

variable {α : Type}

inductive Goal where
  | move (state : State)
  | announce (state : State)
  deriving DecidableEq, Repr

inductive Point where
  | enter (goal : Goal)
  | inspect (goal : Goal)
  | store (old new : State)
  | notify (goal : Goal)
  | notified (goal : Goal)
  | entered (new : State)
  | fired
  | leave (applied : Bool)
  deriving DecidableEq, Repr

inductive Question where
  | pass (state : State)
  | fire (kind : EventKind)
  deriving DecidableEq, Repr

def step (me : Nat) (l : Lifecycle α) : Point → Lifecycle α × List Notice × Next Point Question Bool
  | .enter goal =>
    if l.turn.isSome then (l, [], .blocked)
    else ({ l with turn := some me }, [], .goto (.inspect goal))
  | .inspect (.move new) =>
    if l.state.isTerminal then
      (l, if l.state = new then [] else [.moveIgnored l.description l.state new], .goto (.leave false))
    else (l, [], .goto (.store l.state new))
  | .inspect (.announce state) => (l, [], .goto (.notify (.announce state)))
  | .store old new =>
    ({ l with state := new }, [.moved l.description old new], .goto (.notify (.move new)))
  | .notify (.move state) => (l, [], .ask (.pass state) (.notified (.move state)))
  | .notify (.announce state) => (l, [], .ask (.pass state) (.notified (.announce state)))
  | .notified _ => (l, [], .blocked)
  | .entered state =>
    match state.entryEvent with
    | some kind => (l, [], .ask (.fire kind) .fired)
    | none => (l, [], .goto (.leave true))
  | .fired => (l, [], .blocked)
  | .leave applied => ({ l with turn := none }, [], .done applied)

def resume : Point → Point
  | .notified (.move state) => .entered state
  | .notified (.announce _) => .leave true
  | .fired => .leave true
  | p => p

/-- A panic gives the turn back and leaves the state as stored. -/
def abandon (l : Lifecycle α) : Point → Lifecycle α
  | .enter _ => l
  | _ => { l with turn := none }

end Transition

end TransferLifecycle
