import TransferLifecycle.Notice
import TransferLifecycle.Operation

/-! The monitor of a sequence of units of work. The producer advances it to each unit and
seals it after the last. The first unit found to have failed is latched and from then on
handed out in place of any other; while the current unit has succeeded and the next is not
there yet, a gate is handed out, which opens on the next advance or seal. Operations run one
at a time, but a unit may finish between two questions that one operation puts to it. -/
namespace TransferLifecycle

structure UnitMonitor (η : Type) where
  current : η
  failed : Option η := none
  isSealed : Bool := false
  gate : η
  holder : Option Nat := none

namespace UnitMonitor

variable {η : Type}

inductive Operation (η : Type) where
  | advance (unit : η)
  | seal
  | isDone
  | currentHandle

inductive Result (η : Type) where
  | nothing
  | truth (b : Bool)
  | handle (h : η)

inductive Point (η : Type) where
  | enter (op : Operation η)
  | check (op : Operation η)
  | latch (op : Operation η)
  | judging (op : Operation η)
  | verdict (op : Operation η) (hasFailed : Bool)
  | act (op : Operation η)
  | awaitGate
  | install (gate : η)
  | opening (result : Result η)
  | looking (op : Operation η)
  | settle (op : Operation η) (isFinished : Bool)
  | leave (result : Result η)

inductive Question (η : Type) where
  | isFailed (h : η)
  | isFinished (h : η)
  | newGate
  | openGate (h : η)

inductive Answer (η : Type) where
  | truth (b : Bool)
  | gate (h : η)
  | opened

def step (me : Nat) (m : UnitMonitor η) :
    Point η → UnitMonitor η × List Notice × Next (Point η) (Question η) (Result η)
  | .enter op =>
    if m.holder.isSome then (m, [], .blocked) else ({ m with holder := some me }, [], .goto (.check op))
  | .check (.advance unit) =>
    if m.isSealed then (m, [.unitIgnored], .goto (.leave (.truth false)))
    else (m, [], .goto (.latch (.advance unit)))
  | .check .seal => ({ m with isSealed := true }, [], .ask (.openGate m.gate) (.opening .nothing))
  | .check .isDone => (m, [], .goto (.latch .isDone))
  | .check .currentHandle => (m, [], .goto (.latch .currentHandle))
  | .latch op =>
    if m.failed.isSome then (m, [], .goto (.act op)) else (m, [], .ask (.isFailed m.current) (.judging op))
  | .judging _ => (m, [], .blocked)
  | .verdict op hasFailed =>
    (if hasFailed then { m with failed := some m.current } else m, [], .goto (.act op))
  | .act (.advance unit) => ({ m with current := unit }, [], .ask .newGate .awaitGate)
  | .act .seal => (m, [], .goto (.leave .nothing))
  | .act .isDone =>
    if m.failed.isSome then (m, [], .goto (.leave (.truth true)))
    else if m.isSealed then (m, [], .ask (.isFinished m.current) (.looking .isDone))
    else (m, [], .goto (.leave (.truth false)))
  | .act .currentHandle =>
    match m.failed with
    | some unit => (m, [], .goto (.leave (.handle unit)))
    | none =>
      if m.isSealed then (m, [], .goto (.leave (.handle m.current)))
      else (m, [], .ask (.isFinished m.current) (.looking .currentHandle))
  | .awaitGate => (m, [], .blocked)
  | .install gate => ({ m with gate := gate }, [], .ask (.openGate m.gate) (.opening (.truth true)))
  | .opening _ => (m, [], .blocked)
  | .looking _ => (m, [], .blocked)
  | .settle .currentHandle isFinished =>
    (m, [], .goto (.leave (.handle (if isFinished then m.gate else m.current))))
  | .settle _ isFinished => (m, [], .goto (.leave (.truth isFinished)))
  | .leave result => ({ m with holder := none }, [], .done result)

def resume : Point η → Answer η → Point η
  | .judging op, .truth b => .verdict op b
  | .awaitGate, .gate h => .install h
  | .opening result, .opened => .leave result
  | .looking op, .truth b => .settle op b
  | p, _ => p

/-- A panic ends the operation and keeps what it has done so far. -/
def abandon (m : UnitMonitor η) : Point η → UnitMonitor η
  | .enter _ => m
  | _ => { m with holder := none }

def debug (m : UnitMonitor η) (currentFinished : Bool) : String :=
  Text.Value.inline (.record "UnitMonitor" [("sealed", .bool m.isSealed),
    ("failed", .bool m.failed.isSome), ("current_finished", .bool currentFinished)])

end UnitMonitor

end TransferLifecycle
