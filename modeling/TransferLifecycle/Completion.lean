import TransferLifecycle.Fault

/-! The completion of one unit of work: a slot that is written once. A waiting thread looks
at the slot first and at its own interrupt token second, and blocks if neither helps it. -/
namespace TransferLifecycle

inductive Outcome where
  | success
  | failure (f : ExecutionFailure)
  | cancellation

structure Completion where
  outcome : Option Outcome := none

/-- What a wait on a handle answers. -/
abbrev Waited := Except HandleError Unit

/-- A cancellation is reported as a failed execution whose cause is put at the next address. -/
def Outcome.waited (next : Nat) : Outcome → Waited × Nat
  | .success => (.ok (), next)
  | .failure f => (.error (.execution f), next)
  | .cancellation =>
    let (cause, next) := SharedFault.allocate (.transfer .canceled) next
    (.error (.execution ⟨cause⟩), next)

namespace Completion

/-- Writes the slot if nothing has been written yet; answers whether it did. -/
def finish (c : Completion) (outcome : Outcome) : Bool × Completion :=
  match c.outcome with
  | none => (true, ⟨some outcome⟩)
  | some _ => (false, c)

def isFinished (c : Completion) : Bool := c.outcome.isSome

def isFailed (c : Completion) : Bool :=
  match c.outcome with
  | some (.failure _) | some .cancellation => true
  | some .success | none => false

def isCanceled (c : Completion) : Bool :=
  match c.outcome with
  | some .cancellation => true
  | some .success | some (.failure _) | none => false

inductive Look where
  | finished (waited : Waited) (next : Nat)
  | interrupted
  | nothing

/-- A finished unit wins over a pending interrupt; reporting an interrupt consumes the token. -/
def look (c : Completion) (token : Bool) (next : Nat) : Look :=
  match c.outcome with
  | some outcome => let (waited, next) := outcome.waited next; .finished waited next
  | none => if token then .interrupted else .nothing

end Completion

end TransferLifecycle
