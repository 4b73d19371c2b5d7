import TransferLifecycle.Progress
import TransferLifecycle.Proofs.Dispatch.Hearing

/-! Any number of threads that record bytes with one transfer, in any interleaving of their steps. A call
adds its bytes to the counter and then fires an event that carries them; from there on it is a firing like
any other. No other firing is of that kind, and nobody else adds to the counter. -/
namespace TransferLifecycle.Recording

variable {α : Type}

inductive Stage where
  | adding (addition : Progress.Addition)
  | fired
  deriving DecidableEq, Repr

structure Call where
  bytes : UInt64
  stage : Stage := .adding .ofStart
  deriving DecidableEq, Repr

def Call.recorded (call : Call) : Nat :=
  match call.stage with
  | .adding .ofStart | .adding .ofBytes => 0
  | .adding .made | .fired => call.bytes.toNat

def Call.announced (call : Call) : Nat :=
  match call.stage with
  | .adding _ => 0
  | .fired => call.bytes.toNat

structure System (α : Type) where
  progress : Progress := {}
  dispatch : Dispatch.System α := {}
  calls : List Call := []

inductive Action (α : Type) where
  | record (bytes : UInt64)
  | proceed (place : Nat)
  | setTotal (total : UInt64)
  /-- Anything that happens to the dispatcher, but for firings that belong to a call. -/
  | dispatch (action : Dispatch.Action α)

namespace System

def proceed? (s : System α) (place : Nat) : Option (System α) := do
  let call ← s.calls[place]?
  match call.stage with
  | .adding .made =>
    return { s with
      dispatch := s.dispatch.fire ⟨.byteTransfer, call.bytes⟩
      calls := s.calls.set place { call with stage := .fired } }
  | .adding addition =>
    let (progress, addition) := addition.step s.progress call.bytes
    return { s with
      progress := progress
      calls := s.calls.set place { call with stage := .adding addition } }
  | .fired => none

def perform? [BEq α] (s : System α) : Action α → Option (System α)
  | .record bytes => some { s with calls := s.calls ++ [{ bytes := bytes }] }
  | .proceed place => s.proceed? place
  | .setTotal total => some { s with progress := s.progress.setTotal total }
  | .dispatch (.fire ⟨.byteTransfer, _⟩) => none
  | .dispatch action => (s.dispatch.perform? action).map ({ s with dispatch := · })

def run? [BEq α] (s : System α) : List (Action α) → Option (System α)
  | [] => some s
  | action :: rest => (s.perform? action).bind (run? · rest)

inductive Reachable [BEq α] : System α → Prop where
  | start : Reachable {}
  | next {s t : System α} (action : Action α) (before : Reachable s)
      (performed : s.perform? action = some t) : Reachable t

inductive Turns [BEq α] (s : System α) : Action α → System α → Prop where
  | record {bytes} : Turns s (.record bytes) { s with calls := s.calls ++ [{ bytes := bytes }] }
  | note {place bytes} (found : s.calls[place]? = some ⟨bytes, .adding .ofStart⟩) :
    Turns s (.proceed place)
      { s with
        progress := { s.progress with started := true }
        calls := s.calls.set place ⟨bytes, .adding .ofBytes⟩ }
  | count {place bytes} (found : s.calls[place]? = some ⟨bytes, .adding .ofBytes⟩) :
    Turns s (.proceed place)
      { s with
        progress := { s.progress with bytes := s.progress.bytes + bytes }
        calls := s.calls.set place ⟨bytes, .adding .made⟩ }
  | announce {place bytes} (found : s.calls[place]? = some ⟨bytes, .adding .made⟩) :
    Turns s (.proceed place)
      { s with
        dispatch := s.dispatch.fire ⟨.byteTransfer, bytes⟩
        calls := s.calls.set place ⟨bytes, .fired⟩ }
  | setTotal {total} : Turns s (.setTotal total) { s with progress := s.progress.setTotal total }
  | dispatch {action dispatch} (foreign : ∀ bytes, action ≠ .fire ⟨.byteTransfer, bytes⟩)
      (performed : s.dispatch.perform? action = some dispatch) :
    Turns s (.dispatch action) { s with dispatch := dispatch }

private theorem perform_dispatch [BEq α] {s : System α} {action : Dispatch.Action α}
    (foreign : ∀ bytes, action ≠ .fire ⟨.byteTransfer, bytes⟩) :
    s.perform? (.dispatch action) = (s.dispatch.perform? action).map ({ s with dispatch := · }) := by
  cases action with
  | fire event =>
    obtain ⟨kind, bytes⟩ := event
    cases kind with
    | byteTransfer => exact absurd rfl (foreign bytes)
    | _ => rfl
  | _ => rfl

theorem turns [BEq α] {s t : System α} {action : Action α} (performed : s.perform? action = some t) :
    s.Turns action t := by
  cases action with
  | record bytes =>
    cases Option.some.inj performed
    exact .record
  | proceed place =>
    obtain ⟨⟨bytes, stage⟩, found, rest⟩ := Option.bind_eq_some_iff.mp performed
    cases stage with
    | adding addition => cases addition with
      | ofStart => cases Option.some.inj rest; exact .note found
      | ofBytes => cases Option.some.inj rest; exact .count found
      | made => cases Option.some.inj rest; exact .announce found
    | fired => cases rest
  | setTotal total =>
    cases Option.some.inj performed
    exact .setTotal
  | dispatch action =>
    have foreign : ∀ bytes, action ≠ .fire ⟨.byteTransfer, bytes⟩ := by
      rintro bytes rfl
      cases performed
    rw [perform_dispatch foreign] at performed
    obtain ⟨dispatch, acted, rfl⟩ := Option.map_eq_some_iff.mp performed
    exact .dispatch foreign acted

/-- The sum of the bytes recorded so far, not wrapped. -/
def recorded (s : System α) : Nat := Pool.tally Call.recorded s.calls

def Idle (s : System α) : Prop := (∀ call ∈ s.calls, call.stage = .fired) ∧ s.dispatch.Idle

end System

end TransferLifecycle.Recording
