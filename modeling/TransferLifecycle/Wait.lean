import TransferLifecycle.Completion
import TransferLifecycle.Operation

/-! Waiting for a transfer. One turn fetches the handle of the outstanding unit, waits on it,
and asks whether the transfer is done. A wait takes turns until one is done or fails; it
looks up the monitor once, before the first turn. -/
namespace TransferLifecycle.Wait

variable {μ η : Type}

inductive Turn (η : Type) where
  | fetch
  | fetching
  | await (h : η)
  | awaiting
  | inquire
  | inquiring
  | leave (result : Except HandleError Bool)

inductive Turn.Question (η : Type) where
  | currentHandle
  | wait (h : η)
  | isDone

inductive Turn.Answer (η : Type) where
  | handle (h : η)
  | waited (result : Waited)
  | done (b : Bool)

def Turn.step : Turn η → Next (Turn η) (Turn.Question η) (Except HandleError Bool)
  | .fetch => .ask .currentHandle .fetching
  | .fetching => .blocked
  | .await h => .ask (.wait h) .awaiting
  | .awaiting => .blocked
  | .inquire => .ask .isDone .inquiring
  | .inquiring => .blocked
  | .leave result => .done result

def Turn.resume : Turn η → Turn.Answer η → Turn η
  | .fetching, .handle h => .await h
  | .awaiting, .waited (.ok ()) => .inquire
  | .awaiting, .waited (.error e) => .leave (.error e)
  | .inquiring, .done b => .leave (.ok b)
  | t, _ => t

inductive Drive (μ : Type) where
  | attach
  | turn (monitor : μ)
  | turning (monitor : μ)
  | leave (result : Except WaitError Unit)

def Drive.step (attached : Option μ) : Drive μ → Next (Drive μ) μ (Except WaitError Unit)
  | .attach =>
    match attached with
    | some monitor => .goto (.turn monitor)
    | none => .done (.error (.transfer .noMonitor))
  | .turn monitor => .ask monitor (.turning monitor)
  | .turning _ => .blocked
  | .leave result => .done result

/-- An interruption stays one; a failure is unwrapped. -/
def Drive.resume : Drive μ → Except HandleError Bool → Drive μ
  | .turning _, .ok true => .leave (.ok ())
  | .turning monitor, .ok false => .turn monitor
  | .turning _, .error .interrupted => .leave (.error .interrupted)
  | .turning _, .error (.execution failure) => .leave (failure.rethrow.mapError .transfer)
  | p, _ => p

/-- A wait for the failure of a transfer reports only an interruption as an error of its own. -/
def exception : Except WaitError Unit → Except WaitError (Option TransferError)
  | .ok () => .ok none
  | .error (.transfer error) => .ok (some error)
  | .error .interrupted => .error .interrupted

end TransferLifecycle.Wait
