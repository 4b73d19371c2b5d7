import TransferLifecycle.Completion
import TransferLifecycle.Event
import TransferLifecycle.Progress
import TransferLifecycle.State

/-! What a session tells: the results of its steps, and the calls that listeners, tasks,
handles and monitors recorded on the way. -/
namespace TransferLifecycle.Session

structure ProgressReport where
  snapshot : ProgressSnapshot
  started : Bool
  moving : Bool
  hasEstimate : Bool

def ProgressReport.of (p : Progress) : ProgressReport :=
  ⟨p.snapshot, p.started, p.isMoving, p.remaining.isSome⟩

structure TransferReport where
  description : String
  direction : Direction
  state : State
  progress : ProgressReport
  pending : Nat
  dropped : Nat
  hasMonitor : Bool

structure PoolReport where
  /-- Left out where the number of workers depends on the host. -/
  workers : Option Nat
  hasWorkers : Bool
  shuttingDown : Bool
  tasks : Nat
  panics : Nat
  busy : Bool
  debug : Option String

structure DispatcherReport where
  listeners : Nat
  pending : Nat
  delivered : Nat
  rejected : Nat
  dropped : Nat
  debug : String

structure MonitorReport where
  isSealed : Bool
  before : String
  done : Bool
  debug : String

inductive WaitReport where
  | completion (result : Except WaitError Unit)
  | exception (result : Except WaitError (Option TransferError))
  | handle (result : Waited)
  | turn (result : Except HandleError Bool)

inductive Result where
  | nothing
  | truth (b : Bool)
  | accepted
  | refused (reason : Refusal)
  | panicked (text : String)
  | text (line : String)
  | executor (held offered : Nat)
  | pool (report : PoolReport)
  | workerLog (lines : List String)
  | sharedPool (same : Bool) (workers : Nat)
  | listener (calls : Nat) (bytes : UInt64)
  | list (length : Nat) (debug : String)
  | dispatcher (report : DispatcherReport)
  | transfer (report : TransferReport)
  | unit (finished failed canceled : Bool)
  | handle (finished failed : Bool)
  | monitor (report : MonitorReport)
  | waited (report : WaitReport) (flag : Bool)
  | trues (count : Nat)
  | unknown (name : String)
  | stuck

inductive Call where
  | event (listener : String) (event : Event)
  | coded (listener : String) (event : CodedEvent)
  | state (listener : String) (state : State) (transfer : String) (visible : State)
  | act (actor : String) (index : Nat) (result : Result)
  | task (name : String) (thread : Option (Option String))
  | did (actor : String) (result : Result)
  | wait (handle : String) (index : Nat)
  | currentHandle (monitor : String) (index : Nat)
  | done (monitor : String) (b : Bool)
  /-- Lanes have run side by side: what was recorded up to here has no order of its own. -/
  | unordered

/-- The answer to one step: its result, the calls in order, and the log of the main thread. -/
structure Answer where
  result : Result
  calls : List Call
  log : List String

end TransferLifecycle.Session
