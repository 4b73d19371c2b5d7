import TransferLifecycle.Notice
import TransferLifecycle.Pass
import TransferLifecycle.Session.Object
import TransferLifecycle.Session.Report
import TransferLifecycle.Wait

/-! What threads are doing. A thread has a stack of activities, each waiting for the one
above it, and runs the topmost, hands a reply down to it, or unwinds it in a panic. -/
namespace TransferLifecycle.Session

inductive Source where
  | main
  | listener (name : String)
  | actor (name : String)
  | loop
  | lane

inductive Stimulus where
  | event (event : Event)
  | state (transfer : Nat) (state : State)

inductive Reply where
  | nothing
  | truth (b : Bool)
  | handle (handle : Handle)
  | waited (result : Waited)
  | turned (result : Except HandleError Bool)
  | driven (result : Except WaitError Unit)
  | accepted
  | refused (reason : Refusal)
  | result (result : Result)

def Reply.toResult : Reply → Result
  | .nothing => .nothing
  | .truth b => .truth b
  | .accepted => .accepted
  | .refused reason => .refused reason
  | .result r => r
  | .handle _ | .waited _ | .turned _ | .driven _ => .nothing

inductive HandleQuery where
  | isFinished | isFailed
  deriving DecidableEq, Repr

inductive MonitorQuery where
  | currentHandle | isDone
  deriving DecidableEq, Repr

inductive Activity where
  | steps (source : Source) (todo : List Step) (taken : Nat)
  | call (observer : Nat) (stimulus : Stimulus)
  | conclude (panic : Option String)
  | chain (chain : ChainRef) (event : Event) (point : Pass.Point)
  | registry (registry : RegistryRef) (transfer : Nat) (state : State) (point : Pass.Point)
  | transition (transfer : Nat) (point : Transition.Point)
  | fire (transfer : Nat) (event : Event)
  | dispatch (dispatcher : Nat) (point : Dispatch.Point)
  | offer (executor : Nat) (task : Task)
  | submit (pool : Nat) (task : Task) (point : Pool.Submit)
  | task (task : Task)
  | hold (gate : Nat)
  /-- Contains the panic of a task that runs on the thread it was offered on. -/
  | contain
  | wait (handle : Handle)
  | answerWait (fixed : Nat) (index : Nat)
  | query (query : HandleQuery) (handle : Handle)
  | judge
  | openGate (handle : Handle)
  | newGate
  | monitor (monitor : Nat) (point : UnitMonitor.Point Handle)
  | consult (monitor : Monitor) (query : MonitorQuery)
  | turn (monitor : Monitor) (point : Wait.Turn Handle)
  | drive (transfer : Nat) (point : Wait.Drive Monitor)
  /-- Hands the reply down whatever the activity above replied. -/
  | yield (reply : Reply)
  | settleWait (kind : Option WaitKind) (keep : Bool)
  | bindUnit (name : String) (unit : Nat)
  | bindHandle (name : String)
  | reportHandle (handle : Handle)
  | reportFailed (finished : Bool)
  | reportMonitor (monitor : Nat) (before : String)
  | fireMany (target : String) (kind : EventKind) (next last : Nat)
  | loop (left : Nat) (steps : List Step)
  | awaitGate (gate : Nat)
  | shutdown (pool : Nat) (point : Pool.Shutdown)
  | reportShutdown (pool : Nat)
  | awaitLanes (threads : List Nat)
  | join (thread : Nat) (kind : Option WaitKind)
  | worker (pool : Nat) (id : Nat) (point : Pool.Loop)
  | runtimeWorker (runtime : Nat)

inductive Mode where
  | running
  | returning (reply : Reply)
  | unwinding (panic : String)

structure Thread where
  name : Option String
  stack : List Activity
  mode : Mode := .running
  token : Bool := false
  notices : List Notice := []
  /-- Steps that answered true, counted where the thread takes a lane of steps. -/
  trues : Nat := 0
  inRuntime : Bool := false

end TransferLifecycle.Session
