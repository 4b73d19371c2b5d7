import TransferLifecycle.Event
import TransferLifecycle.Fault
import TransferLifecycle.Pool

/-! The steps of a session. A step acts on objects by their names; listeners, tasks and
handles made for a session may take steps of their own when they are called. -/
namespace TransferLifecycle.Session

inductive Verdict where
  | hold | runNow | full | shutdown | discard | panic
  deriving DecidableEq, Repr

inductive ExecutorPlan where
  | scripted (verdicts : List Verdict) (after : Verdict)
  | sameThread
  | pool (settings : PoolSettings)
  | sharedPool
  | runtime

inductive Work where
  | succeed
  | fail (cause : FaultShape)
  | panic (text : String)

inductive FixedAnswer where
  | success | interrupted
  | failure (cause : FaultShape)

inductive ObserverKind where
  | progress | coded | state
  deriving DecidableEq, Repr

inductive WaitKind where
  | completion | exception
  deriving DecidableEq, Repr

/-- Whether the interrupt token is set before a wait, and whether it is kept after it. -/
structure Arming where
  armed : Bool := true
  keep : Bool := false

inductive Step where
  | executor (id : String) (plan : ExecutorPlan)
  | submit (executor task : String) (showThread : Bool) (actions : List Step) (panic : Option String)
  | runHeld (executor : String) (index : Nat)
  | executorInfo (executor : String)
  | poolBlock (executor : String)
  | poolRelease (executor : String) (count : Nat)
  | poolShutdown (executor : String)
  | poolInfo (executor : String) (countWorkers : Bool)
  | sharedSame
  | outsideRuntime
  | runtimeStop (executor : String)
  | listener (id : String) (kind : ObserverKind) (trigger : Option String) (times : Nat)
      (actions : List Step) (panic : Option String) (silent : Bool)
  | chainListener (id chain : String)
  | listenerInfo (listener : String)
  | add (target listener : String)
  | remove (target listener : String)
  | addCoded (transfer id : String) (trigger : Option String) (times : Nat) (actions : List Step)
      (panic : Option String) (silent : Bool)
  | chain (id : String)
  | dispatcher (id executor : String)
  | registry (id : String)
  | fire (target : String) (event : Event)
  | fireMany (target : String) (kind : EventKind) (first last : Nat)
  | info (target : String)
  | transfer (id description : String) (direction : Direction) (total : Option UInt64)
      (executor stateListener : Option String)
  | setState (transfer : String) (state : State)
  | notify (transfer : String) (state : State) (registry : Option String)
  | addBytes (transfer : String) (bytes : UInt64)
  | setTotal (transfer : String) (total : UInt64)
  | setMonitor (transfer monitor : String)
  | wait (transfer : String) (kind : WaitKind) (arming : Arming)
  | startWait (id transfer : String) (kind : WaitKind)
  | startUnitWait (id unit : String)
  | interruptWaiter (waiter : String)
  | join (waiter : String)
  | parallel (lanes : List (List Step))
  | loop (times : Nat) (steps : List Step)
  | interrupt
  | isInterrupted
  | takeInterrupt
  | interruptDebug
  | interruptElsewhere (own : Bool)
  | unit (id : String) (succeeded : Bool)
  | succeed (unit : String)
  | cancel (unit : String)
  | fail (unit : String) (cause : FaultShape)
  | unitWait (unit : String) (arming : Arming)
  | spawn (executor id : String) (work : Work)
  | fixedHandle (id : String) (finished : Bool) (answers : List FixedAnswer)
      (actions : List (List Step))
  | monitor (id unit : String) (single : Bool)
  | advance (monitor unit : String)
  | seal (monitor : String)
  | currentHandle (monitor id : String)
  | scriptedMonitor (id : String) (handles : List String) (done : List Bool)
  | awaitNext (monitor : String) (arming : Arming)

end TransferLifecycle.Session
