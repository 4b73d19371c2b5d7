import TransferLifecycle.Dispatch
import TransferLifecycle.Pool
import TransferLifecycle.Progress
import TransferLifecycle.Session.Step
import TransferLifecycle.Settings
import TransferLifecycle.Transition
import TransferLifecycle.UnitMonitor

/-! The objects of a session. Objects of one kind stand in one row and refer to others by
their place in a row, so that the identity of an object is its place. -/
namespace TransferLifecycle.Session

/-- A progress listener: an observer, or a chain used as one. -/
inductive Listener where
  | observer (id : Nat)
  | chain (id : Nat)
  deriving DecidableEq, Repr

/-- A chain that stands alone, or the one inside a dispatcher. -/
inductive ChainRef where
  | chain (id : Nat)
  | dispatcher (id : Nat)
  deriving DecidableEq, Repr

/-- A registry of state listeners that stands alone, or the one inside a transfer. -/
inductive RegistryRef where
  | registry (id : Nat)
  | transfer (id : Nat)
  deriving DecidableEq, Repr

inductive Handle where
  | unit (id : Nat)
  | fixed (id : Nat)
  deriving DecidableEq, Repr

inductive Monitor where
  | units (id : Nat)
  | scripted (id : Nat)
  deriving DecidableEq, Repr

/-- A listener that records its calls and may act on some of them. -/
structure Observer where
  name : String
  kind : ObserverKind
  trigger : Option String
  times : Nat
  actions : List Step
  panic : Option String
  silent : Bool
  calls : Nat := 0
  bytes : UInt64 := 0
  /-- Calls so far that the trigger let through. -/
  reached : Nat := 0

/-- A handle that answers waits from a list and never blocks. -/
structure FixedHandle where
  name : String
  finished : Bool
  answers : List FixedAnswer
  actions : List (List Step)
  waits : Nat := 0

/-- A monitor that answers from lists; the last handle repeats, and beyond the list it is done. -/
structure ScriptedMonitor where
  name : String
  handles : List Handle
  done : List Bool
  fetches : Nat := 0
  inquiries : Nat := 0

structure Gate where
  executor : Nat
  entered : Bool := false
  isOpen : Bool := false

inductive Task where
  | drain (dispatcher : Nat)
  | job (name : String) (showThread : Bool) (actions : List Step) (panic : Option String)
  | work (unit : Nat) (work : Work)
  | gate (id : Nat)

/-- A runtime takes every task, and loses it once stopped. -/
structure Runtime where
  alive : Bool := true
  queue : List Task := []

inductive ExecutorKind where
  | scripted (verdicts : List Verdict) (after : Verdict) (held : List Task)
  | sameThread
  | pool (id : Nat)
  | runtime (id : Nat)

structure Executor where
  kind : ExecutorKind
  offered : Nat := 0

structure PoolObject where
  core : Pool Task
  threads : List Nat

structure DispatcherObject where
  core : Dispatcher Listener := {}
  executor : Nat

structure Transfer where
  lifecycle : Lifecycle Nat
  direction : Direction
  progress : Progress
  dispatcher : Nat
  monitor : Option Monitor := none

inductive Object where
  | executor (id : Nat)
  | listener (listener : Listener)
  | chain (id : Nat)
  | dispatcher (id : Nat)
  | registry (id : Nat)
  | transfer (id : Nat)
  | unit (id : Nat)
  | handle (handle : Handle)
  | monitor (monitor : Monitor)
  | waiter (thread : Nat) (kind : Option WaitKind)

end TransferLifecycle.Session
