import TransferLifecycle.Session.Activity

/-! A session: the rows of objects, the threads, and what names stand for. Thread zero takes
the steps of a script. Pool zero is the shared one, and executor zero offers to it. -/
namespace TransferLifecycle

open Session in
structure Session where
  observers : Array Observer := #[]
  chains : Array (ListenerList Listener) := #[]
  dispatchers : Array DispatcherObject := #[]
  registries : Array (ListenerList Nat) := #[]
  transfers : Array Transfer := #[]
  units : Array Completion := #[]
  fixedHandles : Array FixedHandle := #[]
  monitors : Array (UnitMonitor Handle) := #[]
  scriptedMonitors : Array ScriptedMonitor := #[]
  executors : Array Executor := #[]
  pools : Array PoolObject := #[]
  runtimes : Array Runtime := #[]
  gates : Array Gate := #[]
  threads : Array Thread := #[]
  /-- The latest meaning of a name comes first. -/
  names : List (String × Object) := []
  /-- Calls recorded during the present step, the latest first. -/
  calls : List Call := []
  nextAddress : Nat := 0
  logging : Bool := false

namespace Session

def mainThread : Nat := 0

def defaultExecutor : Nat := 0

/-! Names. A step that finds no object of the right kind fails with the name it looked for. -/

def bind (s : Session) (name : String) (object : Object) : Session :=
  { s with names := (name, object) :: s.names }

def object? (s : Session) (name : String) : Option Object := s.names.lookup name

def executor (s : Session) (name : String) : Except String Nat :=
  match s.object? name with
  | some (.executor id) => .ok id
  | _ => .error name

def listener (s : Session) (name : String) : Except String Listener :=
  match s.object? name with
  | some (.listener l) => .ok l
  | _ => .error name

def observer (s : Session) (name : String) : Except String Nat :=
  match s.object? name with
  | some (.listener (.observer id)) => .ok id
  | _ => .error name

def chain (s : Session) (name : String) : Except String Nat :=
  match s.object? name with
  | some (.chain id) => .ok id
  | _ => .error name

def registry (s : Session) (name : String) : Except String Nat :=
  match s.object? name with
  | some (.registry id) => .ok id
  | _ => .error name

def transfer (s : Session) (name : String) : Except String Nat :=
  match s.object? name with
  | some (.transfer id) => .ok id
  | _ => .error name

def unit (s : Session) (name : String) : Except String Nat :=
  match s.object? name with
  | some (.unit id) => .ok id
  | _ => .error name

def handle (s : Session) (name : String) : Except String Handle :=
  match s.object? name with
  | some (.unit id) => .ok (.unit id)
  | some (.handle h) => .ok h
  | _ => .error name

def monitor (s : Session) (name : String) : Except String Monitor :=
  match s.object? name with
  | some (.monitor m) => .ok m
  | _ => .error name

def unitMonitor (s : Session) (name : String) : Except String Nat :=
  match s.object? name with
  | some (.monitor (.units id)) => .ok id
  | _ => .error name

def waiter (s : Session) (name : String) : Except String (Nat × Option WaitKind) :=
  match s.object? name with
  | some (.waiter thread kind) => .ok (thread, kind)
  | _ => .error name

/-! Rows, read and changed by place. -/

def chainOf (s : Session) : ChainRef → Option (ListenerList Listener)
  | .chain id => s.chains[id]?
  | .dispatcher id => s.dispatchers[id]?.map (·.core.chain)

def updateChain (s : Session) (change : ListenerList Listener → ListenerList Listener) :
    ChainRef → Session
  | .chain id => { s with chains := s.chains.modify id change }
  | .dispatcher id =>
    { s with dispatchers := s.dispatchers.modify id fun d =>
        { d with core := { d.core with chain := change d.core.chain } } }

def registryOf (s : Session) : RegistryRef → Option (ListenerList Nat)
  | .registry id => s.registries[id]?
  | .transfer id => s.transfers[id]?.map (·.lifecycle.observers)

def updateRegistry (s : Session) (change : ListenerList Nat → ListenerList Nat) :
    RegistryRef → Session
  | .registry id => { s with registries := s.registries.modify id change }
  | .transfer id =>
    { s with transfers := s.transfers.modify id fun t =>
        { t with lifecycle := { t.lifecycle with observers := change t.lifecycle.observers } } }

def setDispatcher (s : Session) (id : Nat) (core : Dispatcher Listener) : Session :=
  { s with dispatchers := s.dispatchers.modify id fun d => { d with core := core } }

def setLifecycle (s : Session) (id : Nat) (lifecycle : Lifecycle Nat) : Session :=
  { s with transfers := s.transfers.modify id fun t => { t with lifecycle := lifecycle } }

def setPool (s : Session) (id : Nat) (core : Pool Task) : Session :=
  { s with pools := s.pools.modify id fun p => { p with core := core } }

def setMonitor (s : Session) (id : Nat) (m : UnitMonitor Handle) : Session :=
  { s with monitors := s.monitors.setIfInBounds id m }

def updateTransfer (s : Session) (id : Nat) (change : Transfer → Transfer) : Session :=
  { s with transfers := s.transfers.modify id change }

def setExecutor (s : Session) (id : Nat) (x : Executor) : Session :=
  { s with executors := s.executors.setIfInBounds id x }

def stopRuntime (s : Session) (id : Nat) : Session :=
  { s with runtimes := s.runtimes.modify id fun r => { r with alive := false } }

def newObserver (s : Session) (o : Observer) : Nat × Session :=
  (s.observers.size, { s with observers := s.observers.push o })

def newChain (s : Session) : Nat × Session :=
  (s.chains.size, { s with chains := s.chains.push {} })

def newRegistry (s : Session) : Nat × Session :=
  (s.registries.size, { s with registries := s.registries.push {} })

def newFixedHandle (s : Session) (h : FixedHandle) : Nat × Session :=
  (s.fixedHandles.size, { s with fixedHandles := s.fixedHandles.push h })

def newScriptedMonitor (s : Session) (m : ScriptedMonitor) : Nat × Session :=
  (s.scriptedMonitors.size, { s with scriptedMonitors := s.scriptedMonitors.push m })

def newGate (s : Session) (executor : Nat) : Nat × Session :=
  (s.gates.size, { s with gates := s.gates.push { executor := executor } })

def newDispatcher (s : Session) (executor : Nat) : Nat × Session :=
  (s.dispatchers.size, { s with dispatchers := s.dispatchers.push { executor := executor } })

def newTransfer (s : Session) (settings : Settings Nat Nat) : Nat × Session :=
  let (dispatcher, s) := s.newDispatcher (settings.executor.getD defaultExecutor)
  let observers : ListenerList Nat :=
    match settings.stateListener with
    | some o => ListenerList.add {} o
    | none => {}
  let progress :=
    match settings.total with
    | some total => Progress.withTotal total
    | none => {}
  (s.transfers.size,
    { s with transfers := s.transfers.push
              { lifecycle := { description := settings.description, observers := observers }
                direction := settings.direction
                progress := progress
                dispatcher := dispatcher } })

def newUnit (s : Session) : Nat × Session := (s.units.size, { s with units := s.units.push {} })

def finishUnit (s : Session) (id : Nat) (outcome : Outcome) : Bool × Session :=
  match s.units[id]? with
  | some c =>
    let (first, c) := c.finish outcome
    (first, { s with units := s.units.setIfInBounds id c })
  | none => (false, s)

def failure (s : Session) (cause : FaultShape) : ExecutionFailure × Session :=
  let (failure, next) := cause.failure s.nextAddress
  (failure, { s with nextAddress := next })

def handleFinished (s : Session) : Handle → Bool
  | .unit id => (s.units[id]?.map (·.isFinished)).getD false
  | .fixed id => (s.fixedHandles[id]?.map (·.finished)).getD false

def openGate (s : Session) (id : Nat) : Session :=
  { s with gates := s.gates.modify id fun g => { g with isOpen := true } }

/-! Threads. -/

def put (s : Session) (me : Nat) (stack : List Activity) (mode : Mode) : Session :=
  { s with threads := s.threads.modify me fun t => { t with stack := stack, mode := mode } }

def run (s : Session) (me : Nat) (stack : List Activity) : Session := s.put me stack .running

/-- Hands a reply down to the activity that waits for it. -/
def give (s : Session) (me : Nat) (rest : List Activity) (reply : Reply) : Session :=
  s.put me rest (.returning reply)

def raise (s : Session) (me : Nat) (rest : List Activity) (panic : String) : Session :=
  s.put me rest (.unwinding panic)

/-- Goes where a step of an operation leads. -/
def follow {point question result : Type} (s : Session) (me : Nat) (rest : List Activity)
    (frame : point → Activity) (asked : question → Activity) (reply : result → Reply) :
    Next point question result → Option Session
  | .goto p => some (s.run me (frame p :: rest))
  | .ask q p => some (s.run me (asked q :: frame p :: rest))
  | .done r => some (s.give me rest (reply r))
  | .blocked => none

def record (s : Session) (call : Call) : Session := { s with calls := call :: s.calls }

def log (s : Session) (me : Nat) (notices : List Notice) : Session :=
  { s with threads := s.threads.modify me fun t =>
      { t with notices := notices.reverse ++ t.notices } }

def token (s : Session) (me : Nat) : Bool := (s.threads[me]?.map (·.token)).getD false

def setToken (s : Session) (me : Nat) (value : Bool) : Session :=
  { s with threads := s.threads.modify me fun t => { t with token := value } }

def ending (s : Session) (me : Nat) : Option (Except String Reply) :=
  match s.threads[me]? with
  | some { stack := [], mode := .returning reply, .. } => some (.ok reply)
  | some { stack := [], mode := .unwinding panic, .. } => some (.error panic)
  | _ => none

def spawn (s : Session) (name : Option String) (stack : List Activity) : Nat × Session :=
  (s.threads.size, { s with threads := s.threads.push { name := name, stack := stack } })

/-- Makes a pool and starts its workers. -/
def newPool (s : Session) (settings : PoolSettings) : Nat × Session :=
  let pool := s.pools.size
  let (threads, s) := (List.range settings.workerCount).foldl (fun (threads, s) id =>
    let (thread, s) :=
      s.spawn (some (settings.threadName ++ "-" ++ toString id)) [.worker pool id .start]
    (threads ++ [thread], s)) (([] : List Nat), s)
  (pool, { s with pools := s.pools.push { core := Pool.new settings, threads := threads } })

def newRuntime (s : Session) : Nat × Session :=
  let runtime := s.runtimes.size
  let worker : Thread :=
    { name := some "tokio-rt-worker", stack := [.runtimeWorker runtime], inRuntime := true }
  (runtime, { s with runtimes := s.runtimes.push {}, threads := s.threads.push worker })

def newExecutor (s : Session) (kind : ExecutorKind) : Nat × Session :=
  (s.executors.size, { s with executors := s.executors.push { kind := kind } })

def sharedPool : Nat := 0

def start (logging : Bool) : Session :=
  let s : Session :=
    { logging := logging, threads := #[{ name := some "main", stack := [] }] }
  let (_, s) := s.newPool { threadName := "ferry-shared-callback" }
  (s.newExecutor (.pool sharedPool)).2

end Session

end TransferLifecycle
