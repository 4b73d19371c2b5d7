import TransferLifecycle.Session.Basic

/-! Executors of a session and the tasks offered to them. -/
namespace TransferLifecycle.Session

def prepare (s : Session) (me : Nat) : ExecutorPlan → ExecutorKind × Session
  | .scripted verdicts after => (.scripted verdicts after [], s)
  | .sameThread => (.sameThread, s)
  | .pool settings =>
    let s := s.log me [.poolCreated settings.workerCount settings.capacity]
    let (pool, s) := s.newPool settings
    (.pool pool, s)
  | .sharedPool => (.pool sharedPool, s)
  | .runtime =>
    let (runtime, s) := s.newRuntime
    (.runtime runtime, s)

def poolOf (s : Session) (name : String) : Except String (Nat × Nat) := do
  let x ← s.executor name
  match s.executors[x]? with
  | some { kind := .pool pool, .. } => .ok (x, pool)
  | _ => .error name

/-- Gates of an executor that are still shut, the oldest first. -/
def shutGates (s : Session) (executor : Nat) : List Nat :=
  (List.range s.gates.size).filter fun id =>
    match s.gates[id]? with
    | some gate => gate.executor == executor && !gate.isOpen
    | none => false

def openGates (s : Session) (gates : List Nat) : Session := gates.foldl openGate s

def poolReport (s : Session) (pool : Nat) (countWorkers : Bool) : Result :=
  match s.pools[pool]? with
  | some { core := p, .. } =>
    .pool { workers := if countWorkers then some p.workers.length else none
            hasWorkers := 0 < p.workers.length
            shuttingDown := p.shuttingDown
            tasks := p.tasks.toNat
            panics := p.panics.toNat
            busy := 0 < p.tasks
            debug := if countWorkers then some p.debug else none }
  | none => .nothing

/-- The log of a pool's only worker, told if the log is. -/
def workerLog (s : Session) (pool : Nat) : Result :=
  match s.pools[pool]? with
  | some { threads := [worker], .. } =>
    if s.logging then
      .workerLog (((s.threads[worker]?.map (·.notices)).getD []).reverse.map Notice.line)
    else .nothing
  | _ => .nothing

def judgeTask (s : Session) (me : Nat) (rest : List Activity) (task : Task) : Verdict → Session
  | .hold => s.give me rest .accepted
  | .runNow => s.run me (.task task :: .yield .accepted :: rest)
  | .full => s.give me rest (.refused .queueFull)
  | .shutdown => s.give me rest (.refused .shuttingDown)
  | .discard => s.give me rest .accepted
  | .panic => s.raise me rest "executor panicked"

/-- An executor counts every task that it is offered. -/
def offer (s : Session) (me : Nat) (rest : List Activity) (id : Nat) (task : Task) :
    Option Session :=
  match s.executors[id]? with
  | none => none
  | some { kind := kind, offered := offered } =>
    match kind with
    | .scripted verdicts after held =>
      let verdict := verdicts.head?.getD after
      let held := if verdict = .hold then held ++ [task] else held
      let s := s.setExecutor id ⟨.scripted verdicts.tail after held, offered + 1⟩
      some (s.judgeTask me rest task verdict)
    | .sameThread =>
      let s := s.setExecutor id ⟨.sameThread, offered + 1⟩
      some (s.run me (.task task :: .contain :: rest))
    | .pool pool =>
      let s := s.setExecutor id ⟨.pool pool, offered + 1⟩
      some (s.run me (.submit pool task .enter :: rest))
    | .runtime r =>
      let s := s.setExecutor id ⟨.runtime r, offered + 1⟩
      let s := { s with runtimes := s.runtimes.modify r fun runtime =>
        if runtime.alive then { runtime with queue := runtime.queue ++ [task] } else runtime }
      some (s.give me rest .accepted)

/-- The outcome of the work of a unit; a panic counts as a failure. -/
def workOutcome (s : Session) : Work → Outcome × Session
  | .succeed => (.success, s)
  | .fail cause =>
    let (failure, s) := s.failure cause
    (.failure failure, s)
  | .panic _ =>
    let (failure, s) := s.failure (.transfer (.client "unit of work panicked" none))
    (.failure failure, s)

def runTask (s : Session) (me : Nat) (rest : List Activity) : Task → Session
  | .drain dispatcher => s.run me (.dispatch dispatcher (.take .deliver) :: rest)
  | .job name showThread actions panic =>
    let thread := if showThread then some ((s.threads[me]?).bind (·.name)) else none
    (s.record (.task name thread)).run me
      (.steps (.actor name) actions 0 :: .conclude panic :: rest)
  | .work unit work =>
    let (outcome, s) := s.workOutcome work
    (s.finishUnit unit outcome).2.give me rest .nothing
  | .gate id =>
    { s with gates := s.gates.modify id fun g => { g with entered := true } }.run me
      (.hold id :: rest)

def submitReply : Except Refusal Unit → Reply
  | .ok () => .accepted
  | .error reason => .refused reason

end TransferLifecycle.Session
