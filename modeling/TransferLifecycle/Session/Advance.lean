import TransferLifecycle.Session.Begin

/-! The move of a thread whose topmost activity is running. -/
namespace TransferLifecycle.Session

def dispatchQuestion (dispatcher executor : Nat) : Dispatch.Question → Activity
  | .offer => .offer executor (.drain dispatcher)
  | .deliver event => .chain (.dispatcher dispatcher) event .start

def transitionQuestion (transfer : Nat) : Transition.Question → Activity
  | .pass state => .registry (.transfer transfer) transfer state .start
  | .fire kind => .fire transfer (Event.lifecycle kind)

def monitorQuestion : UnitMonitor.Question Handle → Activity
  | .isFailed h => .query .isFailed h
  | .isFinished h => .query .isFinished h
  | .newGate => .newGate
  | .openGate h => .openGate h

def turnQuestion (monitor : Monitor) : Wait.Turn.Question Handle → Activity
  | .currentHandle => .consult monitor .currentHandle
  | .wait h => .wait h
  | .isDone => .consult monitor .isDone

/-- Moves the topmost activity. Nothing comes of an activity that has to wait. -/
def advance (s : Session) (me : Nat) (rest : List Activity) : Activity → Option Session
  | .steps _ [] _ => some (s.give me rest .nothing)
  | .steps source (step :: todo) taken =>
    some (s.begin me (.steps source todo (taken + 1) :: rest) step)
  | .call id stimulus => s.call me rest id stimulus
  | .conclude none => some (s.give me rest .nothing)
  | .conclude (some panic) => some (s.raise me rest panic)
  | .chain chain event point => do
    let (list, next) := Pass.step (← s.chainOf chain) point
    (s.updateChain (fun _ => list) chain).follow me rest (.chain chain event) (bring event)
      (fun _ => .nothing) next
  | .registry registry transfer state point => do
    let (list, next) := Pass.step (← s.registryOf registry) point
    (s.updateRegistry (fun _ => list) registry).follow me rest (.registry registry transfer state)
      (.call · (.state transfer state)) (fun _ => .nothing) next
  | .transition transfer point => do
    let (lifecycle, notices, next) := Transition.step me (← s.transfers[transfer]?).lifecycle point
    ((s.setLifecycle transfer lifecycle).log me notices).follow me rest (.transition transfer)
      (transitionQuestion transfer) .truth next
  | .fire transfer event => do
    let t ← s.transfers[transfer]?
    return (s.log me [.progressFired t.lifecycle.description event]).run me
      (.dispatch t.dispatcher (.arrive event) :: rest)
  | .dispatch dispatcher point => do
    let d ← s.dispatchers[dispatcher]?
    let (core, notices, next) := Dispatch.step d.core point
    ((s.setDispatcher dispatcher core).log me notices).follow me rest (.dispatch dispatcher)
      (dispatchQuestion dispatcher d.executor) (fun _ => .nothing) next
  | .offer executor task => s.offer me rest executor task
  | .submit pool task point => do
    let (core, next) := Pool.Submit.step task (← s.pools[pool]?).core point
    (s.setPool pool core).follow me rest (.submit pool task) Empty.elim submitReply next
  | .task task => some (s.runTask me rest task)
  | .hold gate => do
    if (← s.gates[gate]?).isOpen then s.give me rest .nothing else none
  | .contain => some (s.give me rest .accepted)
  | .wait h => s.await me rest h
  | .answerWait fixed index => some (s.answerWait me rest fixed index)
  | .query query h => some (s.query me rest query h)
  | .judge => some (s.give me rest (.truth false))
  | .openGate (.unit id) => some ((s.finishUnit id .success).2.give me rest .nothing)
  | .openGate (.fixed _) => some (s.give me rest .nothing)
  | .newGate =>
    let (gate, s) := s.newUnit
    some (s.give me rest (.handle (.unit gate)))
  | .monitor monitor point => do
    let (m, notices, next) := UnitMonitor.step me (← s.monitors[monitor]?) point
    ((s.setMonitor monitor m).log me notices).follow me rest (.monitor monitor) monitorQuestion
      monitorReply next
  | .consult monitor query => s.consult me rest monitor query
  | .turn monitor point =>
    s.follow me rest (.turn monitor) (turnQuestion monitor) .turned point.step
  | .drive transfer point => do
    let t ← s.transfers[transfer]?
    s.follow me rest (.drive transfer) (.turn · .fetch) .driven (point.step t.monitor)
  | .yield reply => some (s.give me rest reply)
  | .settleWait _ _ | .bindUnit _ _ | .bindHandle _ | .reportHandle _ | .reportFailed _
  | .reportMonitor _ _ => some (s.give me rest .nothing)
  | .fireMany target kind next last =>
    if next ≤ last then
      match s.firing target ⟨kind, UInt64.ofNat next⟩ with
      | .ok activity => some (s.run me (activity :: .fireMany target kind (next + 1) last :: rest))
      | .error name => some (s.give me rest (.result (.unknown name)))
    else some (s.give me rest .nothing)
  | .loop 0 _ => some (s.give me rest .nothing)
  | .loop (left + 1) steps => some (s.run me (.steps .loop steps 0 :: .loop left steps :: rest))
  | .awaitGate gate => do
    if (← s.gates[gate]?).entered then s.give me rest .nothing else none
  | .shutdown pool point => do
    let (core, notices, next) := Pool.Shutdown.step (← s.pools[pool]?).core point
    ((s.setPool pool core).log me notices).follow me rest (.shutdown pool) Empty.elim
      (fun _ => .nothing) next
  | .reportShutdown pool => some (s.give me rest (.result (s.workerLog pool)))
  | .awaitLanes threads =>
    if threads.all fun thread => (s.ending thread).isSome then
      let trues := threads.foldl (fun n thread => n + (s.threads[thread]?.map (·.trues)).getD 0) 0
      some ((s.record .unordered).give me rest (.result (.trues trues)))
    else none
  | .join thread kind => do
    match ← s.ending thread with
    | .ok reply =>
      let report ← waitReport kind reply
      return s.give me rest (.result (.waited report (s.token thread)))
    | .error panic => return s.give me rest (.result (.panicked panic))
  | .worker pool id point => do
    let (core, notices, next) := Pool.Loop.step id (← s.pools[pool]?).core point
    ((s.setPool pool core).log me notices).follow me rest (.worker pool id) .task
      (fun _ => .nothing) next
  | .runtimeWorker runtime => do
    let r ← s.runtimes[runtime]?
    match r.queue with
    | [] => none
    | task :: queue =>
      let s := { s with runtimes := s.runtimes.setIfInBounds runtime { r with queue := queue } }
      return s.run me (.task task :: .runtimeWorker runtime :: rest)

end TransferLifecycle.Session
