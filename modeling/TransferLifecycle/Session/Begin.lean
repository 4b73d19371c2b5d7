import TransferLifecycle.Session.Executing
import TransferLifecycle.Session.Inform
import TransferLifecycle.Session.Listening

/-! The beginning of a step. A step is finished at once or leaves activities on the stack that
will finish it; where a name it uses stands for nothing suitable, it ends with that name. -/
namespace TransferLifecycle.Session

def spawnLanes (s : Session) (lanes : List (List Step)) : List Nat × Session :=
  lanes.foldl (fun (threads, s) lane =>
    let (thread, s) := s.spawn none [.steps .lane lane 0]
    (threads ++ [thread], s)) ([], s)

/-- Begins a step of thread `me`, whose stack is `rest`. -/
def begin? (s : Session) (me : Nat) (rest : List Activity) : Step → Except String Session
  | .executor id plan =>
    let (kind, s) := s.prepare me plan
    let (x, s) := s.newExecutor kind
    .ok ((s.bind id (.executor x)).give me rest .nothing)
  | .submit executor task showThread actions panic => do
    let x ← s.executor executor
    .ok (s.run me (.offer x (.job task showThread actions panic) :: rest))
  | .runHeld executor index => do
    let x ← s.executor executor
    match s.executors[x]? with
    | some { kind := .scripted verdicts after held, offered := offered } =>
      match held[index]? with
      | some task =>
        let s := s.setExecutor x ⟨.scripted verdicts after (held.eraseIdx index), offered⟩
        .ok (s.run me (.task task :: .yield (.truth true) :: rest))
      | none => .ok (s.give me rest (.truth false))
    | _ => .error executor
  | .executorInfo executor => do
    let x ← s.executor executor
    match s.executors[x]? with
    | some { kind := .scripted _ _ held, offered := offered } =>
      .ok (s.give me rest (.result (.executor held.length offered)))
    | some { offered := offered, .. } => .ok (s.give me rest (.result (.executor 0 offered)))
    | none => .error executor
  | .poolBlock executor => do
    let (x, _) ← s.poolOf executor
    let (gate, s) := s.newGate x
    .ok (s.run me (.offer x (.gate gate) :: .awaitGate gate :: rest))
  | .poolRelease executor count => do
    let (x, _) ← s.poolOf executor
    .ok ((s.openGates ((s.shutGates x).take count)).give me rest .nothing)
  | .poolShutdown executor => do
    let (x, pool) ← s.poolOf executor
    let s := s.openGates (s.shutGates x)
    .ok (s.run me (.shutdown pool .enter :: .reportShutdown pool :: rest))
  | .poolInfo executor countWorkers => do
    let (_, pool) ← s.poolOf executor
    .ok (s.give me rest (.result (s.poolReport pool countWorkers)))
  | .sharedSame =>
    let workers := (s.pools[sharedPool]?.map (·.core.workers.length)).getD 0
    .ok (s.give me rest (.result (.sharedPool true workers)))
  | .outsideRuntime =>
    let inside := (s.threads[me]?.map (·.inRuntime)).getD false
    .ok (s.give me rest (.truth !inside))
  | .runtimeStop executor => do
    let x ← s.executor executor
    match s.executors[x]? with
    | some { kind := .runtime r, .. } =>
      .ok ((s.stopRuntime r).give me rest .nothing)
    | _ => .error executor
  | .listener id kind trigger times actions panic silent =>
    let (o, s) := s.newObserver
      { name := id, kind := kind, trigger := trigger, times := times, actions := actions
        panic := panic, silent := silent }
    .ok ((s.bind id (.listener (.observer o))).give me rest .nothing)
  | .chainListener id chain => do
    let c ← s.chain chain
    .ok ((s.bind id (.listener (.chain c))).give me rest .nothing)
  | .listenerInfo listener => do
    let l ← s.listener listener
    .ok (s.give me rest (s.listenerReport l))
  | .add target listener => do
    let l ← s.listener listener
    let place ← s.place target l
    .ok ((s.addAt place).give me rest .nothing)
  | .remove target listener => do
    let l ← s.listener listener
    let place ← s.place target l
    let (found, s) := s.removeAt place
    .ok (s.give me rest (.truth found))
  | .addCoded transfer id trigger times actions panic silent => do
    let t ← s.transfer transfer
    let (o, s) := s.newObserver
      { name := id, kind := .coded, trigger := trigger, times := times, actions := actions
        panic := panic, silent := silent }
    match s.transfers[t]? with
    | some t =>
      let s := s.updateChain (·.add (.observer o)) (.dispatcher t.dispatcher)
      .ok ((s.bind id (.listener (.observer o))).give me rest .nothing)
    | none => .error transfer
  | .chain id =>
    let (c, s) := s.newChain
    .ok ((s.bind id (.chain c)).give me rest .nothing)
  | .dispatcher id executor => do
    let x ← s.executor executor
    let (d, s) := s.newDispatcher x
    .ok ((s.bind id (.dispatcher d)).give me rest .nothing)
  | .registry id =>
    let (r, s) := s.newRegistry
    .ok ((s.bind id (.registry r)).give me rest .nothing)
  | .fire target event => do
    let activity ← s.firing target event
    .ok (s.run me (activity :: rest))
  | .fireMany target kind first last => do
    let _ ← s.firing target ⟨kind, 0⟩
    .ok (s.run me (.fireMany target kind first last :: rest))
  | .info target => s.inform me rest target
  | .transfer id description direction total executor stateListener => do
    let x ← executor.mapM s.executor
    let o ← stateListener.mapM s.observer
    let (t, s) := s.newTransfer
      { description := description, direction := direction, total := total, executor := x
        stateListener := o }
    .ok ((s.bind id (.transfer t)).give me rest .nothing)
  | .setState transfer state => do
    let t ← s.transfer transfer
    .ok (s.run me (.transition t (.enter (.move state)) :: rest))
  | .notify transfer state none => do
    let t ← s.transfer transfer
    .ok (s.run me (.transition t (.enter (.announce state)) :: .yield .nothing :: rest))
  | .notify transfer state (some registry) => do
    let t ← s.transfer transfer
    let r ← s.registry registry
    .ok (s.run me (.registry (.registry r) t state .start :: rest))
  | .addBytes transfer bytes => do
    let t ← s.transfer transfer
    let s := s.updateTransfer t fun t => { t with progress := t.progress.add bytes }
    .ok (s.run me (.fire t ⟨.byteTransfer, bytes⟩ :: rest))
  | .setTotal transfer total => do
    let t ← s.transfer transfer
    let s := s.updateTransfer t fun t => { t with progress := t.progress.setTotal total }
    .ok (s.give me rest .nothing)
  | .setMonitor transfer monitor => do
    let t ← s.transfer transfer
    let m ← s.monitor monitor
    let s := s.updateTransfer t fun t => { t with monitor := some m }
    .ok (s.give me rest .nothing)
  | .wait transfer kind arming => do
    let t ← s.transfer transfer
    .ok (s.beginWait me rest arming (some kind) (.drive t .attach))
  | .startWait id transfer kind => do
    let t ← s.transfer transfer
    let (thread, s) := s.spawn none [.drive t .attach]
    .ok ((s.bind id (.waiter thread (some kind))).give me rest .nothing)
  | .startUnitWait id unit => do
    let h ← s.handle unit
    let (thread, s) := s.spawn none [.wait h]
    .ok ((s.bind id (.waiter thread none)).give me rest .nothing)
  | .interruptWaiter waiter => do
    let (thread, _) ← s.waiter waiter
    .ok ((s.setToken thread true).give me rest .nothing)
  | .join waiter => do
    let (thread, kind) ← s.waiter waiter
    .ok (s.run me (.join thread kind :: rest))
  | .parallel lanes =>
    let (threads, s) := s.spawnLanes lanes
    .ok (s.run me (.awaitLanes threads :: rest))
  | .loop times steps => .ok (s.run me (.loop times steps :: rest))
  | .interrupt => .ok ((s.setToken me true).give me rest .nothing)
  | .isInterrupted => .ok (s.give me rest (.truth (s.token me)))
  | .takeInterrupt => .ok ((s.setToken me false).give me rest (.truth (s.token me)))
  | .interruptDebug => .ok (s.give me rest (.result (.text (interruptDebug (s.token me)))))
  | .interruptElsewhere own =>
    let s := if own then s else s.setToken mainThread true
    .ok (s.give me rest (.truth own))
  | .unit id succeeded =>
    let (u, s) := s.newUnit
    let s := if succeeded then (s.finishUnit u .success).2 else s
    .ok ((s.bind id (.unit u)).give me rest .nothing)
  | .succeed unit => do
    let u ← s.unit unit
    let (first, s) := s.finishUnit u .success
    .ok (s.give me rest (.truth first))
  | .cancel unit => do
    let u ← s.unit unit
    let (first, s) := s.finishUnit u .cancellation
    .ok (s.give me rest (.truth first))
  | .fail unit cause => do
    let u ← s.unit unit
    let (failure, s) := s.failure cause
    let (first, s) := s.finishUnit u (.failure failure)
    .ok (s.give me rest (.truth first))
  | .unitWait unit arming => do
    let h ← s.handle unit
    .ok (s.beginWait me rest arming none (.wait h))
  | .spawn executor id work => do
    let x ← s.executor executor
    let (u, s) := s.newUnit
    .ok (s.run me (.offer x (.work u work) :: .bindUnit id u :: rest))
  | .fixedHandle id finished answers actions =>
    let (f, s) := s.newFixedHandle
      { name := id, finished := finished, answers := answers, actions := actions }
    .ok ((s.bind id (.handle (.fixed f))).give me rest .nothing)
  | .monitor id unit single => do
    let h ← s.handle unit
    let (m, s) := s.newUnitMonitor h single
    .ok ((s.bind id (.monitor (.units m))).give me rest .nothing)
  | .advance monitor unit => do
    let m ← s.unitMonitor monitor
    let h ← s.handle unit
    .ok (s.run me (.monitor m (.enter (.advance h)) :: rest))
  | .seal monitor => do
    let m ← s.unitMonitor monitor
    .ok (s.run me (.monitor m (.enter .seal) :: rest))
  | .currentHandle monitor id => do
    let m ← s.monitor monitor
    .ok (s.run me (.consult m .currentHandle :: .bindHandle id :: rest))
  | .scriptedMonitor id handles done => do
    let handles ← handles.mapM s.handle
    let (m, s) := s.newScriptedMonitor { name := id, handles := handles, done := done }
    .ok ((s.bind id (.monitor (.scripted m))).give me rest .nothing)
  | .awaitNext monitor arming => do
    let m ← s.monitor monitor
    .ok (s.beginWait me rest arming none (.turn m .fetch))

def begin (s : Session) (me : Nat) (rest : List Activity) (step : Step) : Session :=
  match s.begin? me rest step with
  | .ok s => s
  | .error name => s.give me rest (.result (.unknown name))

end TransferLifecycle.Session
