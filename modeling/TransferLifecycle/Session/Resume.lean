import TransferLifecycle.Session.Inform

/-! The move of a thread whose topmost activity is given a reply, or meets a panic. -/
namespace TransferLifecycle.Session

def stepTaken (s : Session) (me : Nat) (rest : List Activity) (todo : List Step) (taken : Nat)
    (result : Result) : Source → Session
  | .main => s.give me rest (.result result)
  | .listener name =>
    (s.record (.act name (taken - 1) result)).run me (.steps (.listener name) todo taken :: rest)
  | .actor name => (s.record (.did name result)).run me (.steps (.actor name) todo taken :: rest)
  | .loop => s.run me (.steps .loop todo taken :: rest)
  | .lane =>
    let isTrue := match result with
      | .truth b => b
      | _ => false
    let s := { s with threads := s.threads.modify me fun t =>
      { t with trues := if isTrue then t.trues + 1 else t.trues } }
    s.run me (.steps .lane todo taken :: rest)

def dispatchAnswer : Reply → Dispatch.Answer
  | .accepted => .accepted
  | .refused reason => .refused reason
  | _ => .delivered

def monitorAnswer : Reply → UnitMonitor.Answer Handle
  | .truth b => .truth b
  | .handle h => .gate h
  | _ => .opened

def turnAnswer : Reply → Option (Wait.Turn.Answer Handle)
  | .handle h => some (.handle h)
  | .waited result => some (.waited result)
  | .truth b => some (.done b)
  | _ => none

def isFailureReply : Reply → Bool
  | .waited (.error (.execution _)) => true
  | _ => false

def resume (s : Session) (me : Nat) (rest : List Activity) (reply : Reply) :
    Activity → Option Session
  | .steps source todo taken => some (s.stepTaken me rest todo taken reply.toResult source)
  | .transition transfer point =>
    some (s.run me (.transition transfer (Transition.resume point) :: rest))
  | .dispatch dispatcher point =>
    some (s.run me (.dispatch dispatcher (Dispatch.resume point (dispatchAnswer reply)) :: rest))
  | .contain => some (s.give me rest .accepted)
  | .judge => some (s.give me rest (.truth (isFailureReply reply)))
  | .monitor monitor point =>
    some (s.run me (.monitor monitor (UnitMonitor.resume point (monitorAnswer reply)) :: rest))
  | .turn monitor point => do
    let answer ← turnAnswer reply
    return s.run me (.turn monitor (point.resume answer) :: rest)
  | .drive transfer point =>
    match reply with
    | .turned result => some (s.run me (.drive transfer (point.resume result) :: rest))
    | _ => none
  | .yield reply => some (s.give me rest reply)
  | .settleWait kind keep => do
    let report ← waitReport kind reply
    let flag := s.token me
    let s := if keep then s else s.setToken me false
    return s.give me rest (.result (.waited report flag))
  | .bindUnit name unit =>
    match reply with
    | .accepted => some ((s.bind name (.unit unit)).give me rest .accepted)
    | _ => some (s.give me rest reply)
  | .bindHandle name =>
    match reply with
    | .handle h => some ((s.bind name (.handle h)).give me rest .nothing)
    | _ => some (s.give me rest reply)
  | .reportHandle h =>
    match reply with
    | .truth finished => some (s.run me (.query .isFailed h :: .reportFailed finished :: rest))
    | _ => none
  | .reportFailed finished =>
    match reply with
    | .truth failed => some (s.give me rest (.result (.handle finished failed)))
    | _ => none
  | .reportMonitor monitor before =>
    match s.monitors[monitor]?, reply with
    | some m, .truth done =>
      some (s.give me rest (.result (.monitor ⟨m.isSealed, before, done, s.unitMonitorDebug m⟩)))
    | _, _ => none
  | .awaitGate gate =>
    match reply with
    | .accepted => some (s.run me (.awaitGate gate :: rest))
    | _ => some (s.give me rest reply)
  | .worker pool id point => some (s.run me (.worker pool id (point.resume false) :: rest))
  | activity => some (s.run me (activity :: rest))

/-- Lets a panic through an activity, or stops it there. -/
def unwind (s : Session) (me : Nat) (rest : List Activity) (panic : String) : Activity → Session
  | .steps .main _ _ => s.give me rest (.result (.panicked panic))
  | .steps .lane todo taken => s.run me (.steps .lane todo taken :: rest)
  | .chain chain event point =>
    (s.log me (Pass.contain event.kind point)).run me
      (.chain chain event point :: rest)
  | .registry registry _ _ point => (s.updateRegistry (Pass.abandon · point) registry).raise me rest panic
  | .transition transfer point =>
    match s.transfers[transfer]? with
    | some t => (s.setLifecycle transfer (Transition.abandon t.lifecycle point)).raise me rest panic
    | none => s.raise me rest panic
  | .monitor monitor point =>
    match s.monitors[monitor]? with
    | some m => (s.setMonitor monitor (m.abandon point)).raise me rest panic
    | none => s.raise me rest panic
  | .contain => (s.log me [.inlineTaskPanicked]).give me rest .accepted
  | .worker pool id point => s.run me (.worker pool id (point.resume true) :: rest)
  | .runtimeWorker runtime => s.run me (.runtimeWorker runtime :: rest)
  | _ => s.raise me rest panic

end TransferLifecycle.Session
