import TransferLifecycle.Session.Basic

/-! Handles and monitors of a session, and the threads that wait on them. -/
namespace TransferLifecycle.Session

/-- A unit monitor has a gate; that of a single unit is sealed and its gate stands open. -/
def newUnitMonitor (s : Session) (h : Handle) (single : Bool) : Nat × Session :=
  let (gate, s) := s.newUnit
  let s := if single then (s.finishUnit gate .success).2 else s
  (s.monitors.size,
    { s with monitors := s.monitors.push
              { current := h, isSealed := single, gate := .unit gate } })

def unitMonitorDebug (s : Session) (m : UnitMonitor Handle) : String :=
  m.debug (s.handleFinished m.current)

def beginWait (s : Session) (me : Nat) (rest : List Activity) (arming : Arming)
    (kind : Option WaitKind) (activity : Activity) : Session :=
  let s := if arming.armed then s.setToken me true else s
  s.run me (activity :: .settleWait kind arming.keep :: rest)

def await (s : Session) (me : Nat) (rest : List Activity) : Handle → Option Session
  | .unit id =>
    match s.units[id]? with
    | none => none
    | some c =>
      match c.look (s.token me) s.nextAddress with
      | .finished waited next => some ({ s with nextAddress := next }.give me rest (.waited waited))
      | .interrupted => some ((s.setToken me false).give me rest (.waited (.error .interrupted)))
      | .nothing => none
  | .fixed id =>
    match s.fixedHandles[id]? with
    | none => none
    | some h =>
      let s := s.record (.wait h.name h.waits)
      let counted := { h with waits := h.waits + 1 }
      let s := { s with fixedHandles := s.fixedHandles.setIfInBounds id counted }
      let actions := h.actions[h.waits]?.getD []
      some (s.run me (.steps (.actor h.name) actions 0 :: .answerWait id h.waits :: rest))

def answerWait (s : Session) (me : Nat) (rest : List Activity) (id index : Nat) : Session :=
  match (s.fixedHandles[id]?).bind (·.answers[index]?) with
  | some .success => s.give me rest (.waited (.ok ()))
  | some (.failure cause) =>
    let (failure, s) := s.failure cause
    s.give me rest (.waited (.error (.execution failure)))
  | some .interrupted | none => s.give me rest (.waited (.error .interrupted))

/-- A fixed handle that has finished is waited on to learn whether it has failed. -/
def query (s : Session) (me : Nat) (rest : List Activity) : HandleQuery → Handle → Session
  | .isFinished, h => s.give me rest (.truth (s.handleFinished h))
  | .isFailed, .unit id =>
    s.give me rest (.truth ((s.units[id]?.map (·.isFailed)).getD false))
  | .isFailed, .fixed id =>
    if s.handleFinished (.fixed id) then s.run me (.wait (.fixed id) :: .judge :: rest)
    else s.give me rest (.truth false)

def consult (s : Session) (me : Nat) (rest : List Activity) : Monitor → MonitorQuery → Option Session
  | .units id, .currentHandle => some (s.run me (.monitor id (.enter .currentHandle) :: rest))
  | .units id, .isDone => some (s.run me (.monitor id (.enter .isDone) :: rest))
  | .scripted id, .currentHandle => do
    let m ← s.scriptedMonitors[id]?
    let index := min m.fetches (m.handles.length - 1)
    let h ← m.handles[index]?
    let s := s.record (.currentHandle m.name index)
    let m := { m with fetches := m.fetches + 1 }
    return { s with scriptedMonitors := s.scriptedMonitors.setIfInBounds id m }.give me rest
      (.handle h)
  | .scripted id, .isDone => do
    let m ← s.scriptedMonitors[id]?
    let done := m.done[m.inquiries]?.getD true
    let s := s.record (.done m.name done)
    let m := { m with inquiries := m.inquiries + 1 }
    return { s with scriptedMonitors := s.scriptedMonitors.setIfInBounds id m }.give me rest
      (.truth done)

def waitReport (kind : Option WaitKind) : Reply → Option WaitReport
  | .waited result => some (.handle result)
  | .turned result => some (.turn result)
  | .driven result =>
    match kind with
    | some .exception => some (.exception (Wait.exception result))
    | some .completion | none => some (.completion result)
  | _ => none

def monitorReply : UnitMonitor.Result Handle → Reply
  | .nothing => .nothing
  | .truth b => .truth b
  | .handle h => .handle h

def interruptDebug (token : Bool) : String :=
  Text.Value.inline (.record "Interrupt" [("flag", .bool token)])

end TransferLifecycle.Session
