import TransferLifecycle.Session.Waiting

/-! What a session tells about its objects. -/
namespace TransferLifecycle.Session

def transferReport? (s : Session) (id : Nat) : Option TransferReport := do
  let t ← s.transfers[id]?
  let d ← s.dispatchers[t.dispatcher]?
  return { description := t.lifecycle.description
           direction := t.direction
           state := t.lifecycle.state
           progress := ProgressReport.of t.progress
           pending := d.core.pending
           dropped := d.core.dropped.toNat
           hasMonitor := t.monitor.isSome }

def inform (s : Session) (me : Nat) (rest : List Activity) (target : String) :
    Except String Session :=
  let tell (result : Result) : Except String Session := .ok (s.give me rest (.result result))
  match s.object? target with
  | some (.chain id) =>
    match s.chains[id]? with
    | some list => tell (.list list.length (Text.Value.inline
        (.record "ProgressListenerChain" [("listeners", .word list.debug)])))
    | none => .error target
  | some (.registry id) =>
    match s.registries[id]? with
    | some list => tell (.list list.length (Text.Value.inline
        (.record "StateListenerRegistry" [("listeners", .word list.debug)])))
    | none => .error target
  | some (.dispatcher id) =>
    match s.dispatchers[id]? with
    | some { core := d, .. } =>
      tell (.dispatcher ⟨d.chain.length, d.pending, d.delivered.toNat, d.rejected.toNat, d.dropped.toNat,
        d.debug⟩)
    | none => .error target
  | some (.transfer id) =>
    match s.transferReport? id with
    | some report => tell (.transfer report)
    | none => .error target
  | some (.unit id) =>
    match s.units[id]? with
    | some c => tell (.unit c.isFinished c.isFailed c.isCanceled)
    | none => .error target
  | some (.handle h) => .ok (s.run me (.query .isFinished h :: .reportHandle h :: rest))
  | some (.monitor (.units id)) =>
    match s.monitors[id]? with
    | some m =>
      .ok (s.run me
        (.monitor id (.enter .isDone) :: .reportMonitor id (s.unitMonitorDebug m) :: rest))
    | none => .error target
  | _ => .error target

end TransferLifecycle.Session
