import TransferLifecycle.Proofs.Session.Sides

/-! The operations on the side of the waits. A step of a thread begins one where its names stand for
suitable objects: it makes a unit or finishes one, makes a monitor or attaches it, sets a token, begins a
wait or asks. What it does to the side of the waits depends on nothing of the side of the transfers. All
other steps leave the side of the waits alone. -/
namespace TransferLifecycle.Session

/-- What a wait waits for: the end of a transfer, a handle, or one turn of a monitor. -/
inductive Awaited where
  | transfer (id : Nat)
  | handle (h : Handle)
  | turn (monitor : Monitor)

def Awaited.activity : Awaited → Activity
  | .transfer id => .drive id .attach
  | .handle h => .wait h
  | .turn monitor => .turn monitor .fetch

inductive Operation where
  | threads (count : Nat)
  | transfer
  | attach (transfer : Nat) (monitor : Monitor)
  | token (thread : Nat) (value : Bool)
  | unit (succeeded : Bool)
  | finish (unit : Nat) (outcome : Outcome)
  | fail (unit : Nat) (cause : FaultShape)
  | work (unit : Nat) (work : Work)
  | fixedHandle (handle : FixedHandle)
  | monitor (unit : Handle) (single : Bool)
  | scriptedMonitor (monitor : ScriptedMonitor)
  | wait (awaited : Awaited) (kind : Option WaitKind) (arming : Arming)
  | startWait (awaited : Awaited)
  | operate (monitor : Nat) (operation : UnitMonitor.Operation Handle)
  | currentHandle (monitor : Monitor)
  | askHandle (handle : Handle)
  | askMonitor (monitor : Nat)

def unattending : Attention := attention false [] .running

namespace WaitSide

def begin (w : WaitSide) (attention : Attention) : WaitSide :=
  { w with attentions := w.attentions.push attention }

def setToken (w : WaitSide) (thread : Nat) (value : Bool) : WaitSide :=
  { w with attentions := w.attentions.modify thread fun a => { a with token := value } }

def newUnit (w : WaitSide) : WaitSide := { w with units := w.units.push {} }

def finishUnit (w : WaitSide) (id : Nat) (outcome : Outcome) : WaitSide :=
  match w.units[id]? with
  | some c => { w with units := w.units.setIfInBounds id (c.finish outcome).2 }
  | none => w

def newMonitor (w : WaitSide) (m : UnitMonitor Handle) : WaitSide :=
  { w with monitors := w.monitors.push m }

/-- The unit fails, with its cause at the next addresses. -/
def fail (w : WaitSide) (id : Nat) (cause : FaultShape) : WaitSide :=
  { w with nextAddress := (cause.failure w.nextAddress).2 }.finishUnit id
    (.failure (cause.failure w.nextAddress).1)

def attend (w : WaitSide) (me : Nat) (frames : List Activity) : WaitSide :=
  { w with attentions := w.attentions.modify me fun a => attention a.token frames .running }

def monitorDebug (w : WaitSide) (m : UnitMonitor Handle) : String :=
  ({ units := w.units, fixedHandles := w.fixedHandles } : Session).unitMonitorDebug m

end WaitSide

namespace Operation

/-- What an operation of a thread does at once to the side of the waits. -/
def apply (me : Nat) (w : WaitSide) : Operation → WaitSide
  | .threads count => (List.replicate count unattending).foldl WaitSide.begin w
  | .transfer => { w with attached := w.attached.push none }
  | .attach t m => { w with attached := w.attached.modify t fun _ => some m }
  | .token thread value => w.setToken thread value
  | .unit false => w.newUnit
  | .unit true => w.newUnit.finishUnit w.units.size .success
  | .finish id outcome => w.finishUnit id outcome
  | .fail id cause => w.fail id cause
  | .work id .succeed => w.finishUnit id .success
  | .work id (.fail cause) => w.fail id cause
  | .work id (.panic _) => w.fail id (.transfer (.client "unit of work panicked" none))
  | .fixedHandle handle => { w with fixedHandles := w.fixedHandles.push handle }
  | .monitor h false => w.newUnit.newMonitor { current := h, gate := .unit w.units.size }
  | .monitor h true =>
    (w.newUnit.finishUnit w.units.size .success).newMonitor
      { current := h, isSealed := true, gate := .unit w.units.size }
  | .scriptedMonitor m => { w with scriptedMonitors := w.scriptedMonitors.push m }
  | .wait _ _ arming => if arming.armed then w.setToken me true else w
  | .startWait awaited => w.begin (attention false [awaited.activity] .running)
  | .operate _ _ | .currentHandle _ | .askHandle _ | .askMonitor _ => w

def frames (w : WaitSide) : Operation → List Activity
  | .wait awaited kind arming => [awaited.activity, .settleWait kind arming.keep]
  | .operate id operation => [.monitor id (.enter operation)]
  | .currentHandle m => [.consult m .currentHandle]
  | .askHandle h => [.query .isFinished h, .reportHandle h]
  | .askMonitor id =>
    match w.monitors[id]? with
    | some m => [.monitor id (.enter .isDone), .reportMonitor id (w.monitorDebug m)]
    | none => []
  | .threads _ | .transfer | .attach _ _ | .token _ _ | .unit _ | .finish _ _ | .fail _ _ | .work _ _
  | .fixedHandle _ | .monitor _ _ | .scriptedMonitor _ | .startWait _ => []

/-- The operation is a wait, begun here or on a thread of its own. -/
def waits : Operation → Bool
  | .wait _ _ _ | .startWait _ => true
  | _ => false

theorem attends_frames (w : WaitSide) (operation : Operation) : Attends (operation.frames w) := by
  cases operation with
  | wait awaited kind arming => exact .cons (by cases awaited <;> rfl) (.cons rfl .nil)
  | operate | currentHandle => exact .cons rfl .nil
  | askHandle h => exact .cons rfl (.cons rfl .nil)
  | askMonitor id =>
    simp only [frames]
    split
    · exact .cons rfl (.cons rfl .nil)
    · exact .nil
  | _ => exact .nil

end Operation

def operation? (s : Session) (me : Nat) : Step → Option Operation
  | .executor _ (.pool settings) => some (.threads settings.workerCount)
  | .executor _ .runtime => some (.threads 1)
  | .parallel lanes => some (.threads lanes.length)
  | .transfer _ _ _ _ executor stateListener => do
    let _ ← (executor.mapM s.executor).toOption
    let _ ← (stateListener.mapM s.observer).toOption
    return .transfer
  | .setMonitor transfer monitor => do
    return .attach (← (s.transfer transfer).toOption) (← (s.monitor monitor).toOption)
  | .wait transfer kind arming => do
    return .wait (.transfer (← (s.transfer transfer).toOption)) (some kind) arming
  | .unitWait unit arming => do return .wait (.handle (← (s.handle unit).toOption)) none arming
  | .awaitNext monitor arming => do return .wait (.turn (← (s.monitor monitor).toOption)) none arming
  | .startWait _ transfer _ => do return .startWait (.transfer (← (s.transfer transfer).toOption))
  | .startUnitWait _ unit => do return .startWait (.handle (← (s.handle unit).toOption))
  | .interruptWaiter waiter => do return .token (← (s.waiter waiter).toOption).1 true
  | .interrupt => some (.token me true)
  | .takeInterrupt => some (.token me false)
  | .interruptElsewhere false => some (.token mainThread true)
  | .unit _ succeeded => some (.unit succeeded)
  | .succeed unit => do return .finish (← (s.unit unit).toOption) .success
  | .cancel unit => do return .finish (← (s.unit unit).toOption) .cancellation
  | .fail unit cause => do return .fail (← (s.unit unit).toOption) cause
  | .spawn executor _ _ => do
    let _ ← (s.executor executor).toOption
    return .unit false
  | .fixedHandle id finished answers actions => some (.fixedHandle ⟨id, finished, answers, actions, 0⟩)
  | .monitor _ unit single => do return .monitor (← (s.handle unit).toOption) single
  | .scriptedMonitor id handles done => do
    return .scriptedMonitor ⟨id, ← (handles.mapM s.handle).toOption, done, 0, 0⟩
  | .advance monitor unit => do
    return .operate (← (s.unitMonitor monitor).toOption) (.advance (← (s.handle unit).toOption))
  | .seal monitor => do return .operate (← (s.unitMonitor monitor).toOption) .seal
  | .currentHandle monitor _ => do return .currentHandle (← (s.monitor monitor).toOption)
  | .info target =>
    match s.object? target with
    | some (.handle h) => some (.askHandle h)
    | some (.monitor (.units id)) => if (s.monitors[id]?).isSome then some (.askMonitor id) else none
    | _ => none
  | _ => none

def effect (me : Nat) (operation : Option Operation) (w : WaitSide) : WaitSide :=
  operation.elim w (·.apply me w)

def added (operation : Option Operation) (w : WaitSide) : List Activity := operation.elim [] (·.frames w)

/-- The operation has been begun, if there is one, and nothing else has come to the side of the waits. -/
structure Beside (s : Session) (me : Nat) (operation : Option Operation) (m : Session) : Prop where
  side : m.waitSide = effect me operation s.waitSide
  layered : s.Layered → m.Layered

/-- And the thread attends to it, on top of what is on the side of the transfers. -/
def Leads (s : Session) (me : Nat) (rest : List Activity) (operation : Option Operation) (t : Session) :
    Prop :=
  ∃ m others mode, Beside s me operation m ∧ (∀ activity ∈ others, activity.attends = false) ∧
    (added operation s.waitSide = [] ∨ mode = .running) ∧
    t = m.put me (added operation s.waitSide ++ (others ++ rest)) mode

section

variable {s m n t : Session} {me : Nat} {rest : List Activity} {operation : Option Operation}

theorem Beside.refl (s : Session) (me : Nat) : Beside s me none s := ⟨rfl, id⟩

theorem Beside.of_side (side : m.waitSide = effect me operation s.waitSide) (backs : m.backs = s.backs) :
    Beside s me operation m where
  side := side
  layered layered := by rwa [Layered, backs]

theorem Beside.trans (first : Beside s me none m) (second : Beside m me operation n) :
    Beside s me operation n where
  side := second.side.trans (congrArg (effect me operation) first.side)
  layered := second.layered ∘ first.layered

theorem Beside.also (first : Beside s me operation m) (second : Beside m me none n) :
    Beside s me operation n where
  side := second.side.trans first.side
  layered := second.layered ∘ first.layered

theorem Beside.bind (beside : Beside s me operation m) (name : String) (object : Object) :
    Beside s me operation (m.bind name object) :=
  beside.also ⟨rfl, id⟩

theorem Leads.give (beside : Beside s me operation m) (nothing : added operation s.waitSide = [])
    (reply : Reply) : Leads s me rest operation (m.give me rest reply) :=
  ⟨m, [], _, beside, List.forall_mem_nil _, Or.inl nothing, by rw [nothing]; rfl⟩

theorem Leads.raise (beside : Beside s me operation m) (nothing : added operation s.waitSide = [])
    (panic : String) : Leads s me rest operation (m.raise me rest panic) :=
  ⟨m, [], _, beside, List.forall_mem_nil _, Or.inl nothing, by rw [nothing]; rfl⟩

theorem Leads.run (beside : Beside s me operation m) (others : List Activity)
    (apart : ∀ activity ∈ others, activity.attends = false) :
    Leads s me rest operation (m.run me (added operation s.waitSide ++ (others ++ rest))) :=
  ⟨m, others, .running, beside, apart, Or.inr rfl, rfl⟩

theorem Leads.follow {point question result : Type} {frame : point → Activity}
    {asked : question → Activity} {reply : result → Reply} {next : Next point question result}
    (beside : Beside s me none m) (goto : ∀ p, (frame p).attends = false)
    (ask : ∀ q, (asked q).attends = false)
    (followed : m.follow me rest frame asked reply next = some t) : Leads s me rest none t := by
  cases next with
  | goto p =>
    cases Option.some.inj followed
    exact .run beside [frame p] (by simp [goto])
  | ask q p =>
    cases Option.some.inj followed
    exact .run beside [asked q, frame p] (by simp [goto, ask])
  | done r =>
    cases Option.some.inj followed
    exact .give beside rfl _
  | blocked => cases followed

end

end TransferLifecycle.Session
