import TransferLifecycle.Proofs.Session.Reentry

/-! The two sides of a session. On the side of the waits stand the units, the handles and the monitors, what
monitor each transfer has, and of every thread its interrupt token and the activities of waits on top of
its stack. Everything else is on the side of the transfers: states, counters, listeners and queues, and the
rest of every stack. -/
namespace TransferLifecycle.Session

/-- An activity of a wait, of an operation on a monitor or of a question about a handle. -/
def Activity.attends : Activity → Bool
  | .wait _ | .answerWait _ _ | .query _ _ | .judge | .openGate _ | .newGate | .monitor _ _ | .consult _ _
  | .turn _ _ | .drive _ _ | .settleWait _ _ | .reportHandle _ | .reportFailed _ | .reportMonitor _ _ => true
  | .steps _ _ _ | .call _ _ | .conclude _ | .chain _ _ _ | .registry _ _ _ _ | .transition _ _ | .fire _ _
  | .dispatch _ _ | .offer _ _ | .submit _ _ _ | .task _ | .hold _ | .contain | .yield _ | .bindUnit _ _
  | .bindHandle _ | .fireMany _ _ _ _ | .loop _ _ | .awaitGate _ | .shutdown _ _ | .reportShutdown _
  | .awaitLanes _ | .join _ _ | .worker _ _ _ | .runtimeWorker _ => false

/-- So does an actor without steps that comes before the answer of its handle. -/
def Activity.attendsOn (below : List Activity) : Activity → Bool
  | .steps (.actor _) [] 0 =>
    match below with
    | .answerWait _ _ :: _ => true
    | _ => false
  | activity => activity.attends

/-- The part of a stack that is on the side of the waits. -/
def front : List Activity → List Activity
  | [] => []
  | activity :: rest => if activity.attendsOn rest then activity :: front rest else []

def back : List Activity → List Activity
  | [] => []
  | activity :: rest => if activity.attendsOn rest then back rest else activity :: rest

structure Attention where
  token : Bool
  front : List Activity
  /-- How it goes on with the front, if it has one. -/
  mode : Option Mode

def attention (token : Bool) (front : List Activity) (mode : Mode) : Attention :=
  ⟨token, front, if front.isEmpty then none else some mode⟩

def Thread.attention (thread : Thread) : Attention :=
  Session.attention thread.token (front thread.stack) thread.mode

/-- The side of the waits. -/
structure WaitSide where
  units : Array Completion
  fixedHandles : Array FixedHandle
  monitors : Array (UnitMonitor Handle)
  scriptedMonitors : Array ScriptedMonitor
  nextAddress : Nat
  attached : Array (Option Monitor)
  attentions : Array Attention

/-- The objects on the side of the transfers. -/
structure TransferSide where
  observers : Array Observer
  chains : Array (ListenerList Listener)
  dispatchers : Array DispatcherObject
  registries : Array (ListenerList Nat)
  transfers : Array Transfer
  executors : Array Executor
  pools : Array PoolObject
  runtimes : Array Runtime
  gates : Array Gate

def attached (s : Session) : Array (Option Monitor) := s.transfers.map (·.monitor)

def attentions (s : Session) : Array Attention := s.threads.map Thread.attention

def backs (s : Session) : Array (List Activity) := s.threads.map fun thread => back thread.stack

def waitSide (s : Session) : WaitSide where
  units := s.units
  fixedHandles := s.fixedHandles
  monitors := s.monitors
  scriptedMonitors := s.scriptedMonitors
  nextAddress := s.nextAddress
  attached := s.attached
  attentions := s.attentions

def transferSide (s : Session) : TransferSide where
  observers := s.observers
  chains := s.chains
  dispatchers := s.dispatchers
  registries := s.registries
  transfers := s.transfers
  executors := s.executors
  pools := s.pools
  runtimes := s.runtimes
  gates := s.gates

/-- Waits stand on top of stacks only. -/
def Layered (s : Session) : Prop := ∀ stack ∈ s.backs, ∀ activity ∈ stack, activity.attends = false

/-! Stacks. -/

private theorem Activity.attendsOn_of_attends {a : Activity} (attends : a.attends = true) (below : List Activity) :
    a.attendsOn below = true := by
  cases a <;> first | exact attends | cases attends

private theorem Activity.attendsOn_eq_false {a : Activity} {below : List Activity} (apart : a.attends = false)
    (others : ∀ activity ∈ below, activity.attends = false) : a.attendsOn below = false := by
  unfold attendsOn
  split
  · split
    · have answers := others _ List.mem_cons_self
      cases answers
    · rfl
  · exact apart

theorem Activity.actor_of_attendsOn {source : Source} {todo : List Step} {taken : Nat}
    {below : List Activity} (attends : (Activity.steps source todo taken).attendsOn below = true) :
    ∃ name, source = .actor name ∧ todo = [] ∧ taken = 0 := by
  unfold attendsOn at attends
  split at attends
  case h_1 name same =>
    cases same
    exact ⟨name, rfl, rfl, rfl⟩
  case h_2 => cases attends

structure Tops (added rest : List Activity) : Prop where
  front : Session.front (added ++ rest) = added ++ Session.front rest
  back : Session.back (added ++ rest) = Session.back rest

def Attends (added : List Activity) : Prop := ∀ rest, Tops added rest

theorem Attends.nil : Attends [] := fun _ => ⟨rfl, rfl⟩

theorem Tops.cons {a : Activity} {added rest : List Activity} (attends : a.attendsOn (added ++ rest) = true)
    (others : Tops added rest) : Tops (a :: added) rest where
  front := by
    rw [List.cons_append, Session.front, if_pos attends, others.front]
    rfl
  back := by rw [List.cons_append, Session.back, if_pos attends, others.back]

theorem Attends.cons {a : Activity} {added : List Activity} (attends : a.attends = true)
    (others : Attends added) : Attends (a :: added) :=
  fun rest => (others rest).cons (a.attendsOn_of_attends attends _)

theorem Attends.actor (name : String) (fixed index : Nat) :
    Attends [.steps (.actor name) [] 0, .answerWait fixed index] :=
  fun _ => ⟨rfl, rfl⟩

theorem front_eq_nil {stack : List Activity} (apart : ∀ activity ∈ stack, activity.attends = false) :
    front stack = [] := by
  cases stack with
  | nil => rfl
  | cons first rest =>
    have off := first.attendsOn_eq_false (apart first List.mem_cons_self)
      fun a member => apart a (List.mem_cons_of_mem _ member)
    rw [front, off, if_neg (by simp)]

theorem back_eq_self {stack : List Activity} (none : front stack = []) : back stack = stack := by
  cases stack with
  | nil => rfl
  | cons first rest =>
    rw [back]
    split
    case isTrue on => simp [front, on] at none
    case isFalse => rfl

/-! Rows of which one entry is changed. -/

theorem map_modify_of {α β : Type} (view : α → β) (change : α → α) (changed : β → β)
    (commutes : ∀ x, view (change x) = changed (view x)) (row : Array α) (place : Nat) :
    (row.modify place change).map view = (row.map view).modify place changed := by
  apply Array.ext
  · simp
  · intro other _ _
    simp only [Array.getElem_map, Array.getElem_modify]
    split
    case isTrue => exact commutes _
    case isFalse => rfl

theorem modify_eq_self {β : Type} {row : Array β} {place : Nat} {change : β → β}
    (same : ∀ x, row[place]? = some x → change x = x) : row.modify place change = row := by
  apply Array.ext
  · simp
  · intro other inside _
    rw [Array.getElem_modify]
    split
    case isTrue here =>
      subst here
      exact same _ (by simp)
    case isFalse => rfl

theorem map_modify_eq {α β : Type} (view : α → β) (change : α → α)
    (keeps : ∀ x, view (change x) = view x) (row : Array α) (place : Nat) :
    (row.modify place change).map view = row.map view := by
  rw [map_modify_of view change id keeps]
  exact modify_eq_self fun _ _ => rfl

section

variable (s : Session)

theorem attentions_put (me : Nat) (stack : List Activity) (mode : Mode) :
    (s.put me stack mode).attentions =
      s.attentions.modify me fun a => attention a.token (front stack) mode :=
  map_modify_of Thread.attention (fun thread => { thread with stack := stack, mode := mode })
    (fun a => attention a.token (front stack) mode) (fun _ => rfl) s.threads me

theorem backs_put (me : Nat) (stack : List Activity) (mode : Mode) :
    (s.put me stack mode).backs = s.backs.modify me fun _ => back stack :=
  map_modify_of (fun thread : Thread => back thread.stack)
    (fun thread => { thread with stack := stack, mode := mode }) (fun _ => back stack) (fun _ => rfl)
    s.threads me

theorem attentions_setToken (me : Nat) (value : Bool) :
    (s.setToken me value).attentions = s.attentions.modify me fun a => { a with token := value } :=
  map_modify_of Thread.attention (fun thread => { thread with token := value })
    (fun a => { a with token := value }) (fun _ => rfl) s.threads me

private theorem sides_modifyThread (me : Nat) (change : Thread → Thread)
    (attention : ∀ thread, (change thread).attention = thread.attention)
    (stack : ∀ thread, (change thread).stack = thread.stack) :
    { s with threads := s.threads.modify me change }.waitSide = s.waitSide ∧
      { s with threads := s.threads.modify me change }.backs = s.backs := by
  have attentions : (s.threads.modify me change).map Thread.attention = s.attentions :=
    map_modify_eq _ change attention s.threads me
  refine ⟨?_, map_modify_eq _ change (fun thread => congrArg Session.back (stack thread)) s.threads me⟩
  rw [waitSide, waitSide, ← attentions]
  rfl

theorem sides_log (me : Nat) (notices : List Notice) :
    (s.log me notices).waitSide = s.waitSide ∧ (s.log me notices).backs = s.backs :=
  s.sides_modifyThread me (fun t => { t with notices := notices.reverse ++ t.notices })
    (fun _ => rfl) (fun _ => rfl)

theorem sides_count (me : Nat) (counted : Bool) :
    { s with threads := s.threads.modify me fun t =>
        { t with trues := if counted then t.trues + 1 else t.trues } }.waitSide = s.waitSide ∧
      { s with threads := s.threads.modify me fun t =>
        { t with trues := if counted then t.trues + 1 else t.trues } }.backs = s.backs :=
  s.sides_modifyThread me (fun t => { t with trues := if counted then t.trues + 1 else t.trues })
    (fun _ => rfl) (fun _ => rfl)

theorem token_eq (me : Nat) : s.token me = (s.attentions[me]?.map (·.token)).getD false := by
  rw [token, attentions, Array.getElem?_map, Option.map_map]
  rfl

end

end TransferLifecycle.Session
