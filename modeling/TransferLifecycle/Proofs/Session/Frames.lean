import TransferLifecycle.Proofs.Transition.Turn
import TransferLifecycle.Session.Run

/-! What a session does apart from turns and stacks. Objects are made and changed, calls recorded
and threads begun without anybody taking a turn or giving one back, and without touching the stack
of a thread. -/
namespace TransferLifecycle.Session

/-- The stack of a thread; that of a thread that has ended, or was never begun, is empty. -/
def frames (s : Session) (thread : Nat) : List Activity := ((s.threads[thread]?).map (·.stack)).getD []

def turnOf (s : Session) (transfer : Nat) : Option Nat :=
  (s.transfers[transfer]?).bind (·.lifecycle.turn)

@[simp] def Activity.inside : Activity → Bool
  | .transition _ point => point.inside
  | _ => false

/-- Turns stay where they are, and so do stacks, but that an empty one may be filled with activities
that have no turn. -/
structure Calm (s m : Session) : Prop where
  turn : ∀ transfer, m.turnOf transfer = s.turnOf transfer
  frames : ∀ thread, m.frames thread = s.frames thread ∨
    s.frames thread = [] ∧ ∀ activity ∈ m.frames thread, activity.inside = false

namespace Calm

variable {s m n : Session}

theorem refl (s : Session) : Calm s s := ⟨fun _ => rfl, fun _ => Or.inl rfl⟩

theorem trans (first : Calm s m) (second : Calm m n) : Calm s n where
  turn transfer := (second.turn transfer).trans (first.turn transfer)
  frames thread := by
    obtain kept | ⟨empty, fresh⟩ := second.frames thread
    · rw [kept]
      exact first.frames thread
    · obtain same | ⟨empty, -⟩ := first.frames thread
      · exact Or.inr ⟨same ▸ empty, fresh⟩
      · exact Or.inr ⟨empty, fresh⟩

theorem of_rows (threads : m.threads = s.threads) (transfers : m.transfers = s.transfers) : Calm s m where
  turn transfer := by rw [turnOf, transfers, turnOf]
  frames thread := Or.inl (by rw [Session.frames, threads, Session.frames])

theorem bind (calm : Calm s m) (name : String) (object : Object) : Calm s (m.bind name object) :=
  calm.trans (of_rows rfl rfl)

end Calm

variable (s : Session)

theorem calm_modifyThread (me : Nat) (change : Thread → Thread)
    (keeps : ∀ thread, (change thread).stack = thread.stack) :
    Calm s { s with threads := s.threads.modify me change } where
  turn _ := rfl
  frames thread := by
    left
    simp only [frames, Array.getElem?_modify]
    split <;> simp [Function.comp_def, keeps]

theorem calm_modifyTransfer (id : Nat) (change : Transfer → Transfer)
    (keeps : ∀ transfer, (change transfer).lifecycle.turn = transfer.lifecycle.turn) :
    Calm s { s with transfers := s.transfers.modify id change } where
  turn transfer := by
    simp only [turnOf, Array.getElem?_modify]
    cases s.transfers[transfer]? <;> split <;> simp [keeps]
  frames _ := Or.inl rfl

theorem calm_begun (new : Thread) (fresh : ∀ activity ∈ new.stack, activity.inside = false) :
    Calm s { s with threads := s.threads.push new } where
  turn _ := rfl
  frames thread := by
    simp only [frames, Array.getElem?_push]
    split
    case isTrue atEnd => exact Or.inr ⟨by simp [atEnd], fresh⟩
    case isFalse => exact Or.inl rfl

theorem calm_log (me : Nat) (notices : List Notice) : Calm s (s.log me notices) :=
  s.calm_modifyThread me _ fun _ => rfl

theorem calm_setToken (me : Nat) (value : Bool) : Calm s (s.setToken me value) :=
  s.calm_modifyThread me _ fun _ => rfl

theorem calm_updateChain (change : ListenerList Listener → ListenerList Listener) (chain : ChainRef) :
    Calm s (s.updateChain change chain) := by
  cases chain <;> exact .of_rows rfl rfl

theorem calm_updateRegistry (change : ListenerList Nat → ListenerList Nat) (registry : RegistryRef) :
    Calm s (s.updateRegistry change registry) := by
  cases registry with
  | registry id => exact .of_rows rfl rfl
  | transfer id => exact s.calm_modifyTransfer id _ fun _ => rfl

theorem calm_addAt (place : Place) : Calm s (s.addAt place) := by
  cases place with
  | chain chain l => exact s.calm_updateChain _ chain
  | registry registry o => exact s.calm_updateRegistry _ registry

theorem calm_removeAt (place : Place) : Calm s (s.removeAt place).2 := by
  cases place with
  | chain chain l => exact s.calm_updateChain _ chain
  | registry registry o => exact s.calm_updateRegistry _ registry

theorem calm_finishUnit (id : Nat) (outcome : Outcome) : Calm s (s.finishUnit id outcome).2 := by
  unfold finishUnit
  split <;> exact .of_rows rfl rfl

theorem calm_newTransfer (settings : Settings Nat Nat) : Calm s (s.newTransfer settings).2 where
  turn transfer := by
    simp only [turnOf, newTransfer, newDispatcher, Array.getElem?_push]
    split
    case isTrue atEnd => simp [atEnd]
    case isFalse => rfl
  frames _ := Or.inl rfl

theorem calm_newUnitMonitor (h : Handle) (single : Bool) : Calm s (s.newUnitMonitor h single).2 := by
  have made : Calm s s.newUnit.2 := .of_rows rfl rfl
  unfold newUnitMonitor
  cases single with
  | false => exact made.trans (.of_rows rfl rfl)
  | true => exact (made.trans (s.newUnit.2.calm_finishUnit _ .success)).trans (.of_rows rfl rfl)

theorem Calm.foldl {β γ : Type} {step : γ × Session → β → γ × Session}
    (calm : ∀ before item, Calm before.2 (step before item).2) (items : List β) (before : γ × Session) :
    Calm before.2 (items.foldl step before).2 := by
  induction items generalizing before with
  | nil => exact .refl before.2
  | cons item rest ih => exact (calm before item).trans (ih (step before item))

theorem calm_newPool (settings : PoolSettings) : Calm s (s.newPool settings).2 := by
  refine (Calm.foldl ?started (List.range settings.workerCount) ([], s)).trans (.of_rows rfl rfl)
  intro before id
  exact before.2.calm_begun _ (by simp)

theorem calm_spawnLanes (lanes : List (List Step)) : Calm s (s.spawnLanes lanes).2 := by
  refine Calm.foldl ?started lanes ([], s)
  intro before lane
  exact before.2.calm_begun _ (by simp)

private theorem calm_newRuntime : Calm s s.newRuntime.2 := by
  have begun := s.calm_begun
    { name := some "tokio-rt-worker", stack := [.runtimeWorker s.runtimes.size], inRuntime := true }
    (by simp)
  exact begun.trans (.of_rows rfl rfl)

theorem calm_prepare (me : Nat) (plan : ExecutorPlan) : Calm s (s.prepare me plan).2 := by
  cases plan with
  | pool settings => exact (s.calm_log me _).trans (calm_newPool _ settings)
  | runtime => exact s.calm_newRuntime
  | scripted | sameThread | sharedPool => exact .refl s

theorem calm_openGates (gates : List Nat) : Calm s (s.openGates gates) := by
  induction gates generalizing s with
  | nil => exact .refl s
  | cons gate rest ih =>
    have opened : Calm s (s.openGate gate) := .of_rows rfl rfl
    exact opened.trans (ih (s.openGate gate))

theorem calm_workOutcome (work : Work) : Calm s (s.workOutcome work).2 := by
  cases work <;> exact .of_rows rfl rfl

end TransferLifecycle.Session
