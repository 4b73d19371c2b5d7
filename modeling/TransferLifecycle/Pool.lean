import TransferLifecycle.Fault
import TransferLifecycle.Notice
import TransferLifecycle.Operation

/-! A pool of workers with one bounded queue. Submissions share a lock that the start of a
shutdown takes alone, so no task can be queued behind a stop signal; a shutdown queues one
signal for each worker and waits for all of them, and the tasks queued before still run. -/
namespace TransferLifecycle

structure PoolSettings where
  /-- Zero asks for a worker for every processor. -/
  workers : Nat := 1
  /-- Room in the queue for each worker. -/
  capacity : Nat := 10000
  threadName : String := "ferry-callback"
  /-- As many as the host has, and one at least. -/
  processors : Nat := 1

def PoolSettings.workerCount (settings : PoolSettings) : Nat :=
  if settings.workers = 0 then max 1 settings.processors else settings.workers

theorem PoolSettings.workerCount_pos (settings : PoolSettings) : 0 < settings.workerCount := by
  unfold workerCount
  split <;> omega

/-- Room in the queue for all workers. The product is a word, and wraps. -/
def PoolSettings.room (settings : PoolSettings) : Nat :=
  (UInt64.ofNat settings.capacity * UInt64.ofNat settings.workerCount).toNat

inductive Job (τ : Type) where
  | run (task : τ)
  | stop

structure Worker where
  executed : UInt64 := 0
  panicked : UInt64 := 0
  exited : Bool := false

structure Pool (τ : Type) where
  threadName : String
  capacity : Nat
  workers : List Worker
  queue : List (Job τ) := []
  submitting : Nat := 0
  /-- Set while a shutdown starts. -/
  exclusive : Bool := false
  shuttingDown : Bool := false

namespace Pool

variable {τ : Type}

def new (settings : PoolSettings) : Pool τ where
  threadName := settings.threadName
  capacity := settings.room
  workers := List.replicate settings.workerCount {}

def total (p : Pool τ) (count : Worker → UInt64) : UInt64 := p.workers.foldl (fun n w => n + count w) 0

def tasks (p : Pool τ) : UInt64 := p.total Worker.executed

def panics (p : Pool τ) : UInt64 := p.total Worker.panicked

def debug (p : Pool τ) : String :=
  Text.Value.inline (.record "CallbackPool"
    [("num_workers", .nat p.workers.length), ("shutting_down", .bool p.shuttingDown)])

def updateWorker (p : Pool τ) (id : Nat) (change : Worker → Worker) : Pool τ :=
  { p with workers := p.workers.modify id change }

inductive Submit where
  | enter
  | check
  | send
  | leave (result : Except Refusal Unit)

def Submit.step (task : τ) (p : Pool τ) : Submit → Pool τ × Next Submit Empty (Except Refusal Unit)
  | .enter =>
    if p.exclusive then (p, .blocked) else ({ p with submitting := p.submitting + 1 }, .goto .check)
  | .check => (p, .goto (if p.shuttingDown then .leave (.error .shuttingDown) else .send))
  | .send =>
    if p.queue.length < p.capacity then
      ({ p with queue := p.queue ++ [.run task] }, .goto (.leave (.ok ())))
    else (p, .goto (.leave (.error .queueFull)))
  | .leave result => ({ p with submitting := p.submitting - 1 }, .done result)

inductive Shutdown where
  | enter
  | mark
  | leave (first : Bool)
  | begin
  | signal (left : Nat)
  | join (id : Nat)

def Shutdown.step (p : Pool τ) : Shutdown → Pool τ × List Notice × Next Shutdown Empty Unit
  | .enter =>
    if p.exclusive || p.submitting != 0 then (p, [], .blocked)
    else ({ p with exclusive := true }, [], .goto .mark)
  | .mark => ({ p with shuttingDown := true }, [], .goto (.leave (!p.shuttingDown)))
  | .leave first => ({ p with exclusive := false }, [], if first then .goto .begin else .done ())
  | .begin => (p, [.poolStopping p.workers.length], .goto (.signal p.workers.length))
  | .signal 0 => (p, [], .goto (.join 0))
  | .signal (left + 1) =>
    if p.queue.length < p.capacity then
      ({ p with queue := p.queue ++ [.stop] }, [], .goto (.signal left))
    else (p, [], .blocked)
  | .join id =>
    match p.workers[id]? with
    | none => (p, [.poolStopped], .done ())
    | some worker => if worker.exited then (p, [], .goto (.join (id + 1))) else (p, [], .blocked)

inductive Loop where
  | start
  | receive
  | running
  | contain
  | count
  | signalled
  | exit

def Loop.step (id : Nat) (p : Pool τ) : Loop → Pool τ × List Notice × Next Loop τ Unit
  | .start => (p, [.workerStarted id], .goto .receive)
  | .receive =>
    match p.queue with
    | .run task :: rest => ({ p with queue := rest }, [], .ask task .running)
    | .stop :: rest => ({ p with queue := rest }, [], .goto .signalled)
    | [] => (p, [], .blocked)
  | .running => (p, [], .blocked)
  | .contain =>
    (p.updateWorker id fun w => { w with panicked := w.panicked + 1 }, [.workerContained id], .goto .count)
  | .count => (p.updateWorker id fun w => { w with executed := w.executed + 1 }, [], .goto .receive)
  | .signalled => (p, [.workerSignalled id], .goto .exit)
  | .exit =>
    (p.updateWorker id fun w => { w with exited := true },
      [.workerExiting id ((p.workers[id]?.map Worker.executed).getD 0).toNat], .done ())

/-- A task that has run is counted, one that panicked twice over. -/
def Loop.resume (panicked : Bool) : Loop → Loop
  | .running => if panicked then .contain else .count
  | p => p

end Pool

end TransferLifecycle
