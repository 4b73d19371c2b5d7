import TransferLifecycle.Event
import TransferLifecycle.Fault
import TransferLifecycle.ListenerList
import TransferLifecycle.Notice
import TransferLifecycle.Operation

/-! Delivery of progress events. A producer queues its event and, if no emptying of the queue
is under way, claims one and offers it to an executor. Whoever holds the claim takes events
until the queue is empty, gives the claim up, and claims again if an event slipped in. A
refused producer empties the queue itself: it delivers when the executor was full, and
discards, now and for ever, once the executor is shutting down. -/
namespace TransferLifecycle

structure Dispatcher (α : Type) where
  chain : ListenerList α := {}
  queue : List Event := []
  /-- Set while an emptying is scheduled or under way. -/
  scheduled : Bool := false
  /-- Set once the executor has reported that it is shutting down. -/
  closed : Bool := false
  delivered : UInt64 := 0
  rejected : UInt64 := 0
  dropped : UInt64 := 0

namespace Dispatcher

variable {α : Type}

def pending (d : Dispatcher α) : Nat := d.queue.length

def debug (d : Dispatcher α) : String :=
  Text.Value.inline (.record "ProgressDispatcher" [("listeners", .nat d.chain.length),
    ("pending", .nat d.pending), ("delivered", .nat d.delivered.toNat),
    ("dropped", .nat d.dropped.toNat)])

end Dispatcher

namespace Dispatch

variable {α : Type}

/-- What an emptying does with the events it takes. -/
inductive Fate where
  | deliver | discard
  deriving DecidableEq, Repr

/-- Where a firing or an emptying stands. -/
inductive Point where
  | arrive (event : Event)
  | check (event : Event)
  | turnAway
  | push (event : Event)
  | claim
  | offered
  | overflow
  | announceInline
  | close
  | announceClosed
  | countRefusal
  | take (fate : Fate)
  | inHand (fate : Fate) (event : Event)
  | reached
  | count (fate : Fate)
  | release (fate : Fate)
  | recheck (fate : Fate)
  | reclaim (fate : Fate)
  | finished
  deriving DecidableEq, Repr

inductive Question where
  /-- Will the executor take an emptying that delivers? -/
  | offer
  /-- Has the event gone through the whole chain? -/
  | deliver (event : Event)
  deriving DecidableEq, Repr

inductive Answer where
  | accepted
  | refused (reason : Refusal)
  | delivered
  deriving DecidableEq, Repr

/-- An event is counted only after it has been dealt with. -/
def step (d : Dispatcher α) : Point → Dispatcher α × List Notice × Next Point Question Unit
  | .arrive event => (d, [], if d.chain.isEmpty then .done () else .goto (.check event))
  | .check event => (d, [], .goto (if d.closed then .turnAway else .push event))
  | .turnAway => ({ d with dropped := d.dropped + 1 }, [], .done ())
  | .push event => ({ d with queue := d.queue ++ [event] }, [], .goto .claim)
  | .claim =>
    if d.scheduled then (d, [], .done ())
    else ({ d with scheduled := true }, [], .ask .offer .offered)
  | .offered => (d, [], .blocked)
  | .overflow => ({ d with rejected := d.rejected + 1 }, [], .goto .announceInline)
  | .announceInline => (d, [.deliveringInline], .goto (.take .deliver))
  | .close => ({ d with closed := true }, [], .goto (if d.closed then .countRefusal else .announceClosed))
  | .announceClosed => (d, [.droppingEvents], .goto .countRefusal)
  | .countRefusal => ({ d with rejected := d.rejected + 1 }, [], .goto (.take .discard))
  | .take fate =>
    match d.queue with
    | event :: rest => ({ d with queue := rest }, [], .goto (.inHand fate event))
    | [] => (d, [], .goto (.release fate))
  | .inHand .deliver event => (d, [], .ask (.deliver event) .reached)
  | .inHand .discard _ => (d, [], .goto (.count .discard))
  | .reached => (d, [], .blocked)
  | .count .deliver => ({ d with delivered := d.delivered + 1 }, [], .goto (.take .deliver))
  | .count .discard => ({ d with dropped := d.dropped + 1 }, [], .goto (.take .discard))
  | .release fate => ({ d with scheduled := false }, [], .goto (.recheck fate))
  | .recheck fate => (d, [], if d.queue.isEmpty then .done () else .goto (.reclaim fate))
  | .reclaim fate =>
    if d.scheduled then (d, [], .done ())
    else ({ d with scheduled := true }, [], .goto (.take fate))
  | .finished => (d, [], .done ())

def resume : Point → Answer → Point
  | .offered, .accepted => .finished
  | .offered, .refused .queueFull => .overflow
  | .offered, .refused .shuttingDown => .close
  | .reached, .delivered => .count .deliver
  | p, _ => p

end Dispatch

end TransferLifecycle
