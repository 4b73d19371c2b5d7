import TransferLifecycle.ListenerList
import TransferLifecycle.Notice
import TransferLifecycle.Operation

/-! A pass over a listener list. It takes a snapshot, calls the entries of the snapshot in
order, and gives the snapshot back; what happens to the list meanwhile does not concern it. The
panic of a listener either ends the pass or is contained, in which case a warning is logged and
the pass goes on. -/
namespace TransferLifecycle.Pass

variable {α : Type}

inductive Point where
  | start
  /-- The entries before `index` have been called. -/
  | visit (snapshot : Snapshot) (index : Nat)
  deriving DecidableEq, Repr

def step (l : ListenerList α) : Point → ListenerList α × Next Point α Unit
  | .start =>
    let (snapshot, l) := l.snapshot
    (l, .goto (.visit snapshot 0))
  | .visit snapshot index =>
    match (l.view snapshot)[index]? with
    | some listener => (l, .ask listener (.visit snapshot (index + 1)))
    | none => (l.release snapshot, .done ())

/-- A pass that ends early gives its snapshot back as well. -/
def abandon (l : ListenerList α) : Point → ListenerList α
  | .start => l
  | .visit snapshot _ => l.release snapshot

def Point.last : Point → Nat
  | .start => 0
  | .visit _ index => index - 1

/-- What is logged when the listener called last has panicked and the pass goes on. -/
def contain (kind : EventKind) (p : Point) : List Notice := [.listenerPanicked p.last kind]

end TransferLifecycle.Pass
