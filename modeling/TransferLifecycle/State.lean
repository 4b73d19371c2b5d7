/-! The six states of a transfer and its direction. Three states are terminal: a transfer
that has reached one of them stays there. -/
namespace TransferLifecycle

inductive State where
  | waiting | inProgress | partiallyCompleted | completed | failed | canceled
  deriving DecidableEq, Repr

namespace State

def isTerminal : State → Bool
  | completed | failed | canceled => true
  | waiting | inProgress | partiallyCompleted => false

def name : State → String
  | waiting => "Waiting"
  | inProgress => "InProgress"
  | partiallyCompleted => "PartiallyCompleted"
  | completed => "Completed"
  | failed => "Failed"
  | canceled => "Canceled"

/-- The number under which a cell stores the state. -/
def tag : State → Nat
  | waiting => 0
  | inProgress => 1
  | partiallyCompleted => 2
  | completed => 3
  | failed => 4
  | canceled => 5

def all : List State := [waiting, inProgress, partiallyCompleted, completed, failed, canceled]

def ofName? (text : String) : Option State := all.find? fun s => s.name == text

end State

inductive Direction where
  | upload | download
  deriving DecidableEq, Repr

def Direction.name : Direction → String
  | .upload => "upload"
  | .download => "download"

/-- The direction as it stands in a written record. -/
def Direction.constructorName : Direction → String
  | .upload => "Upload"
  | .download => "Download"

/-- A cell that any thread may read, write or exchange in one indivisible step. -/
structure StateCell where
  state : State := .waiting

namespace StateCell

def store (_ : StateCell) (s : State) : StateCell := ⟨s⟩

def swap (cell : StateCell) (s : State) : State × StateCell := (cell.state, ⟨s⟩)

def debug (cell : StateCell) : String := "AtomicTransferState(" ++ toString cell.state.tag ++ ")"

end StateCell

end TransferLifecycle
