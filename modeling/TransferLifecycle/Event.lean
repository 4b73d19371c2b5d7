import TransferLifecycle.State
import TransferLifecycle.Text.Record

/-! Progress events. An event names what happened and how many bytes moved; older listeners
see the kind as a numeric code. Entering some states is itself an event. -/
namespace TransferLifecycle

inductive EventKind where
  | byteTransfer | preparing | started | completed | failed | canceled | reset
  | partStarted | partCompleted | partFailed
  deriving DecidableEq, Repr

namespace EventKind

def name : EventKind → String
  | byteTransfer => "ByteTransfer"
  | preparing => "Preparing"
  | started => "Started"
  | completed => "Completed"
  | failed => "Failed"
  | canceled => "Canceled"
  | reset => "Reset"
  | partStarted => "PartStarted"
  | partCompleted => "PartCompleted"
  | partFailed => "PartFailed"

def code : EventKind → Nat
  | byteTransfer => 0
  | started => 1
  | completed => 2
  | failed => 4
  | canceled => 8
  | reset => 16
  | preparing => 32
  | partStarted => 1024
  | partCompleted => 2048
  | partFailed => 4096

def all : List EventKind :=
  [byteTransfer, preparing, started, completed, failed, canceled, reset, partStarted,
    partCompleted, partFailed]

def ofName? (text : String) : Option EventKind := all.find? fun k => k.name == text

end EventKind

structure Event where
  kind : EventKind
  bytes : UInt64
  deriving DecidableEq, Repr

namespace Event

def lifecycle (kind : EventKind) : Event := ⟨kind, 0⟩

def debug (event : Event) : String :=
  Text.Value.inline (.record "ProgressEvent"
    [("event_type", .word event.kind.name), ("bytes", .nat event.bytes.toNat)])

end Event

/-- The shape in which older listeners see an event. -/
structure CodedEvent where
  code : Nat
  bytes : UInt64
  deriving DecidableEq, Repr

namespace CodedEvent

def ofEvent (event : Event) : CodedEvent := ⟨event.kind.code, event.bytes⟩

def debug (event : CodedEvent) : String :=
  Text.Value.inline (.record "LegacyProgressEvent"
    [("event_code", .nat event.code), ("bytes_transferred", .nat event.bytes.toNat)])

end CodedEvent

/-- The event that announces entry into a state. -/
def State.entryEvent : State → Option EventKind
  | .inProgress => some .started
  | .completed => some .completed
  | .failed => some .failed
  | .canceled => some .canceled
  | .waiting | .partiallyCompleted => none

end TransferLifecycle
