import TransferLifecycle.Text.Record

/-! Errors and what is known about each: its text, its written form, the error it came from,
and which object it is. An error that others refer to carries an address, so that two equal
errors can be told apart. -/
namespace TransferLifecycle

inductive Refusal where
  | queueFull | shuttingDown
  deriving DecidableEq, Repr

def Refusal.message : Refusal → String
  | .queueFull => "Task queue is full"
  | .shuttingDown => "Executor is shutting down"

def Refusal.name : Refusal → String
  | .queueFull => "QueueFull"
  | .shuttingDown => "ShuttingDown"

mutual
/-- What a transfer reports: a failure of this process, one of the remote service, or a
cancellation. -/
inductive TransferError where
  | client (message : String) (cause : Option SharedFault)
  | service (message code : String) (status : UInt16) (requestId : Option String)
  | canceled

/-- Any error. The wrappers of handles and waits show the error inside them. -/
inductive Fault where
  | transfer (error : TransferError)
  | foreign (message : String) (source : Option SharedFault)
  | execution (cause : SharedFault)
  | handleExecution (cause : SharedFault)
  | handleInterrupted
  | waitTransfer (error : TransferError)
  | waitInterrupted
  | interrupted
  | refusal (reason : Refusal)

/-- An error together with the address of the object that holds it. -/
inductive SharedFault where
  | mk (address : Nat) (fault : Fault)
end

instance : Inhabited TransferError := ⟨.canceled⟩
instance : Inhabited Fault := ⟨.interrupted⟩

def SharedFault.address : SharedFault → Nat
  | .mk address _ => address

def SharedFault.fault : SharedFault → Fault
  | .mk _ fault => fault

structure ExecutionFailure where
  cause : SharedFault

inductive HandleError where
  | execution (failure : ExecutionFailure)
  | interrupted

inductive WaitError where
  | transfer (error : TransferError)
  | interrupted

def interruptedMessage : String := "interrupted while waiting for transfer"

namespace TransferError

def noMonitor : TransferError := .client "transfer has no monitor attached" none

def message : TransferError → String
  | client message _ => message
  | service message code status _ =>
    message ++ " (service code: " ++ code ++ ", status: " ++ toString status ++ ")"
  | canceled => "transfer canceled"

def isService : TransferError → Bool
  | service .. => true
  | client .. | canceled => false

def isClient (e : TransferError) : Bool := !e.isService

def isCanceled : TransferError → Bool
  | canceled => true
  | client .. | service .. => false

def cause : TransferError → Option SharedFault
  | client _ cause => cause
  | service .. | canceled => none

end TransferError

def ExecutionFailure.toFault (failure : ExecutionFailure) : Fault := .execution failure.cause

def HandleError.toFault : HandleError → Fault
  | .execution failure => .handleExecution failure.cause
  | .interrupted => .handleInterrupted

def WaitError.toFault : WaitError → Fault
  | .transfer error => .waitTransfer error
  | .interrupted => .waitInterrupted

mutual
def Fault.message : Fault → String
  | .transfer error => error.message
  | .foreign message _ => message
  | .execution cause => "execution failed: " ++ cause.message
  | .handleExecution cause => "execution failed: " ++ cause.message
  | .waitTransfer error => error.message
  | .handleInterrupted | .waitInterrupted | .interrupted => interruptedMessage
  | .refusal reason => reason.message

def SharedFault.message : SharedFault → String
  | .mk _ fault => fault.message
end

/-- The error from which one came. A failed execution came from its cause; the wrappers of
handles and waits come from whatever the error inside them came from. -/
def Fault.source : Fault → Option SharedFault
  | .transfer error => error.cause
  | .foreign _ source => source
  | .execution cause => some cause
  | .handleExecution cause => some cause
  | .waitTransfer error => error.cause
  | .handleInterrupted | .waitInterrupted | .interrupted | .refusal _ => none

mutual
/-- Texts met on the way from an error to its last source, itself left out. -/
def TransferError.chain : TransferError → List String
  | .client _ (some cause) => cause.message :: cause.chain
  | .client _ none | .service .. | .canceled => []

def Fault.chain : Fault → List String
  | .transfer error => error.chain
  | .foreign _ (some source) => source.message :: source.chain
  | .execution cause => cause.message :: cause.chain
  | .handleExecution cause => cause.message :: cause.chain
  | .waitTransfer error => error.chain
  | .foreign _ none | .handleInterrupted | .waitInterrupted | .interrupted | .refusal _ => []

def SharedFault.chain : SharedFault → List String
  | .mk _ fault => fault.chain
end

open Text (Value)

mutual
def TransferError.value : TransferError → Value
  | .client message (some cause) =>
    .record "Client" [("message", .string message), ("source", .option (some cause.value))]
  | .client message none =>
    .record "Client" [("message", .string message), ("source", .option none)]
  | .service message code status requestId =>
    .record "Service" [("message", .string message), ("code", .string code),
      ("status", .nat status.toNat), ("request_id", .option (requestId.map .string))]
  | .canceled => .word "Canceled"

def Fault.value : Fault → Value
  | .transfer error => error.value
  | .foreign message _ => .tuple "Foreign" [.string message]
  | .execution cause => .record "ExecutionFailure" [("cause", cause.value)]
  | .handleExecution cause =>
    .tuple "Execution" [.record "ExecutionFailure" [("cause", cause.value)]]
  | .waitTransfer error => .tuple "Transfer" [error.value]
  | .handleInterrupted | .waitInterrupted => .tuple "Interrupted" [.word "Interrupted"]
  | .interrupted => .word "Interrupted"
  | .refusal reason => .word reason.name

def SharedFault.value : SharedFault → Value
  | .mk _ fault => fault.value
end

def Fault.debug (fault : Fault) : String := fault.value.inline

/-- Only an error that is itself a transfer error counts as one; a hidden one is foreign. -/
def Fault.transferError? : Fault → Option TransferError
  | .transfer error => some error
  | _ => none

def unwrapHeading : String := "Unable to complete transfer: "

/-- The transfer error behind a failed execution: its cause unchanged where that is one
already, otherwise a client error that quotes the cause and refers to it. -/
def ExecutionFailure.unwrap (failure : ExecutionFailure) : TransferError :=
  match failure.cause.fault.transferError? with
  | some error => error
  | none => .client (unwrapHeading ++ failure.cause.message) (some failure.cause)

def ExecutionFailure.rethrow (failure : ExecutionFailure) {α : Type} : Except TransferError α :=
  .error failure.unwrap

def WaitError.transferError? : WaitError → Option TransferError
  | .transfer error => some error
  | .interrupted => none

/-! Errors are first described without addresses and then put into objects, the innermost
first. -/

mutual
inductive TransferErrorShape where
  | client (message : String) (source : Option FaultShape)
  | service (message code : String) (status : UInt16) (requestId : Option String)
  | canceled
  | noMonitor

inductive FaultShape where
  | transfer (error : TransferErrorShape)
  | foreign (message : String) (source : Option FaultShape)
  | execution (cause : FaultShape) (layers : Nat)
  | handleExecution (cause : FaultShape)
  | handleInterrupted
  | waitTransfer (error : TransferErrorShape)
  | waitInterrupted
  | interrupted
  | refusal (reason : Refusal)
end

def SharedFault.allocate (fault : Fault) (next : Nat) : SharedFault × Nat := (.mk next fault, next + 1)

def Fault.layered (next : Nat) (fault : Fault) : Nat → Fault × Nat
  | 0 => (fault, next)
  | n + 1 =>
    let (inner, next) := Fault.layered next fault n
    let (cause, next) := SharedFault.allocate inner next
    (.execution cause, next)

mutual
def TransferErrorShape.build (next : Nat) : TransferErrorShape → TransferError × Nat
  | .client message none => (.client message none, next)
  | .client message (some source) =>
    let (fault, next) := source.build next
    let (cause, next) := SharedFault.allocate fault next
    (.client message (some cause), next)
  | .service message code status requestId => (.service message code status requestId, next)
  | .canceled => (.canceled, next)
  | .noMonitor => (.noMonitor, next)

def FaultShape.build (next : Nat) : FaultShape → Fault × Nat
  | .transfer error =>
    let (error, next) := error.build next
    (.transfer error, next)
  | .foreign message none => (.foreign message none, next)
  | .foreign message (some source) =>
    let (fault, next) := source.build next
    let (source, next) := SharedFault.allocate fault next
    (.foreign message (some source), next)
  | .execution cause layers =>
    let (fault, next) := cause.build next
    Fault.layered next fault layers
  | .handleExecution cause =>
    let (fault, next) := cause.build next
    let (cause, next) := SharedFault.allocate fault next
    (.handleExecution cause, next)
  | .waitTransfer error =>
    let (error, next) := error.build next
    (.waitTransfer error, next)
  | .handleInterrupted => (.handleInterrupted, next)
  | .waitInterrupted => (.waitInterrupted, next)
  | .interrupted => (.interrupted, next)
  | .refusal reason => (.refusal reason, next)
end

def FaultShape.failure (shape : FaultShape) (next : Nat) : ExecutionFailure × Nat :=
  let (fault, next) := shape.build next
  let (cause, next) := SharedFault.allocate fault next
  (⟨cause⟩, next)

end TransferLifecycle
