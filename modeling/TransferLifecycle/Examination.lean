import TransferLifecycle.Fault

/-! What becomes of an error when a unit of work fails with it: the failure around it, the
transfer error that unwrapping yields, and the wait that ends with that. -/
namespace TransferLifecycle

structure FaultText where
  message : String
  debug : String
  chain : List String

def Fault.text (fault : Fault) : FaultText := ⟨fault.message, fault.debug, fault.chain⟩

/-- Which object the cause of an unwrapped failure is. -/
inductive CauseIdentity where
  | none | failureCause | innerSource | other
  deriving DecidableEq, Repr

def CauseIdentity.name : CauseIdentity → String
  | none => "none"
  | failureCause => "failure_cause"
  | innerSource => "inner_source"
  | other => "other"

/-- The recorded cause of the error that a unit failed with, where that is a transfer error. -/
def ExecutionFailure.innerSource (failure : ExecutionFailure) : Option SharedFault :=
  failure.cause.fault.transferError?.bind TransferError.cause

def ExecutionFailure.causeIdentity (failure : ExecutionFailure) : CauseIdentity :=
  match failure.unwrap.cause.map SharedFault.address with
  | .none => .none
  | some address =>
    if address = failure.cause.address then .failureCause
    else if failure.innerSource.map SharedFault.address = some address then .innerSource
    else .other

structure Examination where
  error : FaultText
  failure : FaultText
  handle : HandleError
  unwrapped : TransferError
  causeIdentity : CauseIdentity
  rethrown : String
  wait : WaitError

/-- A bare interruption is waited for as an interruption, every other error as a failure. -/
def FaultShape.waitError (shape : FaultShape) (unwrapped : TransferError) : WaitError :=
  match shape with
  | .interrupted => .interrupted
  | _ => .transfer unwrapped

def FaultShape.examine (shape : FaultShape) : Examination :=
  let (failure, _) := shape.failure 0
  { error := failure.cause.fault.text
    failure := failure.toFault.text
    handle := .execution failure
    unwrapped := failure.unwrap
    causeIdentity := failure.causeIdentity
    rethrown := failure.unwrap.message
    wait := shape.waitError failure.unwrap }

end TransferLifecycle
