import TransferLifecycle.Fault

/-! What unwrapping a failed execution keeps. A transfer error comes out as it went in; any other error is
quoted once and referred to, and what hides inside a wrapper does not count. No text of the failure is lost on
the way and none but the heading is added, however deep the failure is nested. -/
namespace TransferLifecycle

@[simp] theorem SharedFault.message_fault (shared : SharedFault) :
    shared.fault.message = shared.message := by
  cases shared
  simp [fault, message]

@[simp] theorem SharedFault.chain_fault (shared : SharedFault) : shared.fault.chain = shared.chain := by
  cases shared
  simp [fault, chain]

def Fault.texts (fault : Fault) : List String := fault.message :: fault.chain

def Fault.IsTransferError (fault : Fault) : Prop := ∃ error, fault = .transfer error

def executionText (text : String) : Nat → String
  | 0 => text
  | layers + 1 => "execution failed: " ++ executionText text layers

/-- An error with a number of failed executions around it, each referring to an object of its own. -/
inductive Fault.Wraps (core : Fault) : Nat → Fault → Prop where
  | bare : Wraps core 0 core
  | wrap {layers inner} (address : Nat) (inside : Wraps core layers inner) :
    Wraps core (layers + 1) (.execution (.mk address inner))

private theorem TransferError.chain_eq_cause (error : TransferError) :
    error.chain = (error.cause.map (·.fault.texts)).getD [] := by
  cases error with
  | client message cause => cases cause <;> simp [chain, cause, Fault.texts]
  | service | canceled => simp [chain, cause]

private theorem Fault.chain_eq_source (fault : Fault) :
    fault.chain = (fault.source.map (·.fault.texts)).getD [] := by
  cases fault with
  | transfer error | waitTransfer error => simp [chain, source, error.chain_eq_cause]
  | foreign message origin => cases origin <;> simp [chain, source, texts]
  | execution cause | handleExecution cause => simp [chain, source, texts]
  | handleInterrupted | waitInterrupted | interrupted | refusal => simp [chain, source]

private theorem Fault.texts_congr {first second : Fault} (message : first.message = second.message)
    (source : first.source = second.source) : first.texts = second.texts := by
  rw [texts, texts, message, chain_eq_source, chain_eq_source, source]

namespace Fault.Wraps

variable {core fault : Fault} {layers : Nat}

private theorem message_eq (wraps : Wraps core layers fault) : fault.message = executionText core.message layers := by
  induction wraps with
  | bare => rfl
  | wrap address inside ih => exact congrArg ("execution failed: " ++ ·) ih

private theorem chain_eq (wraps : Wraps core layers fault) :
    fault.chain = (List.range layers).reverse.map (executionText core.message) ++ core.chain := by
  induction wraps with
  | bare => simp
  | wrap address inside ih =>
    rw [chain_eq_source]
    simp [source, texts, SharedFault.fault, inside.message_eq, ih, List.range_succ]

private theorem of_layered (core : Fault) (next layers : Nat) : Wraps core layers (layered next core layers).1 := by
  induction layers with
  | zero => exact .bare
  | succ layers ih => exact .wrap _ ih

end Fault.Wraps

namespace ExecutionFailure

variable (failure : ExecutionFailure)

private theorem unwrap_of_transfer {error : TransferError} (same : failure.cause.fault = .transfer error) :
    failure.unwrap = error := by
  simp [unwrap, same, Fault.transferError?]

private theorem unwrap_of_foreign (foreign : ¬ failure.cause.fault.IsTransferError) :
    failure.unwrap = .client (unwrapHeading ++ failure.cause.fault.message) (some failure.cause) := by
  have none : failure.cause.fault.transferError? = none := by
    cases same : failure.cause.fault with
    | transfer error => exact absurd ⟨error, same⟩ foreign
    | _ => rfl
  simp [unwrap, none]

private theorem chain_toFault : failure.toFault.chain = failure.cause.fault.texts := by
  rw [Fault.chain_eq_source]
  rfl

/-- What unwrapping keeps of the error inside a failure. -/
structure Lossless : Prop where
  kept : ∀ error, failure.cause.fault = .transfer error →
    failure.unwrap = error ∧ (Fault.transfer failure.unwrap).texts = failure.toFault.chain
  /-- Any other error is quoted and referred to. -/
  quoted : ¬ failure.cause.fault.IsTransferError →
    failure.unwrap = .client (unwrapHeading ++ failure.cause.fault.message) (some failure.cause) ∧
      (Fault.transfer failure.unwrap).chain = failure.toFault.chain ∧
      failure.toFault.chain = failure.cause.fault.message :: failure.cause.fault.chain
  /-- What hides inside a wrapper does not count. -/
  hidden : (∃ cause, failure.cause.fault = .execution cause ∨ failure.cause.fault = .handleExecution cause) ∨
      (∃ error, failure.cause.fault = .waitTransfer error) →
    failure.unwrap = .client (unwrapHeading ++ failure.cause.fault.message) (some failure.cause)
  settled : ∀ address, (ExecutionFailure.mk (.mk address (.transfer failure.unwrap))).unwrap = failure.unwrap
  /-- However deep an error is nested, it is quoted once, by the text of the failure around it. -/
  nested : ∀ core layers, 1 ≤ layers → Fault.Wraps core (layers + 1) failure.toFault →
    failure.unwrap.message = unwrapHeading ++ executionText core.message layers ∧
      failure.unwrap.cause = some failure.cause ∧
      failure.unwrap.chain =
        (List.range layers).reverse.map (fun inner => executionText core.message (inner + 1)) ++
          core.message :: core.chain
  built : ∀ core next layers address, failure.cause = .mk address (Fault.layered next core layers).1 →
    Fault.Wraps core (layers + 1) failure.toFault
  rethrown : ∀ α : Type, failure.rethrow (α := α) = .error failure.unwrap
  /-- The wrappers of handles and waits show what is inside them. -/
  handle : (HandleError.execution failure).toFault.texts = failure.toFault.texts ∧
    HandleError.interrupted.toFault.texts = Fault.interrupted.texts
  wait : (∀ error, (WaitError.transfer error).toFault.texts = (Fault.transfer error).texts) ∧
    WaitError.interrupted.toFault.texts = Fault.interrupted.texts

variable {failure}

private theorem nested_of_wraps {core : Fault} {layers : Nat} (deep : 1 ≤ layers)
    (wraps : Fault.Wraps core (layers + 1) failure.toFault) :
    ¬ failure.cause.fault.IsTransferError ∧
      failure.cause.fault.message = executionText core.message layers ∧
      failure.cause.fault.chain =
        (List.range layers).reverse.map (executionText core.message) ++ core.chain := by
  obtain ⟨cause⟩ := failure
  cases wraps with
  | wrap address inside =>
    refine ⟨?_, inside.message_eq, inside.chain_eq⟩
    cases inside with
    | bare => omega
    | wrap => exact nofun

private theorem texts_eq_cons (text : String) (layers : Nat) (chain : List String) :
    executionText text layers :: ((List.range layers).reverse.map (executionText text) ++ chain) =
      (List.range layers).reverse.map (fun inner => executionText text (inner + 1)) ++ text :: chain := by
  induction layers with
  | zero => rfl
  | succ layers ih => simpa [List.range_succ] using ih

/-- However an error is nested, unwrapping loses nothing of it and invents nothing. -/
theorem unwrap_lossless : failure.Lossless where
  kept error same := by
    rw [failure.unwrap_of_transfer same, failure.chain_toFault, same]
    exact ⟨rfl, rfl⟩
  quoted foreign := by
    refine ⟨failure.unwrap_of_foreign foreign, ?_, failure.chain_toFault⟩
    rw [failure.unwrap_of_foreign foreign, failure.chain_toFault, Fault.chain_eq_source]
    rfl
  hidden wrapped := by
    refine failure.unwrap_of_foreign ?_
    rintro ⟨error, transfer⟩
    rw [transfer] at wrapped
    obtain ⟨cause, same | same⟩ | ⟨inner, same⟩ := wrapped <;> cases same
  settled address := unwrap_of_transfer _ rfl
  nested core layers deep wraps := by
    obtain ⟨foreign, message, chain⟩ := nested_of_wraps deep wraps
    rw [failure.unwrap_of_foreign foreign, TransferError.chain_eq_cause, message]
    refine ⟨rfl, rfl, ?_⟩
    rw [← texts_eq_cons, ← message, ← chain]
    rfl
  built core next layers address same := by
    rw [toFault, same]
    exact .wrap address (.of_layered core next layers)
  rethrown _ := rfl
  handle := ⟨Fault.texts_congr rfl rfl, Fault.texts_congr rfl rfl⟩
  wait := ⟨fun _ => Fault.texts_congr rfl rfl, Fault.texts_congr rfl rfl⟩

end ExecutionFailure

end TransferLifecycle
