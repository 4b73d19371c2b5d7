import TransferLifecycle.State
import TransferLifecycle.Text.Record

/-! What a transfer is made from. An executor and a state listener are shown only as being
there or not. -/
namespace TransferLifecycle

structure Settings (ε ω : Type) where
  description : String := ""
  direction : Direction := .upload
  total : Option UInt64 := none
  /-- Delivers the progress events; the shared pool does where none is given. -/
  executor : Option ε := none
  /-- Registered before anyone else can see the transfer. -/
  stateListener : Option ω := none

namespace Settings

variable {ε ω : Type}

def value (s : Settings ε ω) : Text.Value :=
  .record "TransferConfig" [("description", .string s.description),
    ("direction", .word s.direction.constructorName),
    ("total_bytes", .option (s.total.map fun total => .nat total.toNat)),
    ("executor", .bool s.executor.isSome), ("state_listener", .bool s.stateListener.isSome)]

def debug (s : Settings ε ω) : String := s.value.inline

def pretty (s : Settings ε ω) : String := s.value.spread ""

end Settings

end TransferLifecycle
