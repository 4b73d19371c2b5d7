import TransferLifecycle.Event

/-! The log. Each notice is an event of the library's own; its line begins with its level. -/
namespace TransferLifecycle

inductive Notice where
  | moved (transfer : String) (old new : State)
  | moveIgnored (transfer : String) (old new : State)
  | progressFired (transfer : String) (event : Event)
  | listenerPanicked (index : Nat) (kind : EventKind)
  | deliveringInline
  | droppingEvents
  | unitIgnored
  | inlineTaskPanicked
  | poolCreated (workers capacity : Nat)
  | poolStopping (workers : Nat)
  | poolStopped
  | workerStarted (id : Nat)
  | workerContained (id : Nat)
  | workerSignalled (id : Nat)
  | workerExiting (id executed : Nat)
  deriving DecidableEq, Repr

def Notice.line : Notice → String
  | .moved transfer old new =>
    "DEBUG Transfer '" ++ transfer ++ "' state " ++ old.name ++ " -> " ++ new.name
  | .moveIgnored transfer old new =>
    "DEBUG Transfer '" ++ transfer ++ "' ignoring " ++ old.name ++ " -> " ++ new.name ++
      ": already terminal"
  | .progressFired transfer event =>
    "TRACE Transfer '" ++ transfer ++ "' progress event " ++ event.kind.name ++ " (" ++
      toString event.bytes ++ " bytes)"
  | .listenerPanicked index kind =>
    "WARN Progress listener " ++ toString index ++ " panicked handling " ++ kind.name
  | .deliveringInline => "WARN Executor queue full, delivering progress events inline"
  | .droppingEvents => "WARN Executor shut down, dropping further progress events"
  | .unitIgnored => "WARN Ignoring new unit for a sealed transfer monitor"
  | .inlineTaskPanicked => "WARN Inline callback task panicked"
  | .poolCreated workers capacity =>
    "INFO Creating callback pool with " ++ toString workers ++ " workers (queue capacity: " ++
      toString capacity ++ ")"
  | .poolStopping workers =>
    "INFO Shutting down callback pool with " ++ toString workers ++ " workers"
  | .poolStopped => "INFO Callback pool shutdown complete"
  | .workerStarted id => "DEBUG Callback worker " ++ toString id ++ " starting"
  | .workerContained id => "WARN Callback worker " ++ toString id ++ " contained a panicking task"
  | .workerSignalled id => "DEBUG Callback worker " ++ toString id ++ " received shutdown signal"
  | .workerExiting id executed =>
    "DEBUG Callback worker " ++ toString id ++ " exiting (executed " ++ toString executed ++
      " tasks)"

end TransferLifecycle
