import TransferLifecycle.Session.Basic

/-! Listeners of a session: where they stand, what fires on them, and what an observer does when
it is called. -/
namespace TransferLifecycle.Session

/-- Where a listener stands once added: state listeners in registries, all others in chains. -/
inductive Place where
  | chain (chain : ChainRef) (listener : Listener)
  | registry (registry : RegistryRef) (observer : Nat)

def stateObserver? (s : Session) : Listener → Option Nat
  | .observer id =>
    match s.observers[id]? with
    | some { kind := .state, .. } => some id
    | _ => none
  | .chain _ => none

def place (s : Session) (target : String) (l : Listener) : Except String Place :=
  match s.object? target, s.stateObserver? l with
  | some (.chain id), none => .ok (.chain (.chain id) l)
  | some (.dispatcher id), none => .ok (.chain (.dispatcher id) l)
  | some (.registry id), some o => .ok (.registry (.registry id) o)
  | some (.transfer id), some o => .ok (.registry (.transfer id) o)
  | some (.transfer id), none =>
    match s.transfers[id]? with
    | some t => .ok (.chain (.dispatcher t.dispatcher) l)
    | none => .error target
  | _, _ => .error target

def addAt (s : Session) : Place → Session
  | .chain chain l => s.updateChain (·.add l) chain
  | .registry registry o => s.updateRegistry (·.add o) registry

def removeAt (s : Session) : Place → Bool × Session
  | .chain chain l =>
    let found := ((s.chainOf chain).map fun list => (list.remove l).1).getD false
    (found, s.updateChain (fun list => (list.remove l).2) chain)
  | .registry registry o =>
    let found := ((s.registryOf registry).map fun list => (list.remove o).1).getD false
    (found, s.updateRegistry (fun list => (list.remove o).2) registry)

/-- What has been counted of the calls of a listener; of a chain used as one, nothing is. -/
def listenerReport (s : Session) : Listener → Reply
  | .observer id =>
    match s.observers[id]? with
    | some o => .result (.listener o.calls o.bytes)
    | none => .nothing
  | .chain _ => .result (.listener 0 0)

def bring (event : Event) : Listener → Activity
  | .observer id => .call id (.event event)
  | .chain id => .chain (.chain id) event .start

def firing (s : Session) (target : String) (event : Event) : Except String Activity :=
  match s.object? target with
  | some (.chain id) => .ok (.chain (.chain id) event .start)
  | some (.listener l) => .ok (bring event l)
  | some (.dispatcher id) => .ok (.dispatch id (.arrive event))
  | some (.transfer id) => .ok (.fire id event)
  | _ => .error target

def triggerWord (o : Observer) : Stimulus → String
  | .event event =>
    match o.kind with
    | .coded => toString event.kind.code
    | .progress | .state => event.kind.name
  | .state _ state => state.name

def recordedCall (s : Session) (o : Observer) : Stimulus → Call
  | .event event =>
    match o.kind with
    | .coded => .coded o.name (CodedEvent.ofEvent event)
    | .progress | .state => .event o.name event
  | .state transfer state =>
    match s.transfers[transfer]? with
    | some t => .state o.name state t.lifecycle.description t.lifecycle.state
    | none => .state o.name state "" state

def Stimulus.bytes : Stimulus → UInt64
  | .event e => e.bytes
  | .state _ _ => 0

/-- An observer counts a call, records it, and acts if its trigger and its allowance say so. -/
def call (s : Session) (me : Nat) (rest : List Activity) (id : Nat) (stimulus : Stimulus) :
    Option Session :=
  match s.observers[id]? with
  | none => some (s.give me rest .nothing)
  | some o =>
    let hit := match o.trigger with
      | some word => word == triggerWord o stimulus
      | none => true
    let counted := { o with
      calls := o.calls + 1, bytes := o.bytes + stimulus.bytes
      reached := if hit then o.reached + 1 else o.reached }
    let recorded := if o.silent then s else s.record (s.recordedCall o stimulus)
    let s := { recorded with observers := s.observers.setIfInBounds id counted }
    if hit && o.reached < o.times then
      some (s.run me (.steps (.listener o.name) o.actions 0 :: .conclude o.panic :: rest))
    else some (s.give me rest .nothing)

end TransferLifecycle.Session
