import TransferLifecycle.Proofs.Relaying.Machine

/-! The course of an event through nested chains. Each pass brings the event to the entries that its chain
had when the pass reached it, in their order, and to each of them once; what an inner pass records stands
between what its outer pass records before and after it. A panic is followed by one warning, from the pass
that made the call, with the place of the listener in the snapshot of that pass. -/
namespace TransferLifecycle.Relay

variable {α : Type}

inductive Entry.Shows (event : Event) : Entry α → α → Shown → Prop where
  | listener {listener} : Shows event (.listener listener) listener (.event event)
  | coded {listener} : Shows event (.coded listener) listener (.coded ⟨event.kind.code, event.bytes⟩)

/-- What a pass over a chain records of the entries before an index, in their order, with the entries that
it found in the chain. -/
inductive Relays (event : Event) : Nat → List (Entry α) → Nat → List (Record α) → Prop where
  | entered {chain entries} : Relays event chain entries 0 [.entered chain entries]
  | returned {chain entries index trace entry listener shown} (before : Relays event chain entries index trace)
      (here : entries[index]? = some entry) (shows : entry.Shows event listener shown) :
    Relays event chain entries (index + 1) (trace ++ [.called listener shown, .ended false])
  | panicked {chain entries index trace entry listener shown} (before : Relays event chain entries index trace)
      (here : entries[index]? = some entry) (shows : entry.Shows event listener shown) :
    Relays event chain entries (index + 1)
      (trace ++ [.called listener shown, .ended true, .warned chain (.listenerPanicked index event.kind)])
  | nested {chain entries index trace inner innerEntries within} (before : Relays event chain entries index trace)
      (here : entries[index]? = some (.chain inner))
      (through : Relays event inner innerEntries innerEntries.length within) :
    Relays event chain entries (index + 1) (trace ++ within)

/-- What has been recorded so far of a pass over a chain that is under way. -/
inductive Relaying (event : Event) : Nat → List (Record α) → Prop where
  | reached {chain} : Relaying event chain []
  | between {chain entries index trace} (relays : Relays event chain entries index trace) :
    Relaying event chain trace
  | calling {chain entries index trace entry listener shown} (relays : Relays event chain entries index trace)
      (here : entries[index]? = some entry) (shows : entry.Shows event listener shown) :
    Relaying event chain (trace ++ [.called listener shown])
  | unwinding {chain entries index trace entry listener shown} (relays : Relays event chain entries index trace)
      (here : entries[index]? = some entry) (shows : entry.Shows event listener shown) :
    Relaying event chain (trace ++ [.called listener shown, .ended true])
  | inside {chain entries index trace inner within} (relays : Relays event chain entries index trace)
      (here : entries[index]? = some (.chain inner)) (relaying : Relaying event inner within) :
    Relaying event chain (trace ++ within)

def Record.ofPass : Record α → Bool
  | .entered _ _ | .called _ _ | .ended _ | .warned _ _ => true
  | .added _ _ | .removed _ _ => false

def Record.ended? : Record α → Option Bool
  | .ended panicked => some panicked
  | _ => none

def Record.warns : Record α → Bool
  | .warned _ _ => true
  | _ => false

def Action.ended? : Action α → Option Bool
  | .finishCall panicked => some panicked
  | _ => none

/-- The warnings that are still to come of what has happened. -/
def Mode.owed : Mode → Nat
  | .unwinding => 1
  | .running | .calling | .returned => 0

def seen (history : List (Record α)) : List (Record α) := history.filter Record.ofPass

def Record.change [DecidableEq α] (contents : Nat → List (Entry α)) : Record α → Nat → List (Entry α)
  | .added chain entry => Function.update contents chain (contents chain ++ [entry])
  | .removed chain entry => Function.update contents chain ((contents chain).erase entry)
  | .entered _ _ | .called _ _ | .ended _ | .warned _ _ => contents

/-- The entries of each chain after the changes that are on record. -/
def contentsAfter [DecidableEq α] (chains : Nat → ListenerList (Entry α)) (history : List (Record α)) :
    Nat → List (Entry α) :=
  history.foldl Record.change fun chain => (chains chain).toList

theorem Relays.index_le {event : Event} {chain index : Nat} {entries : List (Entry α)}
    {trace : List (Record α)} (relays : Relays event chain entries index trace) :
    index ≤ entries.length := by
  cases relays with
  | entered => exact Nat.zero_le _
  | returned _ here | panicked _ here | nested _ here => exact (List.getElem?_eq_some_iff.mp here).1

abbrev View (α : Type) := Nat → Snapshot → List (Entry α)

variable {event : Event} {root : Nat} {view : View α}

/-- The passes in the stack wait for the pass over a chain; this has been recorded before it. -/
inductive Waits (event : Event) (root : Nat) (view : View α) : List Frame → Nat → List (Record α) → Prop where
  | first : Waits event root view [] root []
  | within {chain snapshot index rest inner before trace} (waits : Waits event root view rest chain before)
      (relays : Relays event chain (view chain snapshot) index trace)
      (here : (view chain snapshot)[index]? = some (.chain inner)) :
    Waits event root view (⟨chain, .visit snapshot (index + 1)⟩ :: rest) inner (before ++ trace)

inductive Stands (event : Event) (root : Nat) (view : View α) :
    List Frame → Mode → List (Record α) → Prop where
  | reached {chain rest before} (waits : Waits event root view rest chain before) :
    Stands event root view (⟨chain, .start⟩ :: rest) .running before
  | running {chain snapshot index rest before trace} (waits : Waits event root view rest chain before)
      (relays : Relays event chain (view chain snapshot) index trace) :
    Stands event root view (⟨chain, .visit snapshot index⟩ :: rest) .running (before ++ trace)
  | returned {chain snapshot index rest before trace} (waits : Waits event root view rest chain before)
      (relays : Relays event chain (view chain snapshot) index trace) :
    Stands event root view (⟨chain, .visit snapshot index⟩ :: rest) .returned (before ++ trace)
  | calling {chain snapshot index rest before trace entry listener shown}
      (waits : Waits event root view rest chain before)
      (relays : Relays event chain (view chain snapshot) index trace)
      (here : (view chain snapshot)[index]? = some entry) (shows : entry.Shows event listener shown) :
    Stands event root view (⟨chain, .visit snapshot (index + 1)⟩ :: rest) .calling
      (before ++ (trace ++ [.called listener shown]))
  | unwinding {chain snapshot index rest before trace entry listener shown}
      (waits : Waits event root view rest chain before)
      (relays : Relays event chain (view chain snapshot) index trace)
      (here : (view chain snapshot)[index]? = some entry) (shows : entry.Shows event listener shown) :
    Stands event root view (⟨chain, .visit snapshot (index + 1)⟩ :: rest) .unwinding
      (before ++ (trace ++ [.called listener shown, .ended true]))
  | finished {entries trace} (relays : Relays event root entries entries.length trace) :
    Stands event root view [] .returned trace

def Agrees (stack : List Frame) (view later : View α) : Prop :=
  ∀ chain snapshot index, ⟨chain, .visit snapshot index⟩ ∈ stack → later chain snapshot = view chain snapshot

theorem Agrees.tail {later : View α} {frame : Frame} {rest : List Frame}
    (agrees : Agrees (frame :: rest) view later) : Agrees rest view later :=
  fun chain snapshot index member => agrees chain snapshot index (List.mem_cons_of_mem _ member)

theorem Agrees.head {later : View α} {chain index : Nat} {snapshot : Snapshot} {rest : List Frame}
    (agrees : Agrees (⟨chain, .visit snapshot index⟩ :: rest) view later) :
    later chain snapshot = view chain snapshot :=
  agrees chain snapshot index List.mem_cons_self

theorem Waits.keep {later : View α} {frames : List Frame} {chain : Nat} {before : List (Record α)}
    (waits : Waits event root view frames chain before) (agrees : Agrees frames view later) :
    Waits event root later frames chain before := by
  induction waits with
  | first => exact .first
  | within _ relays here ih =>
    rw [← agrees.head] at relays here
    exact .within (ih agrees.tail) relays here

theorem Stands.keep {later : View α} {stack : List Frame} {mode : Mode} {trace : List (Record α)}
    (stands : Stands event root view stack mode trace) (agrees : Agrees stack view later) :
    Stands event root later stack mode trace := by
  cases stands with
  | reached waits => exact .reached (waits.keep agrees.tail)
  | running waits relays => exact .running (waits.keep agrees.tail) (agrees.head ▸ relays)
  | returned waits relays => exact .returned (waits.keep agrees.tail) (agrees.head ▸ relays)
  | calling waits relays here shows =>
    rw [← agrees.head] at relays here
    exact .calling (waits.keep agrees.tail) relays here shows
  | unwinding waits relays here shows =>
    rw [← agrees.head] at relays here
    exact .unwinding (waits.keep agrees.tail) relays here shows
  | finished relays => exact .finished relays

theorem Stands.goOn {stack rest : List Frame} {frame : Frame} {trace : List (Record α)}
    (stands : Stands event root view stack .returned trace) (top : stack = frame :: rest) :
    Stands event root view stack .running trace := by
  cases stands with
  | returned waits relays => exact .running waits relays
  | finished => cases top

theorem Stands.finish {stack : List Frame} {trace : List (Record α)}
    (stands : Stands event root view stack .calling trace) :
    Stands event root view stack .returned (trace ++ [.ended false]) := by
  cases stands with
  | calling waits relays here shows =>
    rw [List.append_assoc, List.append_assoc]
    exact .returned waits (.returned relays here shows)

theorem Stands.panic {stack : List Frame} {trace : List (Record α)}
    (stands : Stands event root view stack .calling trace) :
    Stands event root view stack .unwinding (trace ++ [.ended true]) := by
  cases stands with
  | calling waits relays here shows =>
    rw [List.append_assoc, List.append_assoc]
    exact .unwinding waits relays here shows

/-- What was recorded before a pass, and what is recorded of it, make up what is recorded of the first. -/
theorem Waits.relaying {frames : List Frame} {chain : Nat} {before within : List (Record α)}
    (waits : Waits event root view frames chain before) (relaying : Relaying event chain within) :
    Relaying event root (before ++ within) := by
  induction waits generalizing within with
  | first => exact relaying
  | within _ relays here ih =>
    rw [List.append_assoc]
    exact ih (.inside relays here relaying)

theorem Stands.relaying {stack : List Frame} {mode : Mode} {trace : List (Record α)}
    (stands : Stands event root view stack mode trace) : Relaying event root trace := by
  cases stands with
  | reached waits => simpa using waits.relaying .reached
  | running waits relays | returned waits relays => exact waits.relaying (.between relays)
  | calling waits relays here shows => exact waits.relaying (.calling relays here shows)
  | unwinding waits relays here shows => exact waits.relaying (.unwinding relays here shows)
  | finished relays => exact .between relays

theorem Waits.leave {frames : List Frame} {chain : Nat} {before trace : List (Record α)}
    {entries : List (Entry α)} (waits : Waits event root view frames chain before)
    (relays : Relays event chain entries entries.length trace) :
    Stands event root view frames .returned (before ++ trace) := by
  cases waits with
  | first => exact .finished relays
  | within waits outer here =>
    rw [List.append_assoc]
    exact .returned waits (.nested outer here relays)

end TransferLifecycle.Relay
