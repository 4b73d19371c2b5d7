import TransferLifecycle.Proofs.Dispatch.Order

/-! A program on a single thread over any number of dispatchers. It is asked what to do when one of its
listeners is called and whenever an operation comes back, and decides by what it has seen so far. The
strands under way form a stack, the last one first: below each strand stands the listener that fired,
or the firing whose emptying the executor runs inside the offer. -/
namespace TransferLifecycle.Nesting

open Dispatch

variable {α : Type}

/-- What a program can read off a dispatcher, the refusals of the executor apart. -/
structure Figures (α : Type) where
  listeners : List α
  delivered : UInt64
  pending : Nat
  dropped : UInt64

inductive Sight (α : Type) where
  | called (dispatcher : Nat) (listener : α) (event : Event)
  | returned
  | added
  | removed (found : Bool)

structure Observation (α : Type) where
  sight : Sight α
  figures : Nat → Figures α

inductive Command (α : Type) where
  | fire (dispatcher : Nat) (event : Event)
  | add (dispatcher : Nat) (listener : α)
  | remove (dispatcher : Nat) (listener : α)
  /-- Ends the listener that is called or, outside all listeners, the program. -/
  | leave (panicked : Bool)

def Program (α : Type) : Type := List (Observation α) → Command α

def figuresOf (d : Dispatcher α) : Figures α where
  listeners := d.chain.toList
  delivered := d.delivered
  pending := d.pending
  dropped := d.dropped

structure Machine (α : Type) where
  systems : Nat → System α := fun _ => {}
  /-- Each strand under way, as its dispatcher and its place there. -/
  stack : List (Nat × Nat) := []
  history : List (Observation α) := []
  clock : Nat := 0
  halted : Bool := false

/-- What a strand does next if the executor accepts an emptying or is full. -/
def due (accepts : Bool) : Strand α → Act
  | .offering => if accepts then .accept else .refuse .queueFull
  | .queued => .start
  | .accepted => .comeBack
  | _ => .move

def calls : Strand α → Bool
  | .calling _ _ _ => true
  | _ => false

def ends : Strand α → Bool
  | .ended => true
  | _ => false

def waits : Strand α → Bool
  | .accepted => true
  | _ => false

namespace Machine

def strand (m : Machine α) (frame : Nat × Nat) : Strand α :=
  (m.systems frame.1).strands[frame.2]?.getD .ended

def put (m : Machine α) (dispatcher : Nat) (s : System α) : Machine α :=
  { m with systems := fun other => if other = dispatcher then s else m.systems other }

def push (m : Machine α) (frames : List (Nat × Nat)) : Machine α :=
  { m with stack := frames ++ m.stack }

def see (m : Machine α) (sight : Sight α) : Machine α :=
  { m with history := m.history ++ [⟨sight, fun d => figuresOf (m.systems d).core⟩] }

def notice (m : Machine α) (dispatcher : Nat) : Strand α → Machine α
  | .calling listener event _ => m.see (.called dispatcher listener event)
  | _ => m

def launch (m : Machine α) (dispatcher : Nat) (event : Event) : Machine α :=
  (m.put dispatcher ((m.systems dispatcher).fire event)).push
    [(dispatcher, (m.systems dispatcher).strands.length)]

def change (m : Machine α) (dispatcher : Nat) (list : ListenerList α) (sight : Sight α) : Machine α :=
  (m.put dispatcher ((m.systems dispatcher).change list)).see sight

def fresh (m : Machine α) (frame : Nat × Nat) (e : Effect α) : List (Nat × Nat) :=
  e.begun.map fun _ => (frame.1, (m.systems frame.1).strands.length)

def moved (m : Machine α) (frame : Nat × Nat) (e : Effect α) : Machine α :=
  ({ m with clock := m.clock + 1 }.put frame.1 ((m.systems frame.1).effect frame.2 e)).push
    (m.fresh frame e)

def after (m : Machine α) (frame : Nat × Nat) (e : Effect α) : Machine α :=
  (m.moved frame e).notice frame.1 e.strand

def act (m : Machine α) (frame : Nat × Nat) (act : Act) : Option (Machine α) :=
  ((m.strand frame).act? (m.systems frame.1).core act).map (m.after frame)

/-- The top strand has ended. The program sees a firing come back, but not an emptying. -/
def back (m : Machine α) : List (Nat × Nat) → Machine α
  | [] => { m with stack := [] }.see .returned
  | frame :: rest =>
    if waits (m.strand frame) then { m with stack := frame :: rest }
    else { m with stack := frame :: rest }.see .returned

def obey [BEq α] (m : Machine α) : Command α → Option (Machine α)
  | .fire dispatcher event => some (m.launch dispatcher event)
  | .add dispatcher listener =>
    some (m.change dispatcher ((m.systems dispatcher).core.chain.add listener) .added)
  | .remove dispatcher listener =>
    let (found, list) := (m.systems dispatcher).core.chain.remove listener
    some (m.change dispatcher list (.removed found))
  | .leave panicked =>
    match m.stack with
    | [] => some { m with halted := true }
    | frame :: _ => m.act frame (.finishCall panicked)

def step [BEq α] (program : Program α) (accepts : Nat → Bool) (m : Machine α) : Option (Machine α) :=
  if m.halted then none
  else match m.stack with
    | [] => m.obey (program m.history)
    | frame :: rest =>
      if calls (m.strand frame) then m.obey (program m.history)
      else if ends (m.strand frame) then some (m.back rest)
      else m.act frame (due (accepts m.clock) (m.strand frame))

def Turn (m : Machine α) : Prop := ∀ frame ∈ m.stack.head?, calls (m.strand frame) = true

inductive Steps [BEq α] (program : Program α) (m : Machine α) : Machine α → Prop where
  | fire {dispatcher event} (turn : m.Turn) (told : program m.history = .fire dispatcher event) :
    Steps program m (m.launch dispatcher event)
  | add {dispatcher listener} (turn : m.Turn) (told : program m.history = .add dispatcher listener) :
    Steps program m (m.change dispatcher ((m.systems dispatcher).core.chain.add listener) .added)
  | remove {dispatcher listener} (turn : m.Turn)
      (told : program m.history = .remove dispatcher listener) :
    Steps program m (m.change dispatcher ((m.systems dispatcher).core.chain.remove listener).2
      (.removed ((m.systems dispatcher).core.chain.remove listener).1))
  | finish {panicked} (told : program m.history = .leave panicked) (empty : m.stack = []) :
    Steps program m { m with halted := true }
  | leave {panicked frame rest e} (told : program m.history = .leave panicked)
      (top : m.stack = frame :: rest) (calling : calls (m.strand frame) = true)
      (acted : (m.strand frame).act? (m.systems frame.1).core (.finishCall panicked) = some e) :
    Steps program m (m.after frame e)
  | back {frame rest} (top : m.stack = frame :: rest) (ended : m.strand frame = .ended) :
    Steps program m (m.back rest)
  | act {frame rest e} (accepts : Bool) (top : m.stack = frame :: rest)
      (calling : calls (m.strand frame) = false) (ended : ends (m.strand frame) = false)
      (acted : (m.strand frame).act? (m.systems frame.1).core (due accepts (m.strand frame)) =
        some e) :
    Steps program m (m.after frame e)

theorem eq_ended {strand : Strand α} (ended : ends strand = true) : strand = .ended := by
  cases strand with
  | ended => rfl
  | _ => cases ended

variable [BEq α] {program : Program α} {accepts : Nat → Bool} {m n : Machine α}

private theorem steps_of_obey (turn : m.Turn) (obeyed : m.obey (program m.history) = some n) :
    Steps program m n := by
  cases told : program m.history with
  | fire dispatcher event =>
    rw [told] at obeyed
    cases Option.some.inj obeyed
    exact .fire turn told
  | add dispatcher listener =>
    rw [told] at obeyed
    cases Option.some.inj obeyed
    exact .add turn told
  | remove dispatcher listener =>
    rw [told] at obeyed
    cases Option.some.inj obeyed
    exact .remove turn told
  | leave panicked =>
    rw [told] at obeyed
    simp only [obey] at obeyed
    split at obeyed
    case h_1 empty =>
      cases Option.some.inj obeyed
      exact .finish told empty
    case h_2 frame rest top =>
      obtain ⟨e, acted, rfl⟩ := Option.map_eq_some_iff.mp obeyed
      have calling := turn frame (by rw [top]; rfl)
      exact .leave told top calling acted

theorem steps_of_step (stepped : m.step program accepts = some n) : Steps program m n := by
  unfold step at stepped
  split at stepped
  case isTrue => cases stepped
  case isFalse =>
    split at stepped
    case h_1 empty =>
      exact steps_of_obey (by simp [Turn, empty]) stepped
    case h_2 frame rest top =>
      split at stepped
      case isTrue calling =>
        exact steps_of_obey (by simpa [Turn, top] using calling) stepped
      case isFalse calling =>
        split at stepped
        case isTrue ended =>
          cases Option.some.inj stepped
          exact .back top (eq_ended ended)
        case isFalse ended =>
          obtain ⟨e, acted, rfl⟩ := Option.map_eq_some_iff.mp stepped
          exact .act _ top (Bool.eq_false_iff.mpr calling) (Bool.eq_false_iff.mpr ended) acted

/-! What the stack has to do with the strands. -/

section Strand

omit [BEq α]

@[simp] theorem systems_notice (d : Nat) (strand : Strand α) :
    (m.notice d strand).systems = m.systems := by
  cases strand <;> rfl

@[simp] theorem strand_notice (d : Nat) (strand : Strand α) (frame : Nat × Nat) :
    (m.notice d strand).strand frame = m.strand frame := by
  cases strand <;> rfl

@[simp] theorem stack_notice (d : Nat) (strand : Strand α) : (m.notice d strand).stack = m.stack := by
  cases strand <;> rfl

@[simp] theorem systems_back (rest : List (Nat × Nat)) : (m.back rest).systems = m.systems := by
  cases rest with
  | nil => rfl
  | cons frame rest => rw [back, apply_ite systems]; exact ite_self _

@[simp] theorem stack_back (rest : List (Nat × Nat)) : (m.back rest).stack = rest := by
  cases rest with
  | nil => rfl
  | cons frame rest => rw [back, apply_ite stack]; exact ite_self _

theorem systems_put (d other : Nat) (s : System α) :
    (m.put d s).systems other = if other = d then s else m.systems other := rfl

theorem found_of_strand {frame : Nat × Nat} (live : ends (m.strand frame) = false) :
    (m.systems frame.1).strands[frame.2]? = some (m.strand frame) := by
  unfold strand at live ⊢
  cases found : (m.systems frame.1).strands[frame.2]? with
  | none =>
    rw [found] at live
    cases live
  | some strand => rfl

theorem strand_launch (d : Nat) (event : Event) (frame : Nat × Nat) :
    (m.launch d event).strand frame =
      if frame = (d, (m.systems d).strands.length) then .standing (.arrive event)
      else m.strand frame := by
  obtain ⟨other, place⟩ := frame
  by_cases same : other = d
  · subst same
    rw [strand, launch, push, systems_put, if_pos rfl, System.strands_fire, List.getElem?_append]
    by_cases inside : place < (m.systems other).strands.length
    · simp [inside, strand, Nat.ne_of_lt inside]
    · by_cases last : place = (m.systems other).strands.length
      · simp [last]
      · have beyond : (m.systems other).strands.length ≤ place := by omega
        have further : [Strand.standing (.arrive event)][place - (m.systems other).strands.length]? =
            (none : Option (Strand α)) := List.getElem?_eq_none_iff.mpr (by simp; omega)
        rw [if_neg inside, further, if_neg (by simpa using last), strand,
          List.getElem?_eq_none_iff.mpr beyond]
  · rw [strand, launch, push, systems_put, if_neg same, if_neg (by simp [same])]
    rfl

end Strand

end Machine

end TransferLifecycle.Nesting
