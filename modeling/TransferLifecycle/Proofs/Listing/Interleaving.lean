import TransferLifecycle.Pass

/-! Any number of threads on one listener list, in any interleaving of their steps. An addition or a removal
holds the lock of the list from its first step to its last. Snapshots are taken, passes begun and questions
answered while nobody holds it; but a snapshot may be given back at any time, also between the moment at which
a change has found out whether the vector is shared and the moment at which it changes the entries. -/
namespace TransferLifecycle

variable {α : Type}

/-- Changes the entries on a copy or where they stand, by what was found out before. -/
def ListenerList.revise (l : ListenerList α) (shared : Bool) (change : List α → List α) : ListenerList α :=
  if shared then l.copy change else l.write change

theorem ListenerList.mutate_eq_revise (l : ListenerList α) (change : List α → List α) :
    l.mutate change = l.revise (l.leases.contains l.current) change := rfl

@[simp] theorem ListenerList.toList_revise (l : ListenerList α) (shared : Bool)
    (change : List α → List α) : (l.revise shared change).toList = change l.toList := by
  cases shared
  · simp [revise, write, toList, contents, Array.getElem_modify, l.current_lt]
  · simp [revise, copy, toList, contents]

@[simp] theorem ListenerList.leases_revise (l : ListenerList α) (shared : Bool)
    (change : List α → List α) : (l.revise shared change).leases = l.leases := by
  cases shared <;> rfl

/-- A change leaves what a snapshot shows as it was, if none holds a vector that is written in place. -/
theorem ListenerList.view_revise (l : ListenerList α) {shared : Bool} (change : List α → List α)
    (free : shared = false → l.current ∉ l.leases) {s : Snapshot} (held : l.Held s) :
    (l.revise shared change).view s = l.view s := by
  cases shared with
  | true =>
    have inside := l.leases_lt _ held
    simp [revise, copy, view, contents, Array.getElem?_push, Nat.ne_of_lt inside]
  | false =>
    have other : l.current ≠ s.vector := fun same => free rfl (same ▸ held)
    simp [revise, write, view, contents, Array.getElem?_modify, other]

namespace Listing

inductive Change (α : Type) where
  | add (x : α)
  | remove (x : α)
  deriving DecidableEq

def Change.finds [BEq α] (entries : List α) : Change α → Bool
  | .add _ => true
  | .remove x => entries.contains x

def Change.edit [BEq α] (entries : List α) : Change α → List α
  | .add x => entries ++ [x]
  | .remove x => entries.erase x

inductive Point where
  | enter
  | search
  | ask
  | revise (shared : Bool)
  | leave (found : Bool)
  deriving DecidableEq, Repr

inductive Question where
  | length | isEmpty | debug
  deriving DecidableEq, Repr

inductive Strand (α : Type) where
  | changing (change : Change α) (point : Point)
  | changed (found : Bool)
  | asking (question : Question)
  | taking
  | holding (snapshot : Snapshot)
  | passing (pass : Pass.Point)
  | calling (listener : α) (pass : Pass.Point)
  | ended
  deriving DecidableEq

inductive Deed (α : Type) where
  | changed (change : Change α) (found : Bool)
  | answered (found : Bool)
  | length (n : Nat)
  | isEmpty (b : Bool)
  | debug (text : String)
  | took (entries : List α)
  | shown (entries : List α)
  | called (listener : α)
  | through
  deriving DecidableEq

inductive Act where
  | move
  | look
  | drop
  /-- The listener that was called returns, or its panic is contained, or its panic breaks the pass off. -/
  | finish (broken : Bool)
  deriving DecidableEq, Repr

structure Core (α : Type) where
  list : ListenerList α := {}
  holder : Option Nat := none

structure Effect (α : Type) where
  core : Core α
  strand : Strand α
  deeds : List (Deed α) := []

def Question.answer (l : ListenerList α) : Question → Deed α
  | .length => .length l.length
  | .isEmpty => .isEmpty l.isEmpty
  | .debug => .debug l.debug

def passStep? (c : Core α) (pass : Pass.Point) : Option (Effect α) :=
  let (list, next) := Pass.step c.list pass
  let core := { c with list := list }
  match next with
  | .goto pass => some { core := core, strand := .passing pass, deeds := [.took c.list.toList] }
  | .ask listener pass => some { core := core, strand := .calling listener pass, deeds := [.called listener] }
  | .done () => some { core := core, strand := .ended, deeds := [.through] }
  | .blocked => none

def Strand.act? [BEq α] (me : Nat) (c : Core α) : Strand α → Act → Option (Effect α)
  | .changing change .enter, .move =>
    if c.holder.isSome then none
    else some { core := { c with holder := some me }, strand := .changing change .search }
  | .changing change .search, .move =>
    if change.finds c.list.toList then some { core := c, strand := .changing change .ask }
    else some { core := c, strand := .changing change (.leave false), deeds := [.changed change false] }
  | .changing change .ask, .move =>
    some { core := c, strand := .changing change (.revise (c.list.leases.contains c.list.current)) }
  | .changing change (.revise shared), .move =>
    some { core := { c with list := c.list.revise shared change.edit }
           strand := .changing change (.leave true)
           deeds := [.changed change true] }
  | .changing _ (.leave found), .move =>
    some { core := { c with holder := none }, strand := .changed found, deeds := [.answered found] }
  | .asking question, .move =>
    if c.holder.isSome then none
    else some { core := c, strand := .ended, deeds := [question.answer c.list] }
  | .taking, .move =>
    if c.holder.isSome then none
    else
      let (snapshot, list) := c.list.snapshot
      some { core := { c with list := list }, strand := .holding snapshot, deeds := [.took c.list.toList] }
  | .holding snapshot, .look =>
    some { core := c, strand := .holding snapshot, deeds := [.shown (c.list.view snapshot)] }
  | .holding snapshot, .drop =>
    some { core := { c with list := c.list.release snapshot }, strand := .ended }
  | .passing .start, .move => if c.holder.isSome then none else passStep? c .start
  | .passing (.visit snapshot index), .move => passStep? c (.visit snapshot index)
  | .calling _ pass, .finish false => some { core := c, strand := .passing pass }
  | .calling _ pass, .finish true =>
    some { core := { c with list := Pass.abandon c.list pass }, strand := .ended }
  | _, _ => none

inductive Strand.Acts [BEq α] (me : Nat) (c : Core α) : Strand α → Act → Effect α → Prop where
  | enter {change} (free : c.holder = none) :
    Acts me c (.changing change .enter) .move
      { core := { c with holder := some me }, strand := .changing change .search }
  | find {change} (found : change.finds c.list.toList = true) :
    Acts me c (.changing change .search) .move { core := c, strand := .changing change .ask }
  | miss {change} (missing : change.finds c.list.toList = false) :
    Acts me c (.changing change .search) .move
      { core := c, strand := .changing change (.leave false), deeds := [.changed change false] }
  | ask {change} :
    Acts me c (.changing change .ask) .move
      { core := c, strand := .changing change (.revise (c.list.leases.contains c.list.current)) }
  | revise {change shared} :
    Acts me c (.changing change (.revise shared)) .move
      { core := { c with list := c.list.revise shared change.edit }
        strand := .changing change (.leave true), deeds := [.changed change true] }
  | leave {change found} :
    Acts me c (.changing change (.leave found)) .move
      { core := { c with holder := none }, strand := .changed found, deeds := [.answered found] }
  | answer {question} (free : c.holder = none) :
    Acts me c (.asking question) .move
      { core := c, strand := .ended, deeds := [question.answer c.list] }
  | take (free : c.holder = none) :
    Acts me c .taking .move
      { core := { c with list := c.list.snapshot.2 }, strand := .holding c.list.snapshot.1
        deeds := [.took c.list.toList] }
  | look {snapshot} :
    Acts me c (.holding snapshot) .look
      { core := c, strand := .holding snapshot, deeds := [.shown (c.list.view snapshot)] }
  | drop {snapshot} :
    Acts me c (.holding snapshot) .drop
      { core := { c with list := c.list.release snapshot }, strand := .ended }
  | beginPass (free : c.holder = none) :
    Acts me c (.passing .start) .move
      { core := { c with list := c.list.snapshot.2 }
        strand := .passing (.visit c.list.snapshot.1 0), deeds := [.took c.list.toList] }
  | call {snapshot index listener} (present : (c.list.view snapshot)[index]? = some listener) :
    Acts me c (.passing (.visit snapshot index)) .move
      { core := c, strand := .calling listener (.visit snapshot (index + 1))
        deeds := [.called listener] }
  | endPass {snapshot index} (absent : (c.list.view snapshot)[index]? = none) :
    Acts me c (.passing (.visit snapshot index)) .move
      { core := { c with list := c.list.release snapshot }, strand := .ended, deeds := [.through] }
  | returned {listener pass} :
    Acts me c (.calling listener pass) (.finish false) { core := c, strand := .passing pass }
  | broken {listener pass} :
    Acts me c (.calling listener pass) (.finish true)
      { core := { c with list := Pass.abandon c.list pass }, strand := .ended }

private theorem free_of_some {c : Core α} {next : Option (Effect α)} {e : Effect α}
    (acted : (if c.holder.isSome then none else next) = some e) : c.holder = none ∧ next = some e := by
  cases free : c.holder <;> simp_all

theorem Strand.acts [BEq α] {me : Nat} {c : Core α} {strand : Strand α} {act : Act} {e : Effect α}
    (acted : strand.act? me c act = some e) : Acts me c strand act e := by
  cases act with
  | move =>
    cases strand with
    | changing change point =>
      cases point with
      | enter =>
        obtain ⟨free, acted⟩ := free_of_some acted
        cases Option.some.inj acted
        exact .enter free
      | search =>
        cases found : change.finds c.list.toList <;> simp [act?, found] at acted <;> subst e
        · exact .miss found
        · exact .find found
      | ask =>
        cases Option.some.inj acted
        exact .ask
      | revise shared =>
        cases Option.some.inj acted
        exact .revise
      | leave found =>
        cases Option.some.inj acted
        exact .leave
    | asking question =>
      obtain ⟨free, acted⟩ := free_of_some acted
      cases Option.some.inj acted
      exact .answer free
    | taking =>
      obtain ⟨free, acted⟩ := free_of_some acted
      cases Option.some.inj acted
      exact .take free
    | passing pass =>
      cases pass with
      | start =>
        obtain ⟨free, acted⟩ := free_of_some acted
        cases Option.some.inj acted
        exact .beginPass free
      | visit snapshot index =>
        cases entry : (c.list.view snapshot)[index]? <;>
          simp [act?, passStep?, Pass.step, entry] at acted <;> subst e
        · exact .endPass entry
        · exact .call entry
    | changed | holding | calling | ended => simp [act?] at acted
  | look =>
    cases strand with
    | holding snapshot =>
      cases Option.some.inj acted
      exact .look
    | _ => simp [act?] at acted
  | drop =>
    cases strand with
    | holding snapshot =>
      cases Option.some.inj acted
      exact .drop
    | _ => simp [act?] at acted
  | finish broken =>
    cases strand with
    | calling listener pass =>
      cases broken <;> cases Option.some.inj acted
      · exact .returned
      · exact .broken
    | _ => simp [act?] at acted

inductive Task (α : Type) where
  | change (change : Change α)
  | ask (question : Question)
  | snapshot
  | pass

def Task.strand : Task α → Strand α
  | .change c => .changing c .enter
  | .ask question => .asking question
  | .snapshot => .taking
  | .pass => .passing .start

/-- A list with its lock, what has been begun on it, each strand at its place for ever, and what has been
told, each deed with the place of its strand. -/
structure System (α : Type) where
  core : Core α := {}
  strands : List (Strand α) := []
  history : List (Nat × Deed α) := []

inductive Action (α : Type) where
  | begin (task : Task α)
  | act (place : Nat) (act : Act)

namespace System

def begin (s : System α) (task : Task α) : System α := { s with strands := s.strands ++ [task.strand] }

def effect (s : System α) (place : Nat) (e : Effect α) : System α where
  core := e.core
  strands := s.strands.set place e.strand
  history := s.history ++ e.deeds.map (place, ·)

def deedsOf (s : System α) (place : Nat) : List (Deed α) :=
  (s.history.filter (·.1 == place)).map (·.2)

@[simp] theorem deedsOf_begin (s : System α) (task : Task α) (place : Nat) :
    (s.begin task).deedsOf place = s.deedsOf place := rfl

@[simp] theorem deedsOf_effect (s : System α) (acting : Nat) (e : Effect α) (place : Nat) :
    (s.effect acting e).deedsOf place =
      s.deedsOf place ++ if acting = place then e.deeds else [] := by
  by_cases same : acting = place <;>
    simp [effect, deedsOf, same, List.filter_map, Function.comp_def]

theorem mem_deedsOf {s : System α} {place : Nat} {deed : Deed α} :
    deed ∈ s.deedsOf place ↔ (place, deed) ∈ s.history := by
  simp [deedsOf]

variable [BEq α]

def perform? (s : System α) : Action α → Option (System α)
  | .begin task => some (s.begin task)
  | .act place act => do
    let strand ← s.strands[place]?
    let e ← strand.act? place s.core act
    return s.effect place e

def run? (s : System α) : List (Action α) → Option (System α)
  | [] => some s
  | action :: rest => (s.perform? action).bind (run? · rest)

def moves (place count : Nat) : List (Action α) := List.replicate count (.act place .move)

inductive Reachable : System α → Prop where
  | start : Reachable {}
  | next {s t : System α} (action : Action α) (before : Reachable s)
      (performed : s.perform? action = some t) : Reachable t

theorem Reachable.run {s t : System α} (before : s.Reachable) (actions : List (Action α))
    (ran : s.run? actions = some t) : t.Reachable := by
  induction actions generalizing s with
  | nil =>
    cases Option.some.inj ran
    exact before
  | cons action rest ih =>
    obtain ⟨middle, performed, ran⟩ := Option.bind_eq_some_iff.mp ran
    exact ih (.next action before performed) ran

theorem acts_of_perform {s t : System α} {place : Nat} {act : Act}
    (performed : s.perform? (.act place act) = some t) :
    ∃ strand e, s.strands[place]? = some strand ∧ Strand.Acts place s.core strand act e ∧
      t = s.effect place e := by
  obtain ⟨strand, found, rest⟩ := Option.bind_eq_some_iff.mp performed
  obtain ⟨e, acted, same⟩ := Option.bind_eq_some_iff.mp rest
  exact ⟨strand, e, found, Strand.acts acted, (Option.some.inj same).symm⟩

theorem Reachable.invariant {s : System α} (reach : s.Reachable) (holds : System α → Prop)
    (start : holds {}) (begin : ∀ s task, s.Reachable → holds s → holds (s.begin task))
    (act : ∀ s place strand act e, s.Reachable → holds s → s.strands[place]? = some strand →
      Strand.Acts place s.core strand act e → holds (s.effect place e)) : holds s := by
  induction reach with
  | start => exact start
  | next action before performed ih =>
    cases action with
    | begin task =>
      cases Option.some.inj performed
      exact begin _ task before ih
    | act place a =>
      obtain ⟨strand, e, found, acts, rfl⟩ := acts_of_perform performed
      exact act _ place strand a e before ih found acts

omit [BEq α] in
theorem found_begin {s : System α} {task : Task α} {place : Nat} {strand : Strand α}
    (found : (s.begin task).strands[place]? = some strand) :
    s.strands[place]? = some strand ∨ s.strands.length = place ∧ strand = task.strand := by
  unfold begin at found
  rw [List.getElem?_append] at found
  split at found
  case isTrue => exact Or.inl found
  case isFalse outside =>
    have bound := (List.getElem?_eq_some_iff.mp found).1
    rw [List.length_singleton] at bound
    exact Or.inr ⟨by omega, List.mem_singleton.mp (List.mem_of_getElem? found)⟩

omit [BEq α] in
theorem found_effect {s : System α} {acting place : Nat} {acts strand : Strand α} {e : Effect α}
    (here : s.strands[acting]? = some acts)
    (found : (s.effect acting e).strands[place]? = some strand) :
    acting = place ∧ strand = e.strand ∨ acting ≠ place ∧ s.strands[place]? = some strand := by
  have inside := (List.getElem?_eq_some_iff.mp here).1
  unfold effect at found
  by_cases same : acting = place
  · subst same
    rw [List.getElem?_set_self inside] at found
    exact Or.inl ⟨rfl, (Option.some.inj found).symm⟩
  · rw [List.getElem?_set_ne same] at found
    exact Or.inr ⟨same, found⟩

theorem Reachable.deedsOf_eq_nil {s : System α} (reach : s.Reachable) {place : Nat}
    (outside : s.strands.length ≤ place) : s.deedsOf place = [] := by
  refine reach.invariant (fun s => ∀ place, s.strands.length ≤ place → s.deedsOf place = []) ?start ?begin
    ?act place outside
  case start =>
    intro place _
    rfl
  case begin =>
    intro s task _ ih place outside
    rw [begin, List.length_append] at outside
    exact ih place (by omega)
  case act =>
    intro s acting strand act e _ ih found _ place outside
    have inside := (List.getElem?_eq_some_iff.mp found).1
    rw [effect, List.length_set] at outside
    rw [deedsOf_effect, ih place outside, if_neg (by omega)]
    rfl

end System

end Listing

end TransferLifecycle
