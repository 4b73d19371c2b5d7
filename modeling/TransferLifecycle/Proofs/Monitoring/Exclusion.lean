import TransferLifecycle.Proofs.Monitoring.Interleaving

/-! Operations on the monitor exclude each other, so that what an operation has found out about
the monitor still holds at its next step, while the units may go on meanwhile. -/
namespace TransferLifecycle.Monitoring

open UnitMonitor (Operation Question Answer Result Point Moves)
open Wait (Drive Turn)

def Gives : Operation Handle → Result Handle → Prop
  | .advance _, .truth _ | .isDone, .truth _ | .currentHandle, .handle _ | .seal, .nothing => True
  | _, _ => False

def Belongs (op : Operation Handle) : Point Handle → Prop
  | .enter o | .check o => op = o
  | .latch o | .judging o | .verdict o _ | .act o => op = o ∧ o ≠ .seal
  | .awaitGate | .install _ => ∃ unit, op = .advance unit
  | .opening result => Gives op result ∧ op ≠ .isDone ∧ op ≠ .currentHandle
  | .looking o | .settle o _ => op = o ∧ (o = .isDone ∨ o = .currentHandle)
  | .leave result => Gives op result

def Asks : Question Handle → Point Handle → Prop
  | .isFailed _, .judging _ | .isFinished _, .looking _ | .newGate, .awaitGate
  | .openGate _, .opening _ => True
  | _, _ => False

def Caller.Makes (op : Operation Handle) : Caller → Prop
  | .itself => True
  | .wait drive turn =>
    drive = .turning () ∧ (turn = .fetching ∧ op = .currentHandle ∨ turn = .inquiring ∧ op = .isDone)

def Stage.Formed : Stage → Prop
  | .driving _ | .waited _ | .answered _ => True
  | .turning drive turn =>
    drive = .turning () ∧ turn ≠ .fetching ∧ turn ≠ .awaiting ∧ turn ≠ .inquiring
  | .awaiting drive turn _ => drive = .turning () ∧ turn = .awaiting
  | .calling caller op point => caller.Makes op ∧ Belongs op point
  | .asking caller op question point => caller.Makes op ∧ Belongs op point ∧ Asks question point

private theorem belongs_goto {me : Nat} {m m' : UnitMonitor Handle} {op : Operation Handle}
    {point next : Point Handle} (moves : Moves me m point m' (.goto next)) (before : Belongs op point) :
    Belongs op next := by
  cases moves with
  | answer other =>
    obtain ⟨rfl, rfl | rfl⟩ := before
    · trivial
    · exact (other rfl).elim
  | _ => simp_all [Belongs, Gives]

private theorem belongs_ask {me : Nat} {m m' : UnitMonitor Handle} {op : Operation Handle}
    {point next : Point Handle} {question : Question Handle}
    (moves : Moves me m point m' (.ask question next)) (before : Belongs op point) :
    Belongs op next ∧ Asks question next := by
  cases moves with
  | install =>
    obtain ⟨unit, rfl⟩ := before
    exact ⟨⟨trivial, nofun, nofun⟩, trivial⟩
  | _ => simp_all [Belongs, Asks, Gives]

private theorem belongs_resume {op : Operation Handle} {point : Point Handle} {question : Question Handle}
    (w : World) (asks : Asks question point) (before : Belongs op point) :
    Belongs op (UnitMonitor.resume point (w.answer question).1) := by
  cases question <;> cases point <;> simp_all [Belongs, Asks, World.answer, UnitMonitor.resume]

theorem Caller.formed_give {caller : Caller} {op : Operation Handle} {result : Result Handle}
    (makes : caller.Makes op) (gives : Gives op result) : (caller.give result).Formed := by
  cases caller with
  | itself => trivial
  | wait drive turn =>
    obtain ⟨rfl, ⟨rfl, rfl⟩ | ⟨rfl, rfl⟩⟩ := makes <;> cases result <;>
      simp_all [Gives, give, Stage.Formed, Turn.resume]

theorem Stage.Acts.formed {me thread : Nat} {w : World} {stage : Stage} {e : Effect}
    (acts : stage.Acts me thread w e) (before : stage.Formed) : e.stage.Formed := by
  cases acts with
  | goto moves => exact ⟨before.1, belongs_goto moves before.2⟩
  | ask moves => exact ⟨before.1, belongs_ask moves before.2⟩
  | leave => exact Caller.formed_give before.1 before.2
  | answer => exact ⟨before.1, belongs_resume w before.2.2 before.2.1⟩
  | @finished drive turn h outcome some =>
    obtain ⟨rfl, rfl⟩ := before
    cases outcome <;> simp [Formed, Outcome.waited, Turn.resume]
  | _ => simp_all [Formed, Caller.Makes, Belongs, Turn.resume]

def inside : Point Handle → Bool
  | .enter _ => false
  | _ => true

def Stage.inside : Stage → Bool
  | .calling _ _ point | .asking _ _ _ point => Monitoring.inside point
  | .driving _ | .turning _ _ | .awaiting _ _ _ | .waited _ | .answered _ => false

@[simp] theorem Caller.inside_give (caller : Caller) (result : Result Handle) :
    (caller.give result).inside = false := by
  cases caller <;> cases result <;> rfl

@[simp] theorem inside_resume (point : Point Handle) (answer : Answer Handle) :
    inside (UnitMonitor.resume point answer) = inside point := by
  cases point <;> cases answer <;> rfl

theorem Stage.Formed.inside_of_asking {caller : Caller} {op : Operation Handle}
    {question : Question Handle} {point : Point Handle}
    (formed : (Stage.asking caller op question point).Formed) :
    Monitoring.inside point = true := by
  obtain ⟨-, -, asks⟩ := formed
  cases point with
  | enter op => cases question <;> cases asks
  | _ => rfl

theorem Stage.Acts.holder {me thread : Nat} {w : World} {stage : Stage} {e : Effect}
    (acts : stage.Acts me thread w e) (held : w.monitor.holder = some me ↔ stage.inside = true) :
    (e.world.monitor.holder = some me ↔ e.stage.inside = true) ∧
    ∀ other, me ≠ other → (e.world.monitor.holder = some other ↔ w.monitor.holder = some other) := by
  cases acts with
  | goto moves => cases moves <;> simp_all [Stage.inside, Monitoring.inside]
  | ask moves => cases moves <;> simp_all [Stage.inside, Monitoring.inside]
  | leave => simp [held.mpr rfl]
  | answer => simpa [Stage.inside] using held
  | _ => simp_all [Stage.inside, Monitoring.inside]

/-- While one strand is in the middle of an operation, the steps of the others change neither the
monitor nor a unit. -/
theorem Stage.Acts.aside {me thread : Nat} {w : World} {stage : Stage} {e : Effect}
    (acts : stage.Acts me thread w e) (formed : stage.Formed) (outside : stage.inside = false)
    {other : Nat} (held : w.monitor.holder = some other) :
    e.world.monitor = w.monitor ∧ e.world.completions = w.completions ∧ e.deeds = [] := by
  cases acts with
  | goto moves => cases moves <;> simp_all [Stage.inside, Monitoring.inside]
  | ask moves => cases moves <;> cases outside
  | answer =>
    rw [Stage.inside, formed.inside_of_asking] at outside
    cases outside
  | _ => simp_all [Stage.inside, Monitoring.inside]

namespace System

theorem Fresh.formed {strand : Strand} (fresh : Fresh strand) : strand.stage.Formed := by
  obtain atStart | ⟨op, atStart⟩ := fresh <;> rw [atStart]
  · trivial
  · exact ⟨trivial, rfl⟩

theorem Fresh.outside {strand : Strand} (fresh : Fresh strand) : strand.stage.inside = false := by
  obtain atStart | ⟨op, atStart⟩ := fresh <;> rw [atStart] <;> rfl

theorem Reachable.formed {s : System} (reach : s.Reachable) {strand : Strand}
    (member : strand ∈ s.strands) : strand.stage.Formed := by
  refine reach.invariant (fun s => ∀ strand ∈ s.strands, strand.stage.Formed)
    ?start ?begin ?finish ?interrupt ?step strand member
  case start =>
    intro units first strand member
    cases member
  case begin =>
    intro s new ih fresh strand member
    obtain old | same := List.mem_append.mp member
    · exact ih strand old
    · rw [List.mem_singleton.mp same]
      exact fresh.formed
  case finish =>
    intro s id outcome ih
    exact ih
  case interrupt =>
    intro s thread ih
    exact ih
  case step =>
    intro s place acting e _ ih found acts strand member
    obtain old | same := List.mem_or_eq_of_mem_set member
    · exact ih strand old
    · rw [same]
      exact acts.formed (ih acting (List.mem_of_getElem? found))

def Exclusive (s : System) : Prop :=
  ∀ place, s.world.monitor.holder = some place ↔ ∃ strand ∈ s.strands[place]?, strand.stage.inside = true

theorem Reachable.exclusive {s : System} (reach : s.Reachable) : s.Exclusive := by
  refine reach.invariant Exclusive ?start ?begin ?finish ?interrupt ?step
  case start =>
    intro units first place
    simp [new, World.new]
  case begin =>
    intro s strand ih fresh place
    rw [show (s.begin strand).world = s.world from rfl, ih place]
    simp only [begin, List.getElem?_append]
    split
    case isTrue inside => rfl
    case isFalse outside =>
      rw [List.getElem?_eq_none (Nat.le_of_not_lt outside)]
      cases gap : place - s.strands.length <;> simp [fresh.outside]
  case finish =>
    intro s id outcome ih
    exact ih
  case interrupt =>
    intro s thread ih
    exact ih
  case step =>
    intro s place strand e _ ih found acts other
    have inside := (List.getElem?_eq_some_iff.mp found).1
    have held : s.world.monitor.holder = some place ↔ strand.stage.inside = true := by
      rw [ih place]
      simp [found]
    obtain ⟨own, rest⟩ := acts.holder held
    by_cases same : place = other
    · subst same
      simpa [effect, List.getElem?_set_self inside] using own
    · simpa [effect, List.getElem?_set_ne same] using (rest other same).trans (ih other)

/-- A step keeps for all strands what it keeps for its own, where that is of no concern outside an
operation and inside depends on the monitor and the units alone. -/
theorem Reachable.all_effect {s : System} (reach : s.Reachable) (holds : World → Stage → Prop)
    (outside : ∀ w stage, stage.Formed → stage.inside = false → holds w stage)
    (of_eq : ∀ w later stage, later.completions = w.completions → later.monitor = w.monitor →
      holds w stage → holds later stage)
    (all : ∀ strand ∈ s.strands, holds s.world strand.stage) {place : Nat} {acting : Strand}
    {e : Effect} (found : s.strands[place]? = some acting)
    (acts : acting.stage.Acts place acting.thread s.world e) (own : holds e.world e.stage) :
    ∀ strand ∈ (s.effect place acting.thread e).strands, holds e.world strand.stage := by
  intro strand there
  obtain ⟨other, here⟩ := List.mem_iff_getElem?.mp there
  obtain ⟨-, rfl⟩ | ⟨elsewhere, old⟩ := found_effect found here
  · exact own
  · have present := List.mem_of_getElem? old
    cases inside : strand.stage.inside with
    | false => exact outside _ _ (reach.formed present) inside
    | true =>
      -- The strand has the monitor, so the acting one is outside and touches neither it nor a unit.
      have held := (reach.exclusive other).mpr ⟨strand, old, inside⟩
      have apart : acting.stage.inside = false := by
        refine Bool.eq_false_iff.mpr fun both => elsewhere ?_
        have also_held := (reach.exclusive place).mpr ⟨acting, found, both⟩
        exact Option.some.inj (also_held.symm.trans held)
      obtain ⟨still, kept, -⟩ := acts.aside (reach.formed (List.mem_of_getElem? found)) apart held
      exact of_eq _ _ _ kept still (all strand present)

end System

end TransferLifecycle.Monitoring
