import TransferLifecycle.Proofs.Interruption.Exclusion

/-! What becomes of an interrupt. Only a wait of the interrupted thread takes it, once it has looked at a
unit that has not finished, and a wait that has taken it is bound to report it. So an interrupt is neither
lost nor reported twice. -/
namespace TransferLifecycle.Interruption

open Monitoring (Handle)
open Session (WaitReport)

def interruption : WaitReport → Bool
  | .completion (.error .interrupted) | .exception (.error .interrupted) | .handle (.error .interrupted)
  | .turn (.error .interrupted) => true
  | _ => false

/-- The wait has taken an interrupt and has nothing left to do but to report it. -/
def bound : Monitoring.Stage → Bool
  | .turning _ (.leave (.error .interrupted)) | .driving (.leave (.error .interrupted))
  | .waited (.error .interrupted) => true
  | _ => false

namespace Stage

def heeds : Stage → Bool
  | .watching _ stage => bound stage
  | .detached (.error .interrupted) | .awaited (.error .interrupted) => true
  | _ => false

def looksAt : Stage → Option Handle
  | .watching _ (.awaiting _ _ h) | .awaiting h => some h
  | _ => none

end Stage

structure Takes (thread : Nat) (w : World) (stage : Stage) (later : World) : Prop where
  unfinished : ∃ h, stage.looksAt = some h ∧ (w.completions h).outcome = none
  pending : w.tokens thread = true
  cleared : later.tokens = (w.setToken thread false).tokens

theorem Takes.foreign {thread other : Nat} {w later : World} {stage : Stage}
    (takes : Takes thread w stage later) (apart : other ≠ thread) : later.tokens other = w.tokens other := by
  rw [takes.cleared]
  exact if_neg apart

/-- A step takes the interrupt and is from then on bound to report it, or it does neither. -/
theorem bound_of_acts {me thread k : Nat} {w : World} {m : UnitMonitor Handle} {stage : Monitoring.Stage}
    {e : Monitoring.Effect} (acts : stage.Acts me thread (w.facing m) e) (formed : stage.Formed) :
    e.world.tokens = w.tokens ∧ bound e.stage = bound stage ∨
      Takes thread w (.watching k stage) (w.after k e.world) ∧ bound stage = false ∧ bound e.stage = true := by
  cases acts with
  | @report result =>
    refine Or.inl ⟨rfl, ?_⟩
    rcases result with error | value
    · cases error <;> rfl
    · rfl
  | @finishTurn drive result =>
    obtain ⟨rfl, -⟩ := formed
    refine Or.inl ⟨rfl, ?_⟩
    rcases result with error | value
    · cases error <;> rfl
    · cases value <;> rfl
  | @finished drive turn h outcome some =>
    obtain ⟨rfl, rfl⟩ := formed
    refine Or.inl ⟨rfl, ?_⟩
    cases outcome <;> rfl
  | @interrupted drive turn h none pending =>
    obtain ⟨rfl, rfl⟩ := formed
    exact Or.inr ⟨⟨⟨h, rfl, none⟩, pending, rfl⟩, rfl, rfl⟩
  | @leave caller op result =>
    refine Or.inl ⟨rfl, ?_⟩
    cases caller with
    | itself => rfl
    | wait drive turn =>
      obtain ⟨⟨rfl, ⟨rfl, rfl⟩ | ⟨rfl, rfl⟩⟩, -⟩ := formed <;> cases result <;> rfl
  | @answer caller op question point =>
    refine Or.inl ⟨?_, rfl⟩
    cases question <;> rfl
  | _ => exact Or.inl ⟨rfl, rfl⟩

theorem Stage.Acts.heeds {me thread : Nat} {w : World} {stage : Stage} {e : Effect}
    (acts : stage.Acts me thread w e) (formed : stage.Formed) :
    e.world.tokens = w.tokens ∧ e.stage.heeds = stage.heeds ∨
      Takes thread w stage e.world ∧ stage.heeds = false ∧ e.stage.heeds = true := by
  cases acts with
  | watch found acts => exact bound_of_acts acts formed
  | @finished h outcome some =>
    refine Or.inl ⟨rfl, ?_⟩
    cases outcome <;> rfl
  | @interrupted h none pending => exact Or.inr ⟨⟨⟨h, rfl, none⟩, pending, rfl⟩, rfl, rfl⟩
  | attach | detach => exact Or.inl ⟨rfl, rfl⟩

def Strand.interrupted (strand : Strand) : Bool := strand.report?.any interruption

theorem Strand.interrupted_eq (strand : Strand) :
    strand.interrupted = (strand.stage.finished && strand.stage.heeds) := by
  obtain ⟨thread, kind, stage⟩ := strand
  cases stage with
  | watching k stage => cases stage with
    | waited result =>
      rcases result with error | value
      · cases error <;> rcases kind with _ | (_ | _) <;> rfl
      · rcases kind with _ | (_ | _) <;> rfl
    | _ => rfl
  | detached result =>
    rcases result with error | value
    · cases error <;> rcases kind with _ | (_ | _) <;> rfl
    · rcases kind with _ | (_ | _) <;> rfl
  | awaited result =>
    rcases result with error | value
    · cases error <;> rfl
    · rfl
  | attaching | awaiting => rfl

namespace System

def heeds (s : System) (place : Nat) : Bool := s.strands[place]?.any (·.stage.heeds)

theorem Fresh.heeds {strand : Strand} (fresh : Fresh strand) : strand.stage.heeds = false := by
  obtain ⟨transfer, atStart⟩ | ⟨h, atStart⟩ | ⟨k, op, atStart⟩ := fresh <;> rw [atStart] <;> rfl

variable {s t u : System} {action : Action} {actions : List Action} {place : Nat} {strand : Strand}

theorem heeds_of_found (found : s.strands[place]? = some strand) : s.heeds place = strand.stage.heeds := by
  rw [heeds, found, Option.any_some]

def Takes (s : System) (place : Nat) (t : System) : Prop :=
  ∃ strand, s.strands[place]? = some strand ∧
    Interruption.Takes strand.thread s.world strand.stage t.world

theorem Reachable.heeds_own (reach : s.Reachable) (turns : s.Turns (.step place) t) :
    t.world.tokens = s.world.tokens ∧ t.heeds place = s.heeds place ∨
      s.Takes place t ∧ s.heeds place = false ∧ t.heeds place = true := by
  cases turns with
  | begin _ _ other | arrange _ other => exact (other place rfl).elim
  | @step _ strand e found acts =>
    have there : (s.effect place strand e).strands[place]? = some { strand with stage := e.stage } :=
      List.getElem?_set_self (List.getElem?_eq_some_iff.mp found).1
    rw [heeds_of_found found, heeds_of_found there]
    obtain same | ⟨takes, before, now⟩ := acts.heeds (reach.formed found)
    · exact Or.inl same
    · exact Or.inr ⟨⟨strand, found, takes⟩, before, now⟩

theorem Turns.heeds_other (turns : s.Turns action t) (other : action ≠ .step place) :
    t.heeds place = s.heeds place := by
  cases turns with
  | @begin action new idle fresh other =>
    rw [heeds, heeds, List.getElem?_append]
    split
    case isTrue inside => rfl
    case isFalse outside =>
      rw [List.getElem?_eq_none (Nat.le_of_not_lt outside)]
      cases gap : place - s.strands.length <;> simp [fresh.heeds]
  | @step acting actor e here acts =>
    have apart : acting ≠ place := fun same => other (congrArg _ same)
    rw [heeds, heeds, effect, List.getElem?_set_ne apart]
  | interrupt | arrange => rfl

structure Passes (s : System) (actions before : List Action) (t : System) (action : Action) (u : System)
    (after : List Action) : Prop where
  split : actions = before ++ action :: after
  ran : s.run? before = some t
  performed : t.perform? action = some u

def Steady (place : Nat) (s : System) (actions : List Action) : Prop :=
  ∀ before t u after, Passes s actions before t (.step place) u after → u.world.tokens = t.world.tokens

theorem Passes.cons {first : Action} {rest before after : List Action} {v : System}
    (performed : s.perform? first = some t) (passes : Passes t rest before u action v after) :
    Passes s (first :: rest) (first :: before) u action v after where
  split := congrArg (first :: ·) passes.split
  ran := by rw [run?, performed]; exact passes.ran
  performed := passes.performed

theorem Steady.cons {first : Action} {rest : List Action} (performed : s.perform? first = some t)
    (calm : first = .step place → t.world.tokens = s.world.tokens) (steady : Steady place t rest) :
    Steady place s (first :: rest) := by
  rintro before u v after ⟨split, ran, next⟩
  cases before with
  | nil =>
    cases Option.some.inj ran
    obtain ⟨rfl, rfl⟩ := List.cons.inj split
    cases Option.some.inj (performed.symm.trans next)
    exact calm rfl
  | cons one before =>
    obtain ⟨rfl, rfl⟩ := List.cons.inj split
    obtain ⟨middle, same, ran⟩ := Option.bind_eq_some_iff.mp ran
    cases Option.some.inj (performed.symm.trans same)
    exact steady before u v after ⟨rfl, ran, next⟩

theorem Steady.nil : Steady place s [] := by
  rintro before u v after ⟨split, -, -⟩
  cases before <;> cases split

def TakesOnce (place : Nat) (s : System) (actions : List Action) : Prop :=
  ∃ before t u after, Passes s actions before t (.step place) u after ∧ t.Takes place u ∧
    Steady place s before ∧ Steady place u after

/-- A strand that comes to heed an interrupt has taken one on the way, and any other has touched none. -/
theorem Reachable.heeds_run (reach : s.Reachable) (ran : s.run? actions = some u) (place : Nat) :
    u.heeds place = s.heeds place ∧ Steady place s actions ∨
      s.heeds place = false ∧ u.heeds place = true ∧ TakesOnce place s actions := by
  induction actions generalizing s with
  | nil =>
    cases Option.some.inj ran
    exact Or.inl ⟨rfl, Steady.nil⟩
  | cons first rest ih =>
    obtain ⟨middle, performed, ran⟩ := Option.bind_eq_some_iff.mp ran
    have later := ih (.next first reach performed) ran
    have calm_or_takes :
        middle.heeds place = s.heeds place ∧ (first = .step place → middle.world.tokens = s.world.tokens) ∨
          first = .step place ∧ s.Takes place middle ∧ s.heeds place = false ∧ middle.heeds place = true := by
      by_cases own : first = .step place
      · subst own
        obtain ⟨same, kept⟩ | takes := reach.heeds_own (turns performed)
        · exact Or.inl ⟨kept, fun _ => same⟩
        · exact Or.inr ⟨rfl, takes⟩
      · exact Or.inl ⟨(turns performed).heeds_other own, fun same => (own same).elim⟩
    obtain ⟨kept, calm⟩ | ⟨rfl, takes, before, now⟩ := calm_or_takes
    · rw [← kept]
      obtain ⟨same, steady⟩ | ⟨before, now, front, x, y, after, passes, takes, steady, onward⟩ := later
      · exact Or.inl ⟨same, steady.cons performed calm⟩
      · refine Or.inr ⟨before, now, first :: front, x, y, after, passes.cons performed, takes, ?_, onward⟩
        exact steady.cons performed calm
    · obtain ⟨same, steady⟩ | ⟨unheeding, -⟩ := later
      · refine Or.inr ⟨before, same.trans now, [], s, middle, rest, ⟨rfl, rfl, performed⟩, takes, ?_, steady⟩
        exact Steady.nil
      · rw [now] at unheeding
        cases unheeding

end System

end TransferLifecycle.Interruption
