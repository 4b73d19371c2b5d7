import TransferLifecycle.Proofs.Dispatch.Ownership
import TransferLifecycle.Proofs.Interruption.Heeding

/-! No interrupt is lost and none is reported twice. A thread does one thing after another, so that an
interrupt that is pending while it waits is there when the wait is over, unless the wait reports it; and
every interruption that is reported has used up an interrupt of its own. -/
namespace TransferLifecycle.Interruption

open Dispatch (countP_set_add)

def Action.interrupts (thread : Nat) : Action → Bool
  | .interrupt other => other == thread
  | _ => false

namespace System

variable {s t : System} {action : Action} {actions : List Action} {place : Nat} {strand : Strand}

private theorem finished_of_idle {thread : Nat} (idle : s.busy thread = false)
    (found : s.strands[place]? = some strand) (own : strand.thread = thread) :
    strand.stage.finished = true := by
  have none := List.any_eq_false.mp idle strand (List.mem_of_getElem? found)
  simpa [own] using none

theorem Reachable.alone (reach : s.Reachable) {i j : Nat} {x y : Strand} (first : s.strands[i]? = some x)
    (second : s.strands[j]? = some y) (same : x.thread = y.thread) (busy : x.stage.finished = false)
    (also_busy : y.stage.finished = false) : i = j := by
  refine reach.invariant (fun s => ∀ i j x y, s.strands[i]? = some x → s.strands[j]? = some y →
    x.thread = y.thread → x.stage.finished = false → y.stage.finished = false → i = j)
    ?start ?turn i j x y first second same busy also_busy
  case start =>
    intro w _ i j x y first
    cases first
  case turn =>
    intro s action t _ ih turns i j x y first second same busy also_busy
    -- What is unfinished now was so before, unless it is new, and then its thread was idle.
    have earlier : ∀ {i x}, t.strands[i]? = some x → x.stage.finished = false →
        (∃ old, s.strands[i]? = some old ∧ old.thread = x.thread ∧ old.stage.finished = false) ∨
          s.strands.length = i ∧ s.busy x.thread = false := by
      intro i x found busy
      obtain ⟨old, -⟩ | ⟨old, e, -, here, acts, rfl, -⟩ | ⟨new, idle, -⟩ := turns.found found
      · exact Or.inl ⟨x, old, rfl, busy⟩
      · exact Or.inl ⟨old, here, rfl, acts.unfinished⟩
      · exact Or.inr ⟨new, idle⟩
    obtain ⟨x', here, own, open_⟩ | ⟨new, idle⟩ := earlier first busy <;>
      obtain ⟨y', there, also_own, also_open⟩ | ⟨also_new, also_idle⟩ := earlier second also_busy
    · exact ih i j x' y' here there (own.trans (same.trans also_own.symm)) open_ also_open
    · rw [finished_of_idle also_idle here (own.trans same)] at open_
      cases open_
    · rw [finished_of_idle idle there (also_own.trans same.symm)] at also_open
      cases also_open
    · exact new.symm.trans also_new

theorem finished_run (ran : s.run? actions = some t) (found : s.strands[place]? = some strand)
    (finished : strand.stage.finished = true) : t.strands[place]? = some strand := by
  induction actions generalizing s with
  | nil =>
    cases Option.some.inj ran
    exact found
  | cons first rest ih =>
    obtain ⟨middle, performed, ran⟩ := Option.bind_eq_some_iff.mp ran
    obtain ⟨later, there, -, same⟩ := (turns performed).next found
    exact ih ran (same finished ▸ there)

/-- An interrupt of the thread is pending, or its wait at the place has taken one. -/
def Alert (s : System) (thread place : Nat) : Prop := s.world.tokens thread = true ∨ s.heeds place = true

theorem Reachable.alert_next (reach : s.Reachable) (turns : s.Turns action t)
    (found : s.strands[place]? = some strand) (busy : strand.stage.finished = false)
    (alert : s.Alert strand.thread place) : t.Alert strand.thread place := by
  by_cases own : action = .step place
  · subst own
    obtain ⟨same, kept⟩ | ⟨-, -, now⟩ := reach.heeds_own turns
    · rwa [Alert, same, kept]
    · exact Or.inr now
  · rw [Alert, turns.heeds_other own]
    refine alert.imp_left fun pending => ?_
    cases turns with
    | @step acting actor e here acts =>
      obtain ⟨same, -⟩ | ⟨takes, -⟩ := acts.heeds (reach.formed here)
      · rwa [effect, same]
      · -- Another wait that takes an interrupt is of another thread.
        have apart : strand.thread ≠ actor.thread := fun same =>
          own (congrArg _ (reach.alone here found same.symm acts.unfinished busy))
        rwa [effect, takes.foreign apart]
    | @interrupt thread =>
      simp only [change, World.setToken]
      split
      · rfl
      · exact pending
    | arrange arranges => rwa [change, arranges.tokens]
    | begin => exact pending

theorem Reachable.alert_run (reach : s.Reachable) (ran : s.run? actions = some t)
    (found : s.strands[place]? = some strand) (alert : s.Alert strand.thread place)
    (busy : ∀ later, t.strands[place]? = some later → later.stage.finished = false) :
    t.Alert strand.thread place := by
  induction actions generalizing s strand with
  | nil =>
    cases Option.some.inj ran
    exact alert
  | cons first rest ih =>
    have open_ : strand.stage.finished = false := by
      cases finished : strand.stage.finished with
      | false => rfl
      | true =>
        rw [busy strand (finished_run ran found finished)] at finished
        cases finished
    obtain ⟨middle, performed, ran⟩ := Option.bind_eq_some_iff.mp ran
    obtain ⟨later, there, own, -⟩ := (turns performed).next found
    have onward := reach.alert_next (turns performed) found open_ alert
    rw [← own] at onward ⊢
    exact ih (.next first reach performed) ran there onward

theorem Reachable.kept (reach : s.Reachable) {u : System} (found : s.strands[place]? = some strand)
    (pending : s.world.tokens strand.thread = true) (ran : s.run? actions = some t)
    (performed : t.perform? (.step place) = some u) {last : Strand} (there : u.strands[place]? = some last)
    (finished : last.stage.finished = true) :
    last.interrupted = true ∨ u.world.tokens strand.thread = true := by
  obtain ⟨actor, e, here, acts⟩ : ∃ actor e, t.strands[place]? = some actor ∧
      actor.stage.Acts place actor.thread t.world e := by
    cases turns performed with
    | begin _ _ other | arrange _ other => exact (other place rfl).elim
    | step here acts => exact ⟨_, _, here, acts⟩
  have busy : ∀ later, t.strands[place]? = some later → later.stage.finished = false := by
    intro later same
    cases Option.some.inj (here.symm.trans same)
    exact acts.unfinished
  have alert := reach.alert_run ran found (Or.inl pending) busy
  have alert : u.Alert strand.thread place := by
    obtain ⟨same, kept⟩ | ⟨-, -, now⟩ := (reach.run ran).heeds_own (turns performed)
    · rwa [Alert, same, kept]
    · exact Or.inr now
  rw [Alert, heeds_of_found there] at alert
  rw [Strand.interrupted_eq, finished, Bool.true_and]
  exact alert.symm

def taken (s : System) (thread : Nat) : Nat :=
  s.strands.countP fun strand => strand.thread == thread && strand.stage.heeds

def interruptions (s : System) (thread : Nat) : Nat :=
  s.strands.countP fun strand => strand.thread == thread && strand.interrupted

theorem interruptions_le (s : System) (thread : Nat) : s.interruptions thread ≤ s.taken thread := by
  apply List.countP_mono_left
  intro strand _ reports
  rw [Strand.interrupted_eq, Bool.and_eq_true, Bool.and_eq_true] at reports
  rw [reports.1, reports.2.2]
  rfl

private theorem Reachable.taken_next (reach : s.Reachable) (turns : s.Turns action t) (thread : Nat) :
    t.taken thread + (t.world.tokens thread).toNat ≤
      s.taken thread + (s.world.tokens thread).toNat + (action.interrupts thread).toNat := by
  cases turns with
  | @begin action new idle fresh other =>
    have none : (new.thread == thread && new.stage.heeds) = false := by rw [fresh.heeds, Bool.and_false]
    simp only [taken, List.countP_append, List.countP_singleton, none]
    exact Nat.le_add_right _ _
  | @step acting actor e here acts =>
    have counted := countP_set_add (p := fun strand => strand.thread == thread && strand.stage.heeds)
      here { actor with stage := e.stage }
    change (s.effect acting actor e).taken thread + _ = s.taken thread + _ at counted
    obtain ⟨same, kept⟩ | ⟨takes, before, now⟩ := acts.heeds (reach.formed here)
    · rw [kept] at counted
      rw [effect, same]
      exact Nat.le_add_right_of_le (Nat.le_of_eq (congrArg (· + _) (Nat.add_right_cancel counted)))
    · rw [before, now, Bool.and_false, Bool.and_true] at counted
      by_cases own : thread = actor.thread
      · subst own
        have gone : (s.effect acting actor e).world.tokens actor.thread = false := by
          rw [effect, takes.cleared]
          exact if_pos rfl
        rw [gone, takes.pending]
        simp at counted ⊢
        omega
      · have apart : (actor.thread == thread) = false := beq_eq_false_iff_ne.mpr (Ne.symm own)
        rw [apart] at counted
        rw [effect, takes.foreign own]
        exact Nat.le_add_right_of_le (Nat.le_of_eq (congrArg (· + _) (Nat.add_right_cancel counted)))
  | @interrupt other =>
    simp only [change, World.setToken, Action.interrupts, taken]
    by_cases same : thread = other
    · simp [same]
    · simp [same]
  | arrange arranges =>
    rw [change, arranges.tokens]
    exact Nat.le_add_right _ _

theorem Reachable.taken_run (reach : s.Reachable) (ran : s.run? actions = some t) (thread : Nat) :
    t.taken thread + (t.world.tokens thread).toNat ≤
      s.taken thread + (s.world.tokens thread).toNat + actions.countP (Action.interrupts thread) := by
  induction actions generalizing s with
  | nil =>
    cases Option.some.inj ran
    exact Nat.le_refl _
  | cons first rest ih =>
    obtain ⟨middle, performed, ran⟩ := Option.bind_eq_some_iff.mp ran
    have once := reach.taken_next (turns performed) thread
    have later := ih (.next first reach performed) ran
    have head : (if first.interrupts thread = true then 1 else 0) = (first.interrupts thread).toNat := by
      cases first.interrupts thread <;> rfl
    rw [List.countP_cons, head]
    omega

end System

end TransferLifecycle.Interruption
