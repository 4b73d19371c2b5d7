import TransferLifecycle.Proofs.Interruption.Interleaving

/-! Operations on one monitor exclude each other, and those on different monitors do not meet. So what an
operation has found out about its monitor still holds at its next step, whatever the other threads do. -/
namespace TransferLifecycle.Interruption

private theorem grows_of_acts {me thread : Nat} {w : Monitoring.World} {stage : Monitoring.Stage}
    {e : Monitoring.Effect} (acts : stage.Acts me thread w e) : w.Grows e.world := by
  cases acts with
  | answer => exact Monitoring.World.grows_answer w _
  | _ => exact Monitoring.World.Grows.of_eq rfl

namespace World

variable {w : World} {k : Nat} {m : UnitMonitor Monitoring.Handle}

private theorem holder_of_found (found : w.monitors[k]? = some m) : w.holder k = m.holder := by
  rw [holder, found, Option.bind_some]

theorem monitors_after (found : w.monitors[k]? = some m) (view : Monitoring.World) :
    (w.after k view).monitors[k]? = some view.monitor :=
  List.getElem?_set_self (List.getElem?_eq_some_iff.mp found).1

private theorem monitors_after_ne {other : Nat} (apart : k ≠ other) (view : Monitoring.World) :
    (w.after k view).monitors[other]? = w.monitors[other]? :=
  List.getElem?_set_ne apart

end World

namespace Stage

def Formed : Stage → Prop
  | .watching _ stage => stage.Formed
  | _ => True

def Inside (k : Nat) : Stage → Prop
  | .watching other stage => other = k ∧ stage.inside = true
  | _ => False

def Known (w : World) : Stage → Prop
  | .watching k stage => ∀ m, w.monitors[k]? = some m → stage.Known (w.facing m)
  | _ => True

variable {me thread k : Nat} {w : World} {stage : Stage} {e : Effect}

theorem Acts.formed (acts : stage.Acts me thread w e) (before : stage.Formed) : e.stage.Formed := by
  cases acts with
  | watch found acts => exact acts.formed before
  | _ => trivial

theorem Acts.grows (acts : stage.Acts me thread w e) : w.Grows e.world := by
  cases acts with
  | watch found acts =>
    intro h outcome some
    exact grows_of_acts acts h outcome some
  | _ =>
    intro h outcome some
    exact some

theorem Acts.holder (acts : stage.Acts me thread w e) (held : w.holder k = some me ↔ stage.Inside k) :
    (e.world.holder k = some me ↔ e.stage.Inside k) ∧
      ∀ other, me ≠ other → (e.world.holder k = some other ↔ w.holder k = some other) := by
  cases acts with
  | @watch own m stage e found acts =>
    by_cases same : own = k
    · subst same
      have view : m.holder = some me ↔ stage.inside = true := by
        simpa [World.holder_of_found found, Inside] using held
      simpa [World.holder_of_found (World.monitors_after found _), World.holder_of_found found, Inside]
        using acts.holder view
    · have kept : (w.after own e.world).holder k = w.holder k := by
        rw [World.holder, World.holder, World.monitors_after_ne same]
      simpa [kept, Inside, same] using held
  | attach =>
    refine ⟨held.trans ?_, fun _ _ => Iff.rfl⟩
    simp [Inside, Monitoring.Stage.inside]
  | _ => exact ⟨held, fun _ _ => Iff.rfl⟩

theorem Acts.aside (acts : stage.Acts me thread w e) (formed : stage.Formed)
    (outside : ¬ stage.Inside k) {other : Nat} (held : w.holder k = some other) :
    e.world.monitors[k]? = w.monitors[k]? := by
  cases acts with
  | @watch own m stage e found acts =>
    by_cases same : own = k
    · subst same
      rw [World.holder_of_found found] at held
      have apart : stage.inside = false := Bool.eq_false_iff.mpr fun inside => outside ⟨rfl, inside⟩
      rw [World.monitors_after found, found]
      exact congrArg some (acts.aside formed apart held).1
    · exact World.monitors_after_ne same _
  | _ => rfl

theorem Acts.known (acts : stage.Acts me thread w e) (formed : stage.Formed) (known : stage.Known w) :
    e.stage.Known e.world := by
  cases acts with
  | @watch k m stage e found acts =>
    intro later there
    rw [World.monitors_after found] at there
    cases there
    exact acts.known formed (known m found)
  | attach =>
    intro m _
    trivial
  | _ => trivial

theorem Known.stable {later : World} (known : stage.Known w) (formed : stage.Formed)
    (grows : w.Grows later)
    (kept : ∀ k, stage.Inside k → later.monitors[k]? = w.monitors[k]?) : stage.Known later := by
  cases stage with
  | watching k stage =>
    intro m there
    cases inside : stage.inside with
    | false => exact Monitoring.Stage.known_of_outside _ formed inside
    | true =>
      rw [kept k ⟨rfl, inside⟩] at there
      have before := known m there
      exact before.stable (fun h outcome some => grows h outcome some) rfl
  | _ => trivial

end Stage

namespace System

theorem Fresh.formed {strand : Strand} (fresh : Fresh strand) : strand.stage.Formed := by
  obtain ⟨transfer, atStart⟩ | ⟨h, atStart⟩ | ⟨k, op, atStart⟩ := fresh <;> rw [atStart]
  · trivial
  · trivial
  · exact ⟨trivial, rfl⟩

theorem Fresh.outside {strand : Strand} (fresh : Fresh strand) (k : Nat) : ¬ strand.stage.Inside k := by
  obtain ⟨transfer, atStart⟩ | ⟨h, atStart⟩ | ⟨other, op, atStart⟩ := fresh <;> rw [atStart]
  · exact id
  · exact id
  · rintro ⟨-, inside⟩
    cases inside

variable {s t : System} {action : Action} {place : Nat} {strand : Strand}

theorem Reachable.formed (reach : s.Reachable) (found : s.strands[place]? = some strand) :
    strand.stage.Formed := by
  refine reach.invariant (fun s => ∀ place strand, s.strands[place]? = some strand →
    strand.stage.Formed) ?start ?turn place strand found
  case start =>
    intro w _ place strand found
    cases found
  case turn =>
    intro s action t _ ih turns place strand found
    obtain ⟨old, -⟩ | ⟨old, e, -, here, acts, rfl, -⟩ | ⟨-, -, fresh⟩ := turns.found found
    · exact ih place strand old
    · exact acts.formed (ih place old here)
    · exact fresh.formed

/-- The holder of a monitor is the strand that is in the middle of an operation on it. -/
def Exclusive (s : System) : Prop :=
  ∀ k place, s.world.holder k = some place ↔ ∃ strand, s.strands[place]? = some strand ∧ strand.stage.Inside k

theorem Reachable.exclusive (reach : s.Reachable) : s.Exclusive := by
  refine reach.invariant Exclusive ?start ?turn
  case start =>
    intro w quiet k place
    have free : w.holder k = none := by
      cases found : w.monitors[k]? with
      | none => rw [World.holder, found, Option.bind_none]
      | some m => rw [World.holder_of_found found, quiet.1 m (List.mem_of_getElem? found)]
    simp [free]
  case turn =>
    intro s action t _ ih turns k place
    cases turns with
    | @begin action new idle fresh other =>
      refine (ih k place).trans ⟨?_, ?_⟩
      · rintro ⟨strand, found, inside⟩
        exact ⟨strand, List.getElem?_append_left (List.getElem?_eq_some_iff.mp found).1 ▸ found, inside⟩
      · rintro ⟨strand, found, inside⟩
        obtain old | ⟨-, rfl⟩ := found_begin found
        · exact ⟨strand, old, inside⟩
        · exact (fresh.outside k inside).elim
    | @step acting actor e here acts =>
      have held : s.world.holder k = some acting ↔ actor.stage.Inside k := by
        rw [ih k acting]
        simp [here]
      obtain ⟨own, rest⟩ := acts.holder held
      have bound := (List.getElem?_eq_some_iff.mp here).1
      by_cases same : acting = place
      · subst same
        simpa [effect, List.getElem?_set_self bound] using own
      · simpa [effect, List.getElem?_set_ne same] using (rest place same).trans (ih k place)
    | interrupt => exact ih k place
    | arrange arranges => exact (arranges.holder k).symm ▸ ih k place

theorem Reachable.undisturbed (reach : s.Reachable) (turns : s.Turns action t)
    (found : s.strands[place]? = some strand) (other : action ≠ .step place) :
    s.world.Grows t.world ∧ ∀ k, strand.stage.Inside k → t.world.monitors[k]? = s.world.monitors[k]? := by
  cases turns with
  | @step acting actor e here acts =>
    refine ⟨acts.grows, fun k inside => ?_⟩
    have held := (reach.exclusive k place).mpr ⟨strand, found, inside⟩
    refine acts.aside (reach.formed here) (fun both => ?_) held
    have also_held := (reach.exclusive k acting).mpr ⟨actor, here, both⟩
    exact other (congrArg Action.step (Option.some.inj (also_held.symm.trans held)))
  | arrange arranges =>
    refine ⟨arranges.grows, fun k inside => ?_⟩
    have held := (reach.exclusive k place).mpr ⟨strand, found, inside⟩
    obtain ⟨m, there, -⟩ := Option.bind_eq_some_iff.mp held
    exact (arranges.kept k m there).trans there.symm
  | begin | interrupt => exact ⟨fun _ _ some => some, fun _ _ => rfl⟩

/-- What holds of a strand goes on to do so, whatever becomes of it and of the others. -/
structure Lasting (holds : World → Strand → Prop) : Prop where
  own : ∀ w place strand e, strand.stage.Formed → strand.stage.Known w →
    strand.stage.Acts place strand.thread w e → holds w strand → holds e.world { strand with stage := e.stage }
  stable : ∀ w later strand, strand.stage.Formed → World.Grows w later →
    (∀ k, strand.stage.Inside k → later.monitors[k]? = w.monitors[k]?) → holds w strand → holds later strand

theorem Fresh.known {strand : Strand} (fresh : Fresh strand) (w : World) : strand.stage.Known w := by
  obtain ⟨transfer, atStart⟩ | ⟨h, atStart⟩ | ⟨k, op, atStart⟩ := fresh <;> rw [atStart]
  · trivial
  · trivial
  · intro m _
    trivial

theorem Reachable.known (reach : s.Reachable) (found : s.strands[place]? = some strand) :
    strand.stage.Known s.world := by
  refine reach.invariant (fun s => ∀ place strand, s.strands[place]? = some strand →
    strand.stage.Known s.world) ?start ?turn place strand found
  case start =>
    intro w _ place strand found
    cases found
  case turn =>
    intro s action t reach ih turns place strand found
    obtain ⟨old, other⟩ | ⟨old, e, -, here, acts, rfl, rfl⟩ | ⟨-, -, new⟩ := turns.found found
    · obtain ⟨grows, kept⟩ := reach.undisturbed turns old other
      exact (ih place strand old).stable (reach.formed old) grows kept
    · exact acts.known (reach.formed here) (ih place old here)
    · exact new.known _

theorem Lasting.next {holds : World → Strand → Prop} (lasting : Lasting holds) (reach : s.Reachable)
    (turns : s.Turns action t) (found : s.strands[place]? = some strand) (before : holds s.world strand) :
    ∃ later, t.strands[place]? = some later ∧ holds t.world later := by
  obtain ⟨later, there, -⟩ := turns.next found
  refine ⟨later, there, ?_⟩
  obtain ⟨old, other⟩ | ⟨old, e, -, here, acts, rfl, rfl⟩ | ⟨new, -⟩ := turns.found there
  · obtain rfl := Option.some.inj (old.symm.trans found)
    obtain ⟨grows, kept⟩ := reach.undisturbed turns old other
    exact lasting.stable _ _ _ (reach.formed old) grows kept before
  · obtain rfl := Option.some.inj (here.symm.trans found)
    exact lasting.own _ _ _ _ (reach.formed here) (reach.known here) acts before
  · rw [← new, List.getElem?_eq_none (Nat.le_refl _)] at found
    cases found

theorem Lasting.run {holds : World → Strand → Prop} (lasting : Lasting holds) (reach : s.Reachable)
    {actions : List Action} (ran : s.run? actions = some t) (found : s.strands[place]? = some strand)
    (before : holds s.world strand) : ∃ later, t.strands[place]? = some later ∧ holds t.world later := by
  induction actions generalizing s strand with
  | nil =>
    cases Option.some.inj ran
    exact ⟨strand, found, before⟩
  | cons first rest ih =>
    obtain ⟨middle, performed, ran⟩ := Option.bind_eq_some_iff.mp ran
    obtain ⟨later, there, holds⟩ := lasting.next reach (turns performed) found before
    exact ih (.next first reach performed) ran there holds

theorem Lasting.reachable {holds : World → Strand → Prop} (lasting : Lasting holds)
    (fresh : ∀ w strand, Fresh strand → holds w strand) (reach : s.Reachable)
    (found : s.strands[place]? = some strand) : holds s.world strand := by
  refine reach.invariant (fun s => ∀ place strand, s.strands[place]? = some strand →
    holds s.world strand) ?start ?turn place strand found
  case start =>
    intro w _ place strand found
    cases found
  case turn =>
    intro s action t reach ih turns place strand found
    obtain ⟨old, -⟩ | ⟨old, e, -, here, -⟩ | ⟨-, -, new⟩ := turns.found found
    · obtain ⟨later, there, holds⟩ := lasting.next reach turns old (ih place strand old)
      cases Option.some.inj (there.symm.trans found)
      exact holds
    · obtain ⟨later, there, holds⟩ := lasting.next reach turns here (ih place old here)
      cases Option.some.inj (there.symm.trans found)
      exact holds
    · exact fresh _ _ new

end System

end TransferLifecycle.Interruption
