import TransferLifecycle.Proofs.Recording.Interleaving

/-! What is recorded and what a listener is told of it. The counter and the queue are changed one after
the other, by threads that race; still a listener that was there from the beginning has never been told
of more bytes than were recorded, and once all is quiet the two differ by what was lost. -/
namespace TransferLifecycle.Recording

open Pool (tally tally_nil tally_cons tally_append tally_set tally_add le_tally)

variable {α : Type} [BEq α]

def transferred (event : Event) : Nat := if event.kind = .byteTransfer then event.bytes.toNat else 0

def Action.Spares (listener : α) : Action α → Prop
  | .dispatch action => action.Spares listener
  | _ => True

namespace System

/-- The sum of the bytes of which the listener has been told, not wrapped. -/
def received (s : System α) (listener : α) : Nat :=
  tally transferred (s.dispatch.told (Dispatch.Deed.heard? listener))

/-- The sum of the bytes of the events that were given up, not wrapped. -/
def dropped (s : System α) : Nat := tally transferred s.dispatch.lost

/-- The listener was registered once, before the first call that records bytes, and has stayed. -/
inductive Watched (listener : α) : System α → Prop where
  | register {s : System α} (before : s.Reachable) (untouched : s.calls = [])
      (absent : listener ∉ s.dispatch.core.chain.toList) :
    Watched listener { s with dispatch := s.dispatch.change (s.dispatch.core.chain.add listener) }
  | next {s t : System α} (action : Action α) (before : Watched listener s)
      (spares : action.Spares listener) (performed : s.perform? action = some t) : Watched listener t

structure Accords (s : System α) : Prop where
  counter : s.progress.bytes = UInt64.ofNat s.recorded
  fired : tally transferred (s.dispatch.told Dispatch.Deed.begun?) = tally Call.announced s.calls

variable {s t : System α} {listener : α}

omit [BEq α] in
private theorem announced_le_recorded (s : System α) : tally Call.announced s.calls ≤ s.recorded := by
  unfold recorded
  induction s.calls with
  | nil => exact Nat.le_refl 0
  | cons call rest ih =>
    obtain ⟨bytes, stage⟩ := call
    have here : Call.announced ⟨bytes, stage⟩ ≤ Call.recorded ⟨bytes, stage⟩ := by
      cases stage with
      | adding addition => exact Nat.zero_le _
      | fired => exact Nat.le_refl _
    exact Nat.add_le_add here ih

private theorem begun_of_perform {dispatch later : Dispatch.System α} {action : Dispatch.Action α}
    (foreign : ∀ bytes, action ≠ .fire ⟨.byteTransfer, bytes⟩)
    (performed : dispatch.perform? action = some later) :
    tally transferred (later.told Dispatch.Deed.begun?) =
      tally transferred (dispatch.told Dispatch.Deed.begun?) := by
  cases action with
  | fire event =>
    cases Option.some.inj performed
    have light : transferred event = 0 := if_neg fun same => foreign event.bytes (by rw [← same])
    rw [Dispatch.System.told_fire, tally_append]
    simp [Dispatch.Deed.begun?, light]
  | act place act =>
    obtain ⟨strand, e, -, acts, rfl⟩ := Dispatch.System.acts_of_perform performed
    have none : e.deeds.filterMap Dispatch.Deed.begun? = [] := by
      cases acts <;> rfl
    rw [Dispatch.System.told_effect, none, List.append_nil]
  | add | remove =>
    cases Option.some.inj performed
    rfl

theorem Accords.turns (accords : s.Accords) {action : Action α} (turns : s.Turns action t) :
    t.Accords := by
  obtain ⟨counter, fired⟩ := accords
  cases turns with
  | record | setTotal =>
    constructor
    · simpa [recorded, tally_append, Call.recorded, Progress.setTotal] using counter
    · simpa [tally_append, Call.announced] using fired
  | @note place bytes found =>
    have same := tally_set (f := Call.recorded) found ⟨bytes, .adding .ofBytes⟩
    have kept := tally_set (f := Call.announced) found ⟨bytes, .adding .ofBytes⟩
    exact ⟨counter.trans (congrArg _ same.symm), fired.trans kept.symm⟩
  | @count place bytes found =>
    have more := tally_set (f := Call.recorded) found ⟨bytes, .adding .made⟩
    have kept := tally_set (f := Call.announced) found ⟨bytes, .adding .made⟩
    refine ⟨?_, fired.trans kept.symm⟩
    have sum : tally Call.recorded (s.calls.set place ⟨bytes, .adding .made⟩) =
        s.recorded + bytes.toNat := more
    rw [recorded, sum, UInt64.ofNat_add, UInt64.ofNat_toNat, counter]
  | @announce place bytes found =>
    have same := tally_set (f := Call.recorded) found ⟨bytes, .fired⟩
    have more := tally_set (f := Call.announced) found ⟨bytes, .fired⟩
    refine ⟨counter.trans (congrArg _ (Nat.add_right_cancel same).symm), ?_⟩
    rw [Dispatch.System.told_fire, tally_append, fired]
    exact more.symm
  | dispatch foreign performed =>
    exact ⟨counter, (begun_of_perform foreign performed).trans fired⟩

theorem Reachable.accords (reach : s.Reachable) : s.Accords := by
  induction reach with
  | start => exact ⟨rfl, rfl⟩
  | next action _ performed ih => exact ih.turns (turns performed)

private theorem dispatch_next {action : Action α} (turns : s.Turns action t) (reach : s.dispatch.Reachable) :
    t.dispatch.Reachable := by
  cases turns with
  | announce => exact .next (.fire _) reach rfl
  | dispatch foreign performed => exact .next _ reach performed
  | _ => exact reach

theorem Reachable.dispatch (reach : s.Reachable) : s.dispatch.Reachable := by
  induction reach with
  | start => exact .start
  | next action _ performed ih => exact dispatch_next (turns performed) ih

theorem Watched.reachable (watched : s.Watched listener) : s.Reachable := by
  induction watched with
  | register before _ _ => exact .next (.dispatch (.add listener)) before rfl
  | next action _ _ performed ih => exact .next action ih performed

theorem Watched.serving (watched : s.Watched listener) : s.dispatch.Serving transferred listener := by
  induction watched with
  | register before untouched absent =>
    have light := before.accords.fired
    rw [untouched] at light
    exact .register before.dispatch absent light
  | next action _ spares performed ih =>
    cases turns performed with
    | announce => exact .next (.fire _) ih trivial rfl
    | dispatch foreign acted => exact .next _ ih spares acted
    | _ => exact ih

/-- What a listener is told of keeps to what is recorded, and in the end makes it up with what was lost. -/
structure Balanced (s : System α) (listener : α) : Prop where
  within : s.received listener ≤ s.recorded
  settled : s.Idle →
    s.progress.bytes = UInt64.ofNat (s.received listener + s.dropped) ∧
      s.dispatch.core.dropped = UInt64.ofNat s.dispatch.lost.length ∧ s.dispatch.core.pending = 0

theorem Watched.balanced [LawfulBEq α] (watched : s.Watched listener) : s.Balanced listener := by
  have accords := watched.reachable.accords
  have serving := watched.serving
  refine ⟨?within, ?settled⟩
  case within =>
    calc s.received listener
      _ ≤ tally transferred (s.dispatch.told Dispatch.Deed.begun?) := serving.heard_le
      _ = tally Call.announced s.calls := accords.fired
      _ ≤ s.recorded := s.announced_le_recorded
  case settled =>
    rintro ⟨fired, idle⟩
    have all : s.recorded = s.received listener + s.dropped := by
      calc s.recorded
        _ = tally Call.announced s.calls := by
          refine Dispatch.tally_congr fun call member => ?_
          simp only [Call.recorded, Call.announced, fired call member]
        _ = tally transferred (s.dispatch.told Dispatch.Deed.begun?) := accords.fired.symm
        _ = s.received listener + s.dropped := serving.heard_idle idle
    have settled := serving.reachable.orderly.settled idle
    exact ⟨all ▸ accords.counter, serving.reachable.lost_length ▸ settled.2.2.1, settled.1⟩

theorem Watched.run (before : s.Watched listener) {actions : List (Action α)}
    (spare : ∀ action ∈ actions, action.Spares listener) (ran : s.run? actions = some t) :
    t.Watched listener := by
  induction actions generalizing s with
  | nil =>
    cases Option.some.inj ran
    exact before
  | cons action rest ih =>
    obtain ⟨middle, performed, ran⟩ := Option.bind_eq_some_iff.mp ran
    have here := spare action List.mem_cons_self
    have rest_spare := fun a member => spare a (List.mem_cons_of_mem _ member)
    exact ih (.next action before here performed) rest_spare ran

/-- The executor runs an emptying that calls a listener, which panics. -/
def delivering : List (Dispatch.Action Nat) :=
  Dispatch.System.moves 0 4 ++ [.act 0 .accept, .act 0 .comeBack, .act 1 .start] ++
    Dispatch.System.moves 1 4 ++ [.act 1 (.finishCall true)] ++ Dispatch.System.moves 1 5 ++
    Dispatch.System.moves 0 1

/-- The executor is stopped, and the event is discarded. -/
def refusing : List (Dispatch.Action Nat) :=
  Dispatch.System.moves 2 4 ++ [.act 2 (.refuse .shuttingDown)] ++ Dispatch.System.moves 2 9

def calling (place : Nat) (bytes : UInt64) : List (Action Nat) :=
  [.record bytes, .proceed place, .proceed place, .proceed place]

/-- One event is delivered, the next is discarded, and the last is turned away. The counter wraps. -/
def wrapping : List (Action Nat) :=
  calling 0 0xffffffffffffffff ++ delivering.map .dispatch ++ calling 1 5 ++ refusing.map .dispatch ++
    calling 2 3 ++ (Dispatch.System.moves 3 3).map .dispatch

theorem Watched.balanced_wrapping : ∃ s t : System Nat, s.Watched 7 ∧ s.run? wrapping = some t ∧ t.Idle ∧
    t.progress.bytes = 7 ∧ t.received 7 = 0xffffffffffffffff ∧ t.dropped = 8 ∧ t.recorded = 0x10000000000000007 ∧
      t.Balanced 7 := by
  have watched : ({ dispatch := ({} : Dispatch.System Nat).change (ListenerList.add {} 7) } : System Nat).Watched 7 :=
    .register .start rfl (by decide)
  refine ⟨_, _, watched, rfl, ⟨?calls, ?strands⟩, rfl, rfl, rfl, rfl, ?balanced⟩
  case calls => decide
  case strands => simp [Dispatch.System.Idle]
  case balanced =>
    have spare : ∀ action ∈ wrapping, action.Spares 7 := by
      simp [wrapping, calling, delivering, refusing, Dispatch.System.moves, Action.Spares,
        Dispatch.Action.Spares]
    exact Watched.balanced (watched.run spare rfl)

end System

end TransferLifecycle.Recording
