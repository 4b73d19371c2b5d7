import TransferLifecycle.Proofs.Waiting.Cycle

/-! What a wait has called and reported after any number of its steps. It keeps to the cycle of calls,
ends with the first turn whose handle fails or whose monitor is done, and reports what that turn says.
Without a monitor it reports so and calls nothing. -/
namespace TransferLifecycle.Waiting

variable {μ : Type} {c : Conduct μ} {m : μ} {k : Nat}

private theorem course_front : c.course m k <+: cycle m (k + 1) := by
  cases ended : c.waited m k with
  | ok => exact course_of_success ended ▸ List.prefix_refl _
  | error error =>
    rw [course_of_failure ended]
    refine ⟨[.isDone m], ?_⟩
    rw [List.append_assoc]
    rfl

private theorem cycle_front {n : Nat} (less : k ≤ n) : cycle m k <+: cycle m n := by
  induction less with
  | refl => exact List.prefix_refl _
  | step _ ih => exact ih.trans (List.prefix_append _ _)

private theorem course_starts : cycle m k ++ [.currentHandle m, .wait ⟨m, k⟩] <+: c.course m k :=
  List.prefix_append _ _

private theorem Stands.calls_front {stage : Stage μ} {calls : List (Call μ)} (stands : Stands c m k stage calls) :
    calls <+: c.course m k := by
  have begun : cycle m k <+: c.course m k := (List.prefix_append _ _).trans course_starts
  have asked : cycle m k ++ [.currentHandle m] <+: c.course m k := by
    refine List.IsPrefix.trans ⟨[.wait ⟨m, k⟩], ?_⟩ course_starts
    rw [List.append_assoc]
    rfl
  cases stands with
  | turn => exact begun
  | fetch => exact begun
  | fetching => exact asked
  | await => exact asked
  | awaiting => exact course_starts
  | inquire success => exact course_starts
  | inquiring success => exact course_of_success success ▸ List.prefix_refl _
  | told success => exact course_of_success success ▸ List.prefix_refl _
  | failed failure => exact course_of_failure failure ▸ List.prefix_refl _
  | leave stops => exact List.prefix_refl _
  | returned stops => exact List.prefix_refl _

theorem Conduct.StopsFirst.reached {i : Nat} (first : c.StopsFirst m i)
    (onward : ∀ j < k, ¬ c.Stops m j) : k ≤ i := by
  apply Nat.le_of_not_lt
  intro later
  exact onward i later first.1

variable [DecidableEq μ]

/-- The wait is in its `k`-th turn, `steps` steps after it began. -/
structure Turns (c : Conduct μ) (m : μ) (k steps : Nat) (s : System μ) : Prop where
  stands : Stands c m k s.stage s.calls
  onward : ∀ j < k, ¬ c.Stops m j
  paced : steps + s.stage.left ≤ 9 * (k + 1) + 1

variable {s t : System μ} {steps : Nat}

private theorem System.step?_of_returned {result : Except WaitError Unit} (returned : s.stage = .returned result) :
    s.step? c = none := by
  unfold System.step?
  rw [returned]

theorem Turns.perform (turns : Turns c m k steps s) {action : Action μ}
    (performed : s.perform? c action = some t) :
    ∃ k, Turns c m k (steps + [action].count .step) t := by
  have paced := turns.paced
  cases action with
  | attach other =>
    cases Option.some.inj performed
    exact ⟨k, turns.stands, turns.onward, turns.paced⟩
  | step =>
    obtain ⟨result, returned⟩ | ⟨next, stepped, within | ⟨left, goes, stage, calls⟩⟩ := turns.stands.step
    · rw [System.perform?, System.step?_of_returned returned] at performed
      cases performed
    · obtain rfl : next = t := Option.some.inj (stepped.symm.trans performed)
      refine ⟨k, within.1, turns.onward, ?_⟩
      rw [List.count_singleton_self]
      omega
    · obtain rfl : next = t := Option.some.inj (stepped.symm.trans performed)
      refine ⟨k + 1, ?_, ?_, ?_⟩
      · rw [stage, calls]
        exact .turn
      · intro j less
        obtain less | rfl := Nat.lt_succ_iff_lt_or_eq.mp less
        · exact turns.onward j less
        · exact goes
      · rw [List.count_singleton_self, stage]
        simp only [Stage.left]
        omega

theorem Turns.run {actions : List (Action μ)} (turns : Turns c m k steps s)
    (ran : s.run? c actions = some t) : ∃ k, Turns c m k (steps + actions.count .step) t := by
  induction actions generalizing s k steps with
  | nil =>
    cases Option.some.inj ran
    exact ⟨k, turns⟩
  | cons action rest ih =>
    obtain ⟨next, performed, ran⟩ := Option.bind_eq_some_iff.mp ran
    obtain ⟨k, turns⟩ := turns.perform performed
    obtain ⟨k, turns⟩ := ih turns ran
    have counted : ([action] ++ rest).count .step = [action].count .step + rest.count .step :=
      List.count_append
    rw [List.singleton_append] at counted
    exact ⟨k, by rwa [counted, ← Nat.add_assoc]⟩

/-- A wait over the monitor `m`, `steps` steps after it began. -/
structure Cyclic (c : Conduct μ) (m : μ) (steps : Nat) (s : System μ) : Prop where
  ordered : ∃ n, s.calls <+: cycle m n
  bounded : ∀ i, c.StopsFirst m i → s.calls <+: c.course m i ∧ steps ≤ 9 * (i + 1) + 1
  returns : ∀ result, s.stage = .returned result →
    ∃ i, c.StopsFirst m i ∧ s.calls = c.course m i ∧ result = c.verdict m i
  goes : (∃ result, s.stage = .returned result) ∨ ∃ next, s.perform? c .step = some next

private theorem Turns.cyclic (turns : Turns c m k steps s) : Cyclic c m steps s where
  ordered := ⟨k + 1, turns.stands.calls_front.trans course_front⟩
  bounded i first := by
    have reached := first.reached turns.onward
    have paced := turns.paced
    refine ⟨?_, by omega⟩
    obtain rfl | less := Nat.eq_or_lt_of_le reached
    · exact turns.stands.calls_front
    · have ended : c.course m k <+: cycle m i := course_front.trans (cycle_front less)
      have longer : cycle m i <+: c.course m i := (List.prefix_append _ _).trans course_starts
      exact turns.stands.calls_front.trans (ended.trans longer)
  returns result returned := by
    obtain ⟨attached, stage, calls⟩ := s
    obtain rfl : stage = .returned result := returned
    cases turns.stands with
    | returned stops => exact ⟨k, ⟨stops, turns.onward⟩, rfl, rfl⟩
  goes := by
    obtain returned | ⟨next, stepped, -⟩ := turns.stands.step
    · exact Or.inl returned
    · exact Or.inr ⟨next, stepped⟩

structure Agree (completion : Except WaitError Unit) (exception : Except WaitError (Option TransferError)) :
    Prop where
  success : exception = .ok none ↔ completion = .ok ()
  failure : ∀ error, exception = .ok (some error) ↔ completion = .error (.transfer error)
  interruption : exception = .error .interrupted ↔ completion = .error .interrupted
  wrapped : ∀ error, exception ≠ .error (.transfer error)

private theorem exception_agrees (result : Except WaitError Unit) : Agree result (Wait.exception result) := by
  obtain (error | -) | - := result <;> constructor <;> simp [Wait.exception]

namespace System

def new (attached : Option μ) : System μ := { attached }

private theorem run_returned {result : Except WaitError Unit} {actions : List (Action μ)}
    (returned : s.stage = .returned result) (ran : s.run? c actions = some t) :
    t.stage = .returned result ∧ t.calls = s.calls := by
  induction actions generalizing s with
  | nil =>
    cases Option.some.inj ran
    exact ⟨returned, rfl⟩
  | cons action rest ih =>
    obtain ⟨next, performed, ran⟩ := Option.bind_eq_some_iff.mp ran
    cases action with
    | attach other =>
      cases Option.some.inj performed
      exact ih (s := { s with attached := some other }) returned ran
    | step =>
      rw [perform?, step?_of_returned returned] at performed
      cases performed

/-- A wait keeps to the monitor that its first step finds, whatever is attached from then on. -/
theorem run_cyclic {attached : Option μ} {actions : List (Action μ)}
    (ran : (new attached).run? c (.step :: actions) = some s) :
    (∀ m, attached = some m → Cyclic c m (actions.count .step + 1) s) ∧
      (attached = none → s.calls = [] ∧
        s.stage = .returned (.error (.transfer (.client "transfer has no monitor attached" none)))) ∧
      ∀ result, Agree result (Wait.exception result) := by
  refine ⟨?_, ?_, exception_agrees⟩
  · rintro m rfl
    have begun : Turns c m 0 1 { attached := some m, stage := .driving (.turn m) } :=
      ⟨.turn, fun j less => absurd less (Nat.not_lt_zero j), Nat.le_refl _⟩
    obtain ⟨k, turns⟩ := begun.run ran
    rw [Nat.add_comm]
    exact turns.cyclic
  · rintro rfl
    have told : run? c ⟨none, .returned (.error (.transfer .noMonitor)), []⟩ actions = some s := ran
    obtain ⟨stage, calls⟩ := run_returned rfl told
    exact ⟨calls, stage⟩

/-- The third unit of the monitor `true` is canceled. -/
def failing : Conduct Bool where
  waited monitor i :=
    if monitor && i == 2 then .error (.execution ⟨.mk 0 (.transfer .canceled)⟩) else .ok ()
  done monitor _ := !monitor

/-- Another monitor, that would be done, is attached while the wait is inside its second wait. -/
def replacing : List (Action Bool) :=
  .replicate 12 .step ++ .attach false :: .replicate 11 .step

theorem run_cyclic_replacing : ∃ s, (new (some true)).run? failing (.step :: replacing) = some s ∧
    s.stage = .returned (.error (.transfer .canceled)) ∧ s.calls = failing.course true 2 ∧
    s.attached = some false ∧ Cyclic failing true (replacing.count .step + 1) s := by
  have ran : ∃ s, (new (some true)).run? failing (.step :: replacing) = some s ∧
      s.stage = .returned (.error (.transfer .canceled)) ∧ s.calls = failing.course true 2 ∧
      s.attached = some false :=
    ⟨_, rfl, rfl, rfl, rfl⟩
  obtain ⟨s, ran, returned, calls, attached⟩ := ran
  exact ⟨s, ran, returned, calls, attached, (run_cyclic ran).1 true rfl⟩

end System

end TransferLifecycle.Waiting
