import TransferLifecycle.Wait

/-! A wait over a monitor of any kind, of which nothing is known but how it answers. The wait asks for a
handle, waits on it and asks whether the transfer is done, turn after turn, until the wait on a handle
fails or the transfer is done. Whatever is attached to the transfer meanwhile, it keeps to the monitor
that it found when it began. -/
namespace TransferLifecycle.Waiting

open Wait (Drive Turn)

/-- How the monitors answer: how the wait on the handle ends that one hands out when it is asked for the
`i`-th time, and what it says when it is asked for the `i`-th time whether the transfer is done. -/
structure Conduct (μ : Type) where
  waited : μ → Nat → Waited
  done : μ → Nat → Bool

/-- What a monitor hands out when it has been asked `index` times before. -/
structure Handle (μ : Type) where
  monitor : μ
  index : Nat
  deriving DecidableEq

inductive Call (μ : Type) where
  | currentHandle (monitor : μ)
  | wait (handle : Handle μ)
  | isDone (monitor : μ)
  deriving DecidableEq

inductive Stage (μ : Type) where
  | driving (drive : Drive μ)
  | turning (drive : Drive μ) (monitor : μ) (turn : Turn (Handle μ))
  | asking (drive : Drive μ) (monitor : μ) (turn : Turn (Handle μ)) (question : Turn.Question (Handle μ))
  | returned (result : Except WaitError Unit)

/-- The monitor attached to the transfer, the wait, and the calls that it has made. -/
structure System (μ : Type) where
  attached : Option μ
  stage : Stage μ := .driving .attach
  calls : List (Call μ) := []

inductive Action (μ : Type) where
  | step
  /-- Somebody attaches a monitor, perhaps from inside a call that the wait has made. -/
  | attach (monitor : μ)
  deriving DecidableEq

variable {μ : Type}

def callOf (monitor : μ) : Turn.Question (Handle μ) → Call μ
  | .currentHandle => .currentHandle monitor
  | .wait handle => .wait handle
  | .isDone => .isDone monitor

def Conduct.answer [DecidableEq μ] (c : Conduct μ) (calls : List (Call μ)) (monitor : μ) :
    Turn.Question (Handle μ) → Turn.Answer (Handle μ)
  | .currentHandle => .handle ⟨monitor, calls.count (.currentHandle monitor) - 1⟩
  | .wait handle => .waited (c.waited handle.monitor handle.index)
  | .isDone => .done (c.done monitor (calls.count (.isDone monitor) - 1))

namespace System

def step? [DecidableEq μ] (c : Conduct μ) (s : System μ) : Option (System μ) :=
  match s.stage with
  | .driving drive =>
    match drive.step s.attached with
    | .goto drive => some { s with stage := .driving drive }
    | .ask monitor drive => some { s with stage := .turning drive monitor .fetch }
    | .done result => some { s with stage := .returned result }
    | .blocked => none
  | .turning drive monitor turn =>
    match turn.step with
    | .goto turn => some { s with stage := .turning drive monitor turn }
    | .ask question turn =>
      some { s with stage := .asking drive monitor turn question
                    calls := s.calls ++ [callOf monitor question] }
    | .done result => some { s with stage := .driving (drive.resume result) }
    | .blocked => none
  | .asking drive monitor turn question =>
    some { s with stage := .turning drive monitor (turn.resume (c.answer s.calls monitor question)) }
  | .returned _ => none

def perform? [DecidableEq μ] (c : Conduct μ) (s : System μ) : Action μ → Option (System μ)
  | .step => s.step? c
  | .attach monitor => some { s with attached := some monitor }

def run? [DecidableEq μ] (c : Conduct μ) (s : System μ) : List (Action μ) → Option (System μ)
  | [] => some s
  | action :: rest => (s.perform? c action).bind (run? c · rest)

end System

def cycle (m : μ) : Nat → List (Call μ)
  | 0 => []
  | n + 1 => cycle m n ++ [.currentHandle m, .wait ⟨m, n⟩, .isDone m]

namespace Conduct

variable (c : Conduct μ) (m : μ)

def Stops (i : Nat) : Prop := (∃ error, c.waited m i = .error error) ∨ c.done m i = true

def StopsFirst (i : Nat) : Prop := c.Stops m i ∧ ∀ j < i, ¬ c.Stops m j

/-- The calls of a wait whose last turn is the `i`-th. -/
def course (i : Nat) : List (Call μ) :=
  cycle m i ++ [.currentHandle m, .wait ⟨m, i⟩] ++
    match c.waited m i with
    | .ok () => [.isDone m]
    | .error _ => []

def verdict (i : Nat) : Except WaitError Unit :=
  match c.waited m i with
  | .ok () => .ok ()
  | .error .interrupted => .error .interrupted
  | .error (.execution failure) => .error (.transfer failure.unwrap)

end Conduct

/-- Where the wait stands in its `k`-th turn, and the calls that it has made by then. -/
inductive Stands (c : Conduct μ) (m : μ) (k : Nat) : Stage μ → List (Call μ) → Prop where
  | turn : Stands c m k (.driving (.turn m)) (cycle m k)
  | fetch : Stands c m k (.turning (.turning m) m .fetch) (cycle m k)
  | fetching :
    Stands c m k (.asking (.turning m) m .fetching .currentHandle) (cycle m k ++ [.currentHandle m])
  | await : Stands c m k (.turning (.turning m) m (.await ⟨m, k⟩)) (cycle m k ++ [.currentHandle m])
  | awaiting :
    Stands c m k (.asking (.turning m) m .awaiting (.wait ⟨m, k⟩))
      (cycle m k ++ [.currentHandle m, .wait ⟨m, k⟩])
  | inquire (success : c.waited m k = .ok ()) :
    Stands c m k (.turning (.turning m) m .inquire) (cycle m k ++ [.currentHandle m, .wait ⟨m, k⟩])
  | inquiring (success : c.waited m k = .ok ()) :
    Stands c m k (.asking (.turning m) m .inquiring .isDone) (cycle m (k + 1))
  | told (success : c.waited m k = .ok ()) :
    Stands c m k (.turning (.turning m) m (.leave (.ok (c.done m k)))) (cycle m (k + 1))
  | failed {error} (failure : c.waited m k = .error error) :
    Stands c m k (.turning (.turning m) m (.leave (.error error)))
      (cycle m k ++ [.currentHandle m, .wait ⟨m, k⟩])
  | leave (stops : c.Stops m k) : Stands c m k (.driving (.leave (c.verdict m k))) (c.course m k)
  | returned (stops : c.Stops m k) : Stands c m k (.returned (c.verdict m k)) (c.course m k)

def Stage.left : Stage μ → Nat
  | .driving (.turn _) => 9
  | .turning _ _ .fetch => 8
  | .asking _ _ .fetching _ => 7
  | .turning _ _ (.await _) => 6
  | .asking _ _ .awaiting _ => 5
  | .turning _ _ .inquire => 4
  | .asking _ _ .inquiring _ => 3
  | .turning _ _ (.leave _) => 2
  | .driving (.leave _) => 1
  | _ => 0

section

variable [DecidableEq μ] {c : Conduct μ} {m : μ} {k : Nat}

private theorem count_cycle (m : μ) (n : Nat) :
    (cycle m n).count (.currentHandle m) = n ∧ (cycle m n).count (.isDone m) = n := by
  induction n with
  | zero => exact ⟨rfl, rfl⟩
  | succ n ih => simp [cycle, List.count_append, ih]

private theorem answer_currentHandle :
    c.answer (cycle m k ++ [.currentHandle m]) m .currentHandle = .handle ⟨m, k⟩ := by
  simp [Conduct.answer, List.count_append, (count_cycle m k).1]

private theorem answer_isDone : c.answer (cycle m (k + 1)) m .isDone = .done (c.done m k) := by
  simp [Conduct.answer, (count_cycle m (k + 1)).2]

omit [DecidableEq μ] in
theorem course_of_success (success : c.waited m k = .ok ()) : c.course m k = cycle m (k + 1) := by
  simp [Conduct.course, cycle, success]

omit [DecidableEq μ] in
theorem course_of_failure {error : HandleError} (failure : c.waited m k = .error error) :
    c.course m k = cycle m k ++ [.currentHandle m, .wait ⟨m, k⟩] := by
  simp [Conduct.course, failure]

omit [DecidableEq μ] in
private theorem stands_after_answer (success : c.waited m k = .ok ()) :
    c.done m k = true ∧ Stands c m k (.driving (.leave (.ok ()))) (cycle m (k + 1)) ∨
      c.done m k = false ∧ ¬ c.Stops m k := by
  cases done : c.done m k with
  | true =>
    have left := Stands.leave (c := c) (m := m) (k := k) (Or.inr done)
    rw [course_of_success success, Conduct.verdict, success] at left
    exact Or.inl ⟨rfl, left⟩
  | false =>
    refine Or.inr ⟨rfl, ?_⟩
    rintro (⟨error, failure⟩ | told)
    · rw [success] at failure
      cases failure
    · rw [done] at told
      cases told

omit [DecidableEq μ] in
private theorem stands_after_error {error : HandleError} (failure : c.waited m k = .error error) :
    Stands c m k (.driving (Drive.resume (.turning m) (.error error)))
      (cycle m k ++ [.currentHandle m, .wait ⟨m, k⟩]) := by
  have left := Stands.leave (c := c) (m := m) (k := k) (Or.inl ⟨error, failure⟩)
  rw [course_of_failure failure, Conduct.verdict, failure] at left
  cases error <;> exact left

theorem Stands.step {s : System μ} (stands : Stands c m k s.stage s.calls) :
    (∃ result, s.stage = .returned result) ∨
    ∃ t, s.step? c = some t ∧
      (Stands c m k t.stage t.calls ∧ t.stage.left < s.stage.left ∨
        0 < s.stage.left ∧ ¬ c.Stops m k ∧ t.stage = .driving (.turn m) ∧
          t.calls = cycle m (k + 1)) := by
  obtain ⟨attached, stage, calls⟩ := s
  cases stands with
  | turn => exact Or.inr ⟨_, rfl, Or.inl ⟨.fetch, Nat.lt_succ_self 8⟩⟩
  | fetch => exact Or.inr ⟨_, rfl, Or.inl ⟨.fetching, Nat.lt_succ_self 7⟩⟩
  | fetching =>
    have next : Stands c m k (.turning (.turning m) m (Turn.resume .fetching
        (c.answer (cycle m k ++ [.currentHandle m]) m .currentHandle)))
        (cycle m k ++ [.currentHandle m]) := by
      rw [answer_currentHandle]
      exact .await
    exact Or.inr ⟨_, rfl, Or.inl ⟨next, Nat.lt_succ_self 6⟩⟩
  | await =>
    have next : Stands c m k (.asking (.turning m) m .awaiting (.wait ⟨m, k⟩))
        (cycle m k ++ [.currentHandle m] ++ [.wait ⟨m, k⟩]) := by
      rw [List.append_assoc]
      exact .awaiting
    exact Or.inr ⟨_, rfl, Or.inl ⟨next, Nat.lt_succ_self 5⟩⟩
  | awaiting =>
    refine Or.inr ⟨_, rfl, Or.inl ?_⟩
    dsimp only [Conduct.answer]
    cases ended : c.waited m k with
    | ok => exact ⟨.inquire ended, Nat.lt_succ_self 4⟩
    | error error => exact ⟨.failed ended, Nat.lt_add_of_pos_right (by decide : 0 < 3)⟩
  | inquire success =>
    have next : Stands c m k (.asking (.turning m) m .inquiring .isDone)
        (cycle m k ++ [.currentHandle m, .wait ⟨m, k⟩] ++ [.isDone m]) := by
      rw [List.append_assoc]
      exact .inquiring success
    exact Or.inr ⟨_, rfl, Or.inl ⟨next, Nat.lt_succ_self 3⟩⟩
  | inquiring success =>
    have next : Stands c m k (.turning (.turning m) m (Turn.resume .inquiring
        (c.answer (cycle m (k + 1)) m .isDone))) (cycle m (k + 1)) := by
      rw [answer_isDone]
      exact .told success
    exact Or.inr ⟨_, rfl, Or.inl ⟨next, Nat.lt_succ_self 2⟩⟩
  | told success =>
    refine Or.inr ⟨_, rfl, ?_⟩
    obtain ⟨done, left⟩ | ⟨done, goes⟩ := stands_after_answer success <;> rw [done]
    · exact Or.inl ⟨left, Nat.lt_succ_self 1⟩
    · exact Or.inr ⟨Nat.succ_pos 1, goes, rfl, rfl⟩
  | @failed error failure =>
    have next := stands_after_error failure
    cases error <;> exact Or.inr ⟨_, rfl, Or.inl ⟨next, Nat.lt_succ_self 1⟩⟩
  | leave stops => exact Or.inr ⟨_, rfl, Or.inl ⟨.returned stops, Nat.lt_succ_self 0⟩⟩
  | returned stops => exact Or.inl ⟨_, rfl⟩

end

end TransferLifecycle.Waiting
