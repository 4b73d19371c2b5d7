import TransferLifecycle.Proofs.Session.Aside
import TransferLifecycle.Proofs.Session.Mirroring

/-! Waits and transfers do not interfere. Of a run we see the turns of the threads that attend to a wait
and the operations that are begun on the side of the waits, and nothing else. Two runs of which the same
is seen may differ in anything that is done to the states, the counters, the listeners and the events of
the transfers. Their waits are blocked at the same places and come to the same results, and on their part
leave no trace on the side of the transfers. -/
namespace TransferLifecycle.Session

inductive Label where
  | turn (thread : Nat)
  | begin (thread : Nat) (operation : Operation)

def Label.thread : Label → Nat
  | .turn thread => thread
  | .begin thread _ => thread

def label? (s : Session) (me : Nat) : Option Label :=
  match s.threads[me]? with
  | none => none
  | some thread =>
    match front thread.stack with
    | _ :: _ => some (.turn me)
    | [] =>
      match thread.stack, thread.mode with
      | activity :: _, .running => (s.begun? me activity).map (.begin me)
      | _, _ => none

def outcome? (s : Session) (me : Nat) : Option Mode :=
  (s.threads[me]?).bind fun thread => if (front thread.stack).isEmpty then some thread.mode else none

structure Sight where
  label : Label
  outcome : Option Mode

def sight (t : Session) : Label → Sight
  | .turn me => ⟨.turn me, t.outcome? me⟩
  | .begin me operation => ⟨.begin me operation, none⟩

inductive Move where
  | hand (step : Step)
  | thread (id : Nat)

/-- The main thread is handed a step when it has done with the one before. Threads move as long as no
handle takes steps of its own when it is waited on. -/
def move? (s : Session) : Move → Option Session
  | .hand step => if (s.frames mainThread).isEmpty then some (s.submit step) else none
  | .thread me => if s.passive then s.step? me else none

def seen (s t : Session) : Move → List Sight
  | .hand _ => []
  | .thread me => (s.label? me).toList.map t.sight

def course? : Session → List Move → Option (List Sight × Session)
  | s, [] => some ([], s)
  | s, move :: moves =>
    match s.move? move with
    | none => none
    | some t => (course? t moves).map fun (sights, last) => (s.seen t move ++ sights, last)

/-! What becomes of the two sides when a thread is put elsewhere. -/

section

variable (s : Session) (me : Nat)

private theorem waitSide_put (stack : List Activity) (mode : Mode) :
    (s.put me stack mode).waitSide = { s.waitSide with
      attentions := s.waitSide.attentions.modify me fun a => attention a.token (front stack) mode } := by
  rw [waitSide, attentions_put]
  rfl

theorem Layered.modify (layered : s.Layered) {stack : List Activity}
    (apart : ∀ activity ∈ stack, activity.attends = false) :
    ∀ other ∈ s.backs.modify me fun _ => stack, ∀ activity ∈ other, activity.attends = false := by
  intro other member
  obtain ⟨place, inside, here⟩ := Array.getElem_of_mem member
  rw [Array.getElem_modify] at here
  split at here
  · rwa [← here]
  · exact layered other (here ▸ Array.getElem_mem _)

private theorem layered_put (layered : s.Layered) {stack : List Activity}
    (apart : ∀ activity ∈ back stack, activity.attends = false) (mode : Mode) :
    (s.put me stack mode).Layered := by
  rw [Layered, backs_put]
  exact layered.modify s me apart

private theorem outcome_put (stack : List Activity) (mode : Mode) :
    (s.put me stack mode).outcome? me =
      (s.attentions[me]?).bind fun _ => if (front stack).isEmpty then some mode else none := by
  simp only [outcome?, put, attentions, Array.getElem?_modify, if_true, Array.getElem?_map,
    Option.bind_map]
  rfl

private theorem attend_of_idle (idle : ∀ thread, s.threads[me]? = some thread → front thread.stack = []) :
    s.waitSide.attend me [] = s.waitSide := by
  have same : s.attentions.modify me (fun a => attention a.token [] .running) = s.attentions := by
    refine modify_eq_self fun a here => ?_
    rw [attentions, Array.getElem?_map] at here
    obtain ⟨thread, found, rfl⟩ := Option.map_eq_some_iff.mp here
    rw [Thread.attention, idle thread found]
    rfl
  rw [WaitSide.attend, show s.waitSide.attentions = s.attentions from rfl, same]
  rfl

private theorem submit_aside (step : Step) (idle : s.frames mainThread = []) (layered : s.Layered) :
    (s.submit step).waitSide = s.waitSide ∧ (s.submit step).Layered := by
  have none : ∀ thread, s.threads[mainThread]? = some thread → front thread.stack = [] := by
    intro thread found
    rw [frames, found] at idle
    rw [show thread.stack = [] from idle]
    rfl
  have attentions : (s.submit step).attentions =
      s.attentions.modify mainThread fun a => attention a.token [] .running :=
    map_modify_of Thread.attention
      (fun t => { t with stack := [.steps .main [step] 0], mode := .running, notices := [] })
      (fun a => attention a.token [] .running) (fun _ => rfl) s.threads mainThread
  have backs : (s.submit step).backs = s.backs.modify mainThread fun _ => [.steps .main [step] 0] :=
    map_modify_of (fun thread : Thread => back thread.stack)
      (fun t => { t with stack := [.steps .main [step] 0], mode := .running, notices := [] })
      (fun _ => [.steps .main [step] 0]) (fun _ => rfl) s.threads mainThread
  constructor
  · rw [← s.attend_of_idle mainThread none, waitSide, attentions]
    rfl
  · rw [Layered, backs]
    exact layered.modify s mainThread (by simp [Activity.attends])

end

/-! Steps of a thread that does not attend to a wait. -/

section

variable {s t u v m : Session} {me : Nat} {rest below : List Activity} {operation : Option Operation}

private theorem attends_added (operation : Option Operation) (w : WaitSide) : Attends (added operation w) := by
  cases operation with
  | none => exact .nil
  | some operation => exact operation.attends_frames w

private theorem Leads.results (leads : Leads s me rest operation t)
    (apart : ∀ activity ∈ rest, activity.attends = false) (layered : s.Layered) :
    t.waitSide = (effect me operation s.waitSide).attend me (added operation s.waitSide) ∧ t.Layered := by
  obtain ⟨m, others, mode, beside, away, runs, rfl⟩ := leads
  have top := attends_added operation s.waitSide (others ++ rest)
  have idle : ∀ activity ∈ others ++ rest, activity.attends = false := by
    intro activity member
    exact (List.mem_append.mp member).elim (away activity) (apart activity)
  constructor
  · rw [waitSide_put, top.front, front_eq_nil idle, List.append_nil, beside.side]
    obtain nothing | rfl := runs
    · rw [nothing]
      rfl
    · rfl
  · refine layered_put m me (beside.layered layered) ?_ mode
    rwa [top.back, back_eq_self (front_eq_nil idle)]

private theorem step_aside {thread : Thread} (layered : s.Layered) (found : s.threads[me]? = some thread)
    (idle : front thread.stack = []) (stepped : s.step? me = some t) :
    ∃ operation, s.label? me = operation.map (.begin me) ∧
      t.waitSide = (effect me operation s.waitSide).attend me (added operation s.waitSide) ∧ t.Layered := by
  have apart : ∀ activity ∈ thread.stack, activity.attends = false := by
    refine layered thread.stack (Array.mem_map.mpr ⟨thread, Array.mem_of_getElem? found, ?_⟩)
    exact back_eq_self idle
  cases stack : thread.stack with
  | nil => simp [step?, found, stack] at stepped
  | cons a rest =>
    rw [stack] at apart idle
    have away : ∀ activity ∈ rest, activity.attends = false :=
      fun activity member => apart activity (List.mem_cons_of_mem a member)
    have leads : ∃ operation, s.label? me = operation.map (.begin me) ∧ Leads s me rest operation t := by
      simp only [step?, found, stack] at stepped
      cases mode : thread.mode with
      | running =>
        rw [mode] at stepped
        refine ⟨s.begun? me a, ?_, leads_advance (apart a List.mem_cons_self) stepped⟩
        simp only [label?, found, stack, idle, mode]
      | returning reply =>
        rw [mode] at stepped
        refine ⟨none, ?_, leads_resume (apart a List.mem_cons_self) stepped⟩
        simp only [label?, found, stack, idle, mode, Option.map_none]
      | unwinding panic =>
        rw [mode] at stepped
        cases Option.some.inj stepped
        refine ⟨none, ?_, leads_unwind (apart a List.mem_cons_self)⟩
        simp only [label?, found, stack, idle, mode, Option.map_none]
    obtain ⟨operation, labelled, leads⟩ := leads
    exact ⟨operation, labelled, leads.results away layered⟩

/-! Turns of a thread that attends to one. -/

private theorem turn_iff : s.label? me = some (.turn me) ↔
    ∃ thread, s.threads[me]? = some thread ∧ front thread.stack ≠ [] := by
  constructor
  · intro labelled
    cases found : s.threads[me]? with
    | none => simp [label?, found] at labelled
    | some thread =>
      refine ⟨thread, rfl, fun idle => ?_⟩
      simp only [label?, found, idle] at labelled
      split at labelled
      · obtain ⟨operation, -, same⟩ := Option.map_eq_some_iff.mp labelled
        cases same
      · cases labelled
  · rintro ⟨thread, found, attends⟩
    obtain ⟨a, others, same⟩ := List.exists_cons_of_ne_nil attends
    simp only [label?, found, same]

private theorem idle_of_label (labelled : s.label? me ≠ some (.turn me)) (thread : Thread)
    (found : s.threads[me]? = some thread) : front thread.stack = [] := by
  cases split : front thread.stack with
  | nil => rfl
  | cons a others => exact (labelled (turn_iff.mpr ⟨thread, found, by simp [split]⟩)).elim

private theorem thread_of_same (same : s.waitSide = t.waitSide) {thread : Thread}
    (found : s.threads[me]? = some thread) :
    ∃ other, t.threads[me]? = some other ∧ other.attention = thread.attention := by
  have attentions : t.attentions[me]? = s.attentions[me]? := congrArg (·.attentions[me]?) same.symm
  rw [Session.attentions, Session.attentions, Array.getElem?_map, Array.getElem?_map, found,
    Option.map_some] at attentions
  exact Option.map_eq_some_iff.mp attentions

private theorem front_ne_nil {stack : List Activity} (attends : front stack ≠ []) :
    ∃ a rest, stack = a :: rest ∧ a.attendsOn rest = true ∧ front stack = a :: front rest ∧
      back stack = back rest := by
  cases stack with
  | nil => exact (attends rfl).elim
  | cons a rest =>
    by_cases on : a.attendsOn rest = true
    · exact ⟨a, rest, rfl, on, by rw [front, if_pos on], by rw [back, if_pos on]⟩
    · rw [front, if_neg on] at attends
      exact (attends rfl).elim

private theorem step_attending (same : s.waitSide = t.waitSide) (passive : s.passive = true)
    {thread : Thread} (found : s.threads[me]? = some thread) (attends : front thread.stack ≠ []) :
    ∃ rest below, front rest = front below ∧ s.backs[me]? = some (back rest) ∧
      Mirrors s me rest below (s.step? me) (t.step? me) := by
  obtain ⟨other, there, alike⟩ := thread_of_same same found
  obtain ⟨fronts, modes⟩ : front other.stack = front thread.stack ∧ other.mode = thread.mode := by
    simp only [Thread.attention, attention, Attention.mk.injEq] at alike
    obtain ⟨-, fronts, modes⟩ := alike
    refine ⟨fronts, ?_⟩
    rw [fronts, if_neg (by simpa using attends), if_neg (by simpa using attends)] at modes
    exact Option.some.inj modes
  obtain ⟨a, rest, stack, upper, split, under⟩ := front_ne_nil attends
  obtain ⟨b, below, stack', lower, split', -⟩ := front_ne_nil (fronts ▸ attends)
  rw [split, split', List.cons.injEq] at fronts
  obtain ⟨rfl, fronts⟩ := fronts
  refine ⟨rest, below, fronts.symm, ?_, ?_⟩
  · rw [backs, Array.getElem?_map, found, Option.map_some, under]
  · simp only [step?, found, there, stack, stack', modes]
    cases thread.mode with
    | running => exact mirrors_advance same passive upper
    | returning reply => exact mirrors_resume same upper lower reply
    | unwinding panic => exact mirrors_unwind same upper panic

private theorem Mirrors.results (mirrors : Mirrors s me rest below (some u) (some v))
    (fronts : front rest = front below) (backs : s.backs[me]? = some (back rest)) :
    (u.waitSide = v.waitSide ∧ u.outcome? me = v.outcome? me) ∧
      u.transferSide = s.transferSide ∧ u.backs = s.backs := by
  cases mirrors with
  | @moved m n alike added mode upper lower =>
    have tops : front (added ++ rest) = front (added ++ below) := by rw [upper.front, lower.front, fronts]
    have attentions : m.attentions = n.attentions := congrArg WaitSide.attentions alike.side
    refine ⟨⟨?_, ?_⟩, alike.rows, ?_⟩
    · rw [waitSide_put, waitSide_put, alike.side, tops]
    · rw [outcome_put, outcome_put, attentions, tops]
    · rw [backs_put, alike.backs, upper.back]
      refine modify_eq_self fun stack here => ?_
      rw [backs] at here
      exact Option.some.inj here

/-! What is seen. -/

/-- What is seen on the side of the waits while one becomes another. -/
inductive Sees : WaitSide → List Sight → WaitSide → Prop
  | nothing (w : WaitSide) : Sees w [] w
  | sight {s t : Session} {me : Nat} {label : Label} {sights : List Sight} {w : WaitSide}
      (layered : s.Layered) (labelled : s.label? me = some label) (moved : s.move? (.thread me) = some t)
      (later : Sees t.waitSide sights w) : Sees s.waitSide (t.sight label :: sights) w

private theorem label_sight (t : Session) (label : Label) : (t.sight label).label = label := by
  cases label <;> rfl

private theorem thread_of_label {label : Label} (labelled : s.label? me = some label) : label.thread = me := by
  unfold label? at labelled
  split at labelled
  · cases labelled
  · split at labelled
    · cases labelled
      rfl
    · split at labelled
      · obtain ⟨operation, -, rfl⟩ := Option.map_eq_some_iff.mp labelled
        rfl
      · cases labelled

private theorem move_thread (moved : s.move? (.thread me) = some t) :
    s.passive = true ∧ s.step? me = some t ∧ ∃ thread, s.threads[me]? = some thread := by
  simp only [move?, Option.ite_none_right_eq_some] at moved
  refine ⟨moved.1, moved.2, ?_⟩
  cases found : s.threads[me]? with
  | none => simp [step?, found] at moved
  | some thread => exact ⟨thread, rfl⟩

private theorem turn_traceless (moved : s.move? (.thread me) = some t) (labelled : s.label? me = some (.turn me)) :
    t.transferSide = s.transferSide ∧ t.backs = s.backs := by
  obtain ⟨passive, stepped, -⟩ := move_thread moved
  obtain ⟨thread, found, attends⟩ := turn_iff.mp labelled
  obtain ⟨rest, below, fronts, backs, mirrors⟩ := step_attending rfl passive found attends
  rw [stepped] at mirrors
  exact (mirrors.results fronts backs).2

private theorem begin_aside (layered : s.Layered) (moved : s.move? (.thread me) = some t)
    (labelled : s.label? me ≠ some (.turn me)) :
    ∃ operation, s.label? me = operation.map (.begin me) ∧
      t.waitSide = (effect me operation s.waitSide).attend me (added operation s.waitSide) ∧ t.Layered := by
  obtain ⟨passive, stepped, thread, found⟩ := move_thread moved
  exact step_aside layered found (idle_of_label labelled thread found) stepped

private theorem layered_of_move (layered : s.Layered) {move : Move} (moved : s.move? move = some t) : t.Layered := by
  cases move with
  | hand step =>
    simp only [move?, Option.ite_none_right_eq_some, List.isEmpty_iff, Option.some.injEq] at moved
    obtain ⟨idle, rfl⟩ := moved
    exact (s.submit_aside step idle layered).2
  | thread me =>
    by_cases labelled : s.label? me = some (.turn me)
    · rw [Layered, (turn_traceless moved labelled).2]
      exact layered
    · obtain ⟨operation, -, -, kept⟩ := begin_aside layered moved labelled
      exact kept

private theorem sight_unique (layered : s.Layered) (layered' : t.Layered) (same : s.waitSide = t.waitSide)
    {label : Label} (labelled : s.label? me = some label) (labelled' : t.label? me = some label)
    (moved : s.move? (.thread me) = some u) (moved' : t.move? (.thread me) = some v) :
    u.sight label = v.sight label ∧ u.waitSide = v.waitSide := by
  cases label with
  | turn thread =>
    cases thread_of_label labelled
    obtain ⟨passive, stepped, -⟩ := move_thread moved
    obtain ⟨-, stepped', -⟩ := move_thread moved'
    obtain ⟨thread, found, attends⟩ := turn_iff.mp labelled
    obtain ⟨rest, below, fronts, backs, mirrors⟩ := step_attending same passive found attends
    rw [stepped, stepped'] at mirrors
    obtain ⟨⟨sides, outcomes⟩, -⟩ := mirrors.results fronts backs
    exact ⟨congrArg (Sight.mk _) outcomes, sides⟩
  | begin thread operation =>
    obtain ⟨first, seen, side, -⟩ := begin_aside layered moved (by simp [labelled])
    obtain ⟨second, seen', side', -⟩ := begin_aside layered' moved' (by simp [labelled'])
    rw [labelled] at seen
    rw [labelled'] at seen'
    obtain ⟨_, rfl, begins⟩ := Option.map_eq_some_iff.mp seen.symm
    obtain ⟨_, rfl, begins'⟩ := Option.map_eq_some_iff.mp seen'.symm
    cases begins
    cases begins'
    exact ⟨rfl, by rw [side, side', same]⟩

theorem Sees.unique {w w' x y : WaitSide} {sights sights' : List Sight} (first : Sees w sights x)
    (second : Sees w' sights' y) (same : w = w') (agree : sights.map (·.label) = sights'.map (·.label)) :
    sights = sights' ∧ x = y := by
  induction first generalizing w' y sights' with
  | nothing w =>
    cases second with
    | nothing => exact ⟨rfl, same⟩
    | sight => cases agree
  | sight layered labelled moved later ih =>
    cases second with
    | nothing => cases agree
    | sight layered' labelled' moved' later' =>
      obtain ⟨labels, tails⟩ := List.cons.inj agree
      obtain rfl : _ = _ := (label_sight _ _).symm.trans (labels.trans (label_sight _ _))
      cases (thread_of_label labelled).symm.trans (thread_of_label labelled')
      obtain ⟨sights, sides⟩ := sight_unique layered layered' same labelled labelled' moved moved'
      obtain ⟨others, last⟩ := ih later' sides tails
      exact ⟨by rw [sights, others], last⟩

private theorem sees_of_course {moves : List Move} {sights : List Sight} (layered : s.Layered)
    (ran : s.course? moves = some (sights, t)) : Sees s.waitSide sights t.waitSide ∧ t.Layered := by
  induction moves generalizing s sights with
  | nil =>
    cases ran
    exact ⟨.nothing _, layered⟩
  | cons move moves ih =>
    simp only [course?] at ran
    cases moved : s.move? move with
    | none => simp [moved] at ran
    | some m =>
      simp only [moved, Option.map_eq_some_iff, Prod.exists, Prod.mk.injEq] at ran
      obtain ⟨later, last, ran, rfl, rfl⟩ := ran
      obtain ⟨sees, kept⟩ := ih (layered_of_move layered moved) ran
      refine ⟨?_, kept⟩
      cases move with
      | hand step =>
        simp only [move?, Option.ite_none_right_eq_some, List.isEmpty_iff, Option.some.injEq] at moved
        obtain ⟨idle, rfl⟩ := moved
        rwa [(s.submit_aside step idle layered).1] at sees
      | thread me =>
        cases labelled : s.label? me with
        | none =>
          obtain ⟨operation, begins, side, -⟩ := begin_aside layered moved (by simp [labelled])
          rw [labelled] at begins
          cases Option.map_eq_none_iff.mp begins.symm
          have same : m.waitSide = s.waitSide :=
            side.trans (s.attend_of_idle me (idle_of_label (by simp [labelled])))
          simp only [seen, labelled, Option.toList_none, List.map_nil, List.nil_append]
          rwa [same] at sees
        | some label =>
          simp only [seen, labelled, Option.toList_some, List.map_cons, List.map_nil, List.singleton_append]
          exact .sight layered labelled moved sees

private theorem layered_start (logging : Bool) : (start logging).Layered := by
  have first : Layered { logging := logging, threads := #[{ name := some "main", stack := [] }] } := by
    intro stack member
    simp [backs, back] at member
    simp [member]
  exact (beside_newPool _ mainThread { threadName := "ferry-shared-callback" }).layered first

private theorem waitSide_start (logging logging' : Bool) : (start logging).waitSide = (start logging').waitSide := by
  cases logging <;> cases logging' <;> rfl

structure Agrees (s t : Session) : Prop where
  side : s.waitSide = t.waitSide
  turns : ∀ me, s.label? me = some (.turn me) ↔ t.label? me = some (.turn me)
  moves : ∀ me, s.label? me = some (.turn me) →
    (s.move? (.thread me)).isSome = (t.move? (.thread me)).isSome

def Step.waits : Step → Bool
  | .wait _ _ _ | .startWait _ _ _ | .unitWait _ _ | .startUnitWait _ _ | .awaitNext _ _ => true
  | _ => false

/-- Nothing has come to the objects on the side of the transfers, and no activity to its stacks, but for
what the thread goes on with and for threads that have been begun for waits. -/
def Untouched (s : Session) (me : Nat) (rest : List Activity) (t : Session) : Prop :=
  t.transferSide = s.transferSide ∧ ∃ begun : Array (List Activity), (∀ stack ∈ begun, stack = []) ∧
    t.backs = (s.backs ++ begun).modify me fun _ => back rest

/-- No wait does anything on the side of the transfers. -/
structure Traceless (s : Session) : Prop where
  turns : ∀ me t, s.label? me = some (.turn me) → s.move? (.thread me) = some t →
    t.transferSide = s.transferSide ∧ t.backs = s.backs
  begins : ∀ me thread source step todo taken rest t, s.threads[me]? = some thread →
    thread.stack = .steps source (step :: todo) taken :: rest → thread.mode = .running →
    step.waits = true → s.move? (.thread me) = some t →
    Untouched s me (.steps source todo (taken + 1) :: rest) t

private theorem Untouched.of_put {added : List Activity} (attends : Attends added)
    (rows : m.transferSide = s.transferSide) (backs : m.backs = s.backs) (mode : Mode) :
    Untouched s me rest (m.put me (added ++ rest) mode) := by
  refine ⟨rows, #[], by simp, ?_⟩
  rw [backs_put, (attends rest).back, backs, Array.append_empty]

private theorem untouched_wait (arming : Arming) (kind : Option WaitKind) {activity : Activity}
    (attends : activity.attends = true) : Untouched s me rest (s.beginWait me rest arming kind activity) := by
  have top : Attends [activity, .settleWait kind arming.keep] := .cons attends (.cons rfl .nil)
  unfold beginWait
  split
  · have armed : (s.setToken me true).transferSide = s.transferSide := rfl
    exact .of_put top armed (s.backs_setToken me true) _
  · exact .of_put top rfl rfl _

private theorem untouched_startWait (name : String) (kind : Option WaitKind) {activity : Activity}
    (attends : activity.attends = true) :
    Untouched s me rest (((s.spawn none [activity]).2.bind name
      (.waiter s.threads.size kind)).give me rest .nothing) := by
  have begun : ((s.spawn none [activity]).2.bind name (.waiter s.threads.size kind)).backs =
      s.backs ++ #[[]] := by
    have top : back [activity] = [] := (Attends.cons attends .nil []).back
    simp only [spawn, Session.bind, Session.backs, Array.map_push, top]
    simp
  refine ⟨rfl, #[[]], by simp, ?_⟩
  rw [give, backs_put, begun]

private theorem untouched_lookup {α : Type} (x : Except String α) {f : α → Session}
    (goes : ∀ a, Untouched s me rest (f a)) :
    Untouched s me rest (match x >>= fun a => Except.ok (f a) with
      | .ok t => t
      | .error name => s.give me rest (.result (.unknown name))) := by
  cases x with
  | error name => exact .of_put .nil rfl rfl _
  | ok a => exact goes a

private theorem untouched_begin {step : Step} (waits : step.waits = true) :
    Untouched s me rest (s.begin me rest step) := by
  cases step with
  | wait transfer kind arming =>
    exact untouched_lookup (s.transfer transfer) fun t => untouched_wait arming _ rfl
  | unitWait unit arming => exact untouched_lookup (s.handle unit) fun h => untouched_wait arming _ rfl
  | awaitNext monitor arming =>
    exact untouched_lookup (s.monitor monitor) fun m => untouched_wait arming _ rfl
  | startWait id transfer kind =>
    exact untouched_lookup (s.transfer transfer) fun t => untouched_startWait id _ rfl
  | startUnitWait id unit =>
    exact untouched_lookup (s.handle unit) fun h => untouched_startWait id _ rfl
  | _ => cases waits

private theorem traceless (s : Session) : s.Traceless where
  turns me t labelled moved := turn_traceless moved labelled
  begins := by
    intro me thread source step todo taken rest t found stack mode waits moved
    obtain ⟨-, stepped, -⟩ := move_thread moved
    simp only [step?, found, stack, mode, advance, Option.some.injEq] at stepped
    exact stepped ▸ untouched_begin waits

private theorem label_of_same (same : s.waitSide = t.waitSide) (labelled : s.label? me = some (.turn me)) :
    t.label? me = some (.turn me) := by
  obtain ⟨thread, found, attends⟩ := turn_iff.mp labelled
  obtain ⟨other, there, alike⟩ := thread_of_same same found
  have fronts : front other.stack = front thread.stack := congrArg Attention.front alike
  exact turn_iff.mpr ⟨other, there, fronts ▸ attends⟩

theorem Mirrors.isSome {x y : Option Session} (mirrors : Mirrors s me rest below x y) :
    x.isSome = y.isSome := by
  cases mirrors <;> rfl

private theorem agrees_of_same (same : s.waitSide = t.waitSide) : s.Agrees t where
  side := same
  turns me := ⟨label_of_same same, label_of_same same.symm⟩
  moves me labelled := by
    have fixed : t.passive = s.passive := by
      rw [passive, passive, show t.fixedHandles = s.fixedHandles from congrArg (·.fixedHandles) same.symm]
    rw [move?, move?, fixed]
    split
    case isTrue quiet =>
      obtain ⟨thread, found, attends⟩ := turn_iff.mp labelled
      obtain ⟨rest, below, -, -, mirrors⟩ := step_attending same quiet found attends
      rw [mirrors.isSome]
    case isFalse => rfl

/-- Whatever two runs do on the side of the transfers, as long as the same is seen of them on the side of
the waits, their waits are blocked at the same places and have come to the same results, and none of them
has left a trace on the side of the transfers. As the beginning of a run is a run, this holds of all places
on the way. -/
theorem waits_apart {logging logging' : Bool} {moves moves' : List Move} {sights sights' : List Sight}
    {s t : Session} (ran : (start logging).course? moves = some (sights, s))
    (ran' : (start logging').course? moves' = some (sights', t))
    (agree : sights.map (·.label) = sights'.map (·.label)) :
    sights = sights' ∧ s.Agrees t ∧ s.Traceless ∧ t.Traceless := by
  obtain ⟨sees, layered⟩ := sees_of_course (layered_start logging) ran
  obtain ⟨sees', layered'⟩ := sees_of_course (layered_start logging') ran'
  obtain ⟨same, sides⟩ := sees.unique sees' (waitSide_start logging logging') agree
  exact ⟨same, agrees_of_same sides, s.traceless, t.traceless⟩

def taking (step : Step) (moves : Nat) : List Move := .hand step :: List.replicate moves (.thread mainThread)

/-- A thread waits for a transfer until its only unit has succeeded; meanwhile something else may happen. -/
def watching (meanwhile : List Move) : List Move :=
  taking (.executor "x" .sameThread) 2 ++ taking (.transfer "t" "f" .upload none (some "x") none) 2 ++
    taking (.unit "u" false) 2 ++ taking (.monitor "m" "u" true) 2 ++ taking (.setMonitor "t" "m") 2 ++
    taking (.startWait "w" "t" .completion) 2 ++ List.replicate 14 (.thread 2) ++ meanwhile ++
    taking (.succeed "u") 2 ++ List.replicate 19 (.thread 2)

/-- The transfer is canceled and counts bytes, and a listener is told of both. -/
def canceling : List Move :=
  taking (.listener "l" .progress none 2 [] none false) 2 ++ taking (.add "t" "l") 2 ++
    taking (.setState "t" .canceled) 37 ++ taking (.addBytes "t" 5) 27

def watched : List Label :=
  [.begin 0 .transfer, .begin 0 (.unit false), .begin 0 (.monitor (.unit 0) true),
    .begin 0 (.attach 0 (.units 0)), .begin 0 (.startWait (.transfer 0))] ++ List.replicate 14 (.turn 2) ++
    .begin 0 (.finish 0 .success) :: List.replicate 19 (.turn 2)

set_option maxRecDepth 4096 in
/-- A thread that waits cannot tell whether the transfer has been canceled, and comes back with success. -/
theorem waits_apart_canceling : ∃ sights sights' s t,
    (start false).course? (watching []) = some (sights, s) ∧
    (start false).course? (watching canceling) = some (sights', t) ∧
    sights.map (·.label) = sights'.map (·.label) ∧
    s.transfers.toList.map (·.lifecycle.state) = [.waiting] ∧
    t.transfers.toList.map (·.lifecycle.state) = [.canceled] ∧
    (sights'.getLast?).bind (·.outcome) = some (.returning (.driven (.ok ()))) ∧
    sights = sights' ∧ s.Agrees t ∧ s.Traceless ∧ t.Traceless := by
  have quiet : ∃ sights s, (start false).course? (watching []) = some (sights, s) ∧
      sights.map (·.label) = watched ∧ s.transfers.toList.map (·.lifecycle.state) = [.waiting] :=
    ⟨_, _, rfl, rfl, rfl⟩
  have busy : ∃ sights t, (start false).course? (watching canceling) = some (sights, t) ∧
      sights.map (·.label) = watched ∧ t.transfers.toList.map (·.lifecycle.state) = [.canceled] ∧
      (sights.getLast?).bind (·.outcome) = some (.returning (.driven (.ok ()))) :=
    ⟨_, _, rfl, rfl, rfl, rfl⟩
  obtain ⟨sights, s, ran, labels, waiting⟩ := quiet
  obtain ⟨sights', t, ran', labels', canceled, outcome⟩ := busy
  have agree := labels.trans labels'.symm
  exact ⟨sights, sights', s, t, ran, ran', agree, waiting, canceled, outcome, waits_apart ran ran' agree⟩

end

end TransferLifecycle.Session
