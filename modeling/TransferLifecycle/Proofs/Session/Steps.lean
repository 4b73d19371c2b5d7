import TransferLifecycle.Proofs.Session.Stacks

/-! Where the step of a thread lands, whatever its topmost activity is, as long as it is not a
transition: on the same turns and on the same stack, but for what comes in the place of that activity. -/
namespace TransferLifecycle.Session

/-! The topmost activity moves. -/

section

variable {s t : Session} {me : Nat} {rest : List Activity}

private theorem lands_call {id : Nat} {stimulus : Stimulus} (called : s.call me rest id stimulus = some t) :
    Lands s me rest Waits t := by
  unfold call at called
  split at called
  case h_1 =>
    cases Option.some.inj called
    exact .give (.refl s) waits_nil _
  case h_2 o _ =>
    have recorded : Calm s (if o.silent then s else s.record (s.recordedCall o stimulus)) := by
      split
      · exact .refl s
      · exact .of_rows rfl rfl
    dsimp only at called
    generalize (if o.silent then s else s.record (s.recordedCall o stimulus)) = m at called recorded
    have counted (o : Observer) : Calm s { m with observers := s.observers.setIfInBounds id o } :=
      recorded.trans (.of_rows rfl rfl)
    -- Its trigger and its allowance decide no more than whether it acts.
    split at called <;> split at called <;> cases Option.some.inj called <;> first
      | exact .give (counted _) waits_nil _
      | exact .run (counted _) [_, _] (by simp)

private theorem lands_offer {id : Nat} {task : Task} (offered : s.offer me rest id task = some t) :
    Lands s me rest (Replaces (.offer id task)) t := by
  unfold Session.offer at offered
  split at offered
  case h_1 => cases offered
  case h_2 kind count _ =>
    cases kind with
    | scripted verdicts after held =>
      cases Option.some.inj offered
      have counted (x : Executor) : Calm s (s.setExecutor id x) := .of_rows rfl rfl
      unfold judgeTask
      split
      case h_2 =>
        exact .run (counted _) [_, _] (.of_plain rfl (by simp) (by cases task <;> simp [Activity.fires]))
      case h_6 => exact .raise (counted _) (.nil _) _
      all_goals exact .give (counted _) (.nil _) _
    | sameThread =>
      cases Option.some.inj offered
      refine .run ?_ [_, _] (.of_plain rfl (by simp) (by cases task <;> simp [Activity.fires]))
      exact .of_rows rfl rfl
    | pool pool =>
      cases Option.some.inj offered
      refine .run ?_ [_] (.of_plain rfl (by simp) (by cases task <;> simp [Activity.fires]))
      exact .of_rows rfl rfl
    | runtime runtime =>
      cases Option.some.inj offered
      refine .give ?_ (.nil _) _
      exact .of_rows rfl rfl

private theorem lands_runTask (s : Session) (me : Nat) (rest : List Activity) (task : Task) :
    Lands s me rest (Replaces (.task task)) (s.runTask me rest task) := by
  cases task with
  | drain dispatcher => exact .run (.refl s) [_] (.of_plain rfl (by simp) (by simp [Activity.fires]))
  | job name showThread actions panic =>
    refine .run ?_ [_, _] (.of_idle rfl rfl (by simp))
    exact .of_rows rfl rfl
  | work unit work =>
    refine .give ?_ (.nil _) _
    exact (s.calm_workOutcome work).trans (calm_finishUnit _ unit _)
  | gate id =>
    refine .run ?_ [_] (.of_idle rfl rfl (by simp))
    exact .of_rows rfl rfl

private theorem lands_await {h : Handle} (awaited : s.await me rest h = some t) : Lands s me rest Waits t := by
  unfold await at awaited
  split at awaited
  · split at awaited
    · cases awaited
    · split at awaited <;> cases awaited
      · refine .give ?_ waits_nil _
        exact .of_rows rfl rfl
      · exact .give (s.calm_setToken me false) waits_nil _
  · split at awaited <;> cases awaited
    refine .run ?_ [_, _] (by simp)
    exact .of_rows rfl rfl

private theorem lands_answerWait (s : Session) (me : Nat) (rest : List Activity) (id index : Nat) :
    Lands s me rest Waits (s.answerWait me rest id index) := by
  unfold answerWait
  split
  · exact .give (.refl s) waits_nil _
  · refine .give ?_ waits_nil _
    exact .of_rows rfl rfl
  · exact .give (.refl s) waits_nil _
  · exact .give (.refl s) waits_nil _

private theorem lands_query (s : Session) (me : Nat) (rest : List Activity) (query : HandleQuery) (h : Handle) :
    Lands s me rest Waits (s.query me rest query h) := by
  unfold Session.query
  split
  · exact .give (.refl s) waits_nil _
  · exact .give (.refl s) waits_nil _
  · split
    · exact .run (.refl s) [_, _] (by simp)
    · exact .give (.refl s) waits_nil _

private theorem lands_consult {m : Monitor} {query : MonitorQuery}
    (consulted : s.consult me rest m query = some t) : Lands s me rest Waits t := by
  unfold consult at consulted
  split at consulted
  · cases Option.some.inj consulted
    exact .run (.refl s) [_] (by simp)
  · cases Option.some.inj consulted
    exact .run (.refl s) [_] (by simp)
  · obtain ⟨m, _, consulted⟩ := Option.bind_eq_some_iff.mp consulted
    obtain ⟨h, _, consulted⟩ := Option.bind_eq_some_iff.mp consulted
    cases Option.some.inj consulted
    refine .give ?_ waits_nil _
    exact .of_rows rfl rfl
  · obtain ⟨m, _, consulted⟩ := Option.bind_eq_some_iff.mp consulted
    cases Option.some.inj consulted
    refine .give ?_ waits_nil _
    exact .of_rows rfl rfl

private theorem fires_goto {d : Dispatcher Listener} {point next : Dispatch.Point}
    (goes : (Dispatch.step d point).2.2 = .goto next) (id : Nat) :
    (Activity.dispatch id next).fires = true := by
  cases point with
  | arrive | claim | take | recheck | reclaim =>
    simp only [Dispatch.step] at goes
    split at goes <;> cases goes <;> rfl
  | check | close =>
    simp only [Dispatch.step, Next.goto.injEq] at goes
    split at goes <;> cases goes <;> rfl
  | inHand fate | count fate => cases fate <;> cases goes <;> rfl
  | _ => cases goes <;> rfl

private theorem delivers_ask {d : Dispatcher Listener} {point next : Dispatch.Point} {question : Dispatch.Question}
    (asks : (Dispatch.step d point).2.2 = .ask question next) (id executor : Nat) :
    Delivers [dispatchQuestion id executor question, .dispatch id next] := by
  cases point with
  | arrive | take | recheck | reclaim =>
    simp only [Dispatch.step] at asks
    split at asks <;> cases asks
  | claim =>
    simp only [Dispatch.step] at asks
    split at asks <;> cases asks
    exact Or.inl (by simp [dispatchQuestion, Activity.fires])
  | inHand fate event =>
    cases fate <;> cases asks
    exact Or.inr ⟨[_], id, [], rfl, nofun⟩
  | count fate => cases fate <;> cases asks
  | _ => cases asks

private theorem lands_script {a : Activity} (belongs : a.layer = .script)
    (advanced : s.advance me rest a = some t) : Lands s me rest (Replaces a) t := by
  cases a with
  | steps source todo taken =>
    refine Lands.mono ?_ fun _ => .of_idle rfl rfl
    cases todo with
    | nil =>
      cases Option.some.inj advanced
      exact .give (.refl s) waits_nil _
    | cons step todo =>
      cases Option.some.inj advanced
      obtain ⟨m, added, mode, calm, waits, same⟩ :=
        lands_begin s me (.steps source todo (taken + 1) :: rest) step
      refine ⟨m, added ++ [.steps source todo (taken + 1)], mode, calm, ?_, by simpa using same⟩
      intro activity member
      obtain old | rfl := List.mem_append.mp member |>.imp_right List.mem_singleton.mp
      · exact waits activity old
      · rfl
  | call id stimulus => exact (lands_call advanced).mono fun _ => .of_idle rfl rfl
  | conclude panic =>
    cases panic <;> cases Option.some.inj advanced
    · exact .give (.refl s) (.nil _) _
    · exact .raise (.refl s) (.nil _) _
  | «yield» | bindUnit | bindHandle =>
    cases Option.some.inj advanced
    exact .give (.refl s) (.nil _) _
  | fireMany target kind next last =>
    simp only [advance] at advanced
    split at advanced
    · split at advanced <;> cases Option.some.inj advanced
      case h_1 activity firing =>
        refine .run (.refl s) [activity, _] (.of_idle rfl rfl ?_)
        exact waits_cons.mpr ⟨inside_firing firing, by simp⟩
      case h_2 => exact .give (.refl s) (.nil _) _
    · cases Option.some.inj advanced
      exact .give (.refl s) (.nil _) _
  | loop left steps =>
    cases left <;> cases Option.some.inj advanced
    · exact .give (.refl s) (.nil _) _
    · exact .run (.refl s) [_, _] (.of_idle rfl rfl (by simp))
  | _ => cases belongs

private theorem lands_delivery {a : Activity} (belongs : a.layer = .delivery)
    (other : ∀ transfer point, a ≠ .transition transfer point)
    (advanced : s.advance me rest a = some t) : Lands s me rest (Replaces a) t := by
  cases a with
  | chain chain event point =>
    obtain ⟨list, _, followed⟩ := Option.bind_eq_some_iff.mp advanced
    refine .follow (s.calm_updateChain _ chain) (.nil _) ?_ ?_ followed
    · intro p _
      exact .of_idle rfl rfl (by simp)
    · intro l p _
      exact .of_idle rfl rfl (by cases l <;> simp [bring])
  | registry registry transfer state point =>
    obtain ⟨list, _, followed⟩ := Option.bind_eq_some_iff.mp advanced
    refine .follow (s.calm_updateRegistry _ registry) (.nil _) ?_ ?_ followed
    · intro p _
      refine ⟨⟨?_, by simp [Activity.fires]⟩, by simp⟩
      intro _ _ _ _ same
      cases same
      exact Or.inr ⟨[], p, rfl⟩
    · intro o p _
      refine ⟨⟨?_, by simp [Activity.fires]⟩, by simp⟩
      intro _ _ _ _ same
      cases same
      exact Or.inr ⟨[_], p, rfl⟩
  | transition transfer point => exact (other transfer point rfl).elim
  | fire transfer event =>
    obtain ⟨t, _, advanced⟩ := Option.bind_eq_some_iff.mp advanced
    cases Option.some.inj advanced
    exact .run (s.calm_log me _) [_] (.of_plain rfl (by simp) (by simp [Activity.fires]))
  | dispatch id point =>
    obtain ⟨d, _, followed⟩ := Option.bind_eq_some_iff.mp advanced
    have calm : Calm s (s.setDispatcher id (Dispatch.step d.core point).1) := .of_rows rfl rfl
    refine .follow (calm.trans (calm_log _ me _)) (.nil _) ?_ ?_ followed
    · intro p goes
      exact ⟨⟨nofun, fun _ => Or.inl (by simp [fires_goto goes])⟩, by simp⟩
    · intro q p asks
      refine ⟨⟨nofun, fun _ => delivers_ask asks id _⟩, ?_⟩
      cases q <;> simp [dispatchQuestion]
  | _ => cases belongs

private theorem lands_hosting {a : Activity} (belongs : a.layer = .hosting)
    (advanced : s.advance me rest a = some t) : Lands s me rest (Replaces a) t := by
  cases a with
  | offer executor task => exact lands_offer advanced
  | submit pool task point =>
    obtain ⟨p, _, followed⟩ := Option.bind_eq_some_iff.mp advanced
    refine .follow ?_ (.nil _) ?_ ?_ followed
    · exact .of_rows rfl rfl
    · intro p _
      exact .of_plain rfl (by simp) (by cases task <;> simp [Activity.fires])
    · intro q
      cases q
  | task task =>
    cases Option.some.inj advanced
    exact lands_runTask s me rest task
  | hold gate | awaitGate gate =>
    obtain ⟨g, _, advanced⟩ := Option.bind_eq_some_iff.mp advanced
    split at advanced <;> cases advanced
    exact .give (.refl s) (.nil _) _
  | contain | reportShutdown =>
    cases Option.some.inj advanced
    exact .give (.refl s) (.nil _) _
  | shutdown pool point =>
    obtain ⟨p, _, followed⟩ := Option.bind_eq_some_iff.mp advanced
    have calm : Calm s (s.setPool pool (Pool.Shutdown.step p.core point).1) := .of_rows rfl rfl
    refine .follow (calm.trans (calm_log _ me _)) (.nil _) ?_ ?_ followed
    · intro p _
      exact .of_idle rfl rfl (by simp)
    · intro q
      cases q
  | awaitLanes threads =>
    simp only [advance] at advanced
    split at advanced <;> cases advanced
    refine .give ?_ (.nil _) _
    exact .of_rows rfl rfl
  | join thread kind =>
    obtain ⟨ending, _, advanced⟩ := Option.bind_eq_some_iff.mp advanced
    cases ending with
    | ok reply =>
      obtain ⟨report, _, advanced⟩ := Option.bind_eq_some_iff.mp advanced
      cases Option.some.inj advanced
      exact .give (.refl s) (.nil _) _
    | error panic =>
      cases Option.some.inj advanced
      exact .give (.refl s) (.nil _) _
  | worker pool id point =>
    obtain ⟨p, _, followed⟩ := Option.bind_eq_some_iff.mp advanced
    have calm : Calm s (s.setPool pool (Pool.Loop.step id p.core point).1) := .of_rows rfl rfl
    refine .follow (calm.trans (calm_log _ me _)) (.nil _) ?_ ?_ followed
    · intro p _
      exact .of_idle rfl rfl (by simp)
    · intro task p _
      exact .of_idle rfl rfl (by simp)
  | runtimeWorker runtime =>
    obtain ⟨r, _, advanced⟩ := Option.bind_eq_some_iff.mp advanced
    split at advanced <;> cases advanced
    refine .run ?_ [_, _] (.of_idle rfl rfl (by simp))
    exact .of_rows rfl rfl
  | _ => cases belongs

private theorem lands_waiting {a : Activity} (belongs : a.layer = .waiting)
    (advanced : s.advance me rest a = some t) : Lands s me rest (Replaces a) t := by
  cases a with
  | wait h => exact (lands_await advanced).mono fun _ => .of_idle rfl rfl
  | answerWait id index =>
    cases Option.some.inj advanced
    exact (lands_answerWait s me rest id index).mono fun _ => .of_idle rfl rfl
  | query query h =>
    cases Option.some.inj advanced
    exact (lands_query s me rest query h).mono fun _ => .of_idle rfl rfl
  | judge | settleWait | reportHandle | reportFailed | reportMonitor =>
    cases Option.some.inj advanced
    exact .give (.refl s) (.nil _) _
  | openGate h =>
    cases h <;> cases Option.some.inj advanced
    · exact .give (s.calm_finishUnit _ .success) (.nil _) _
    · exact .give (.refl s) (.nil _) _
  | newGate =>
    cases Option.some.inj advanced
    refine .give ?_ (.nil _) _
    exact .of_rows rfl rfl
  | monitor id point =>
    obtain ⟨m, _, followed⟩ := Option.bind_eq_some_iff.mp advanced
    have calm : Calm s (s.setMonitor id (UnitMonitor.step me m point).1) := .of_rows rfl rfl
    refine .follow (calm.trans (calm_log _ me _)) (.nil _) ?_ ?_ followed
    · intro p _
      exact .of_idle rfl rfl (by simp)
    · intro q p _
      exact .of_idle rfl rfl (by cases q <;> simp [monitorQuestion])
  | consult m query => exact (lands_consult advanced).mono fun _ => .of_idle rfl rfl
  | turn m point =>
    refine .follow (.refl s) (.nil _) ?_ ?_ advanced
    · intro p _
      exact .of_idle rfl rfl (by simp)
    · intro q p _
      exact .of_idle rfl rfl (by cases q <;> simp [turnQuestion])
  | drive transfer point =>
    obtain ⟨t, _, followed⟩ := Option.bind_eq_some_iff.mp advanced
    refine .follow (.refl s) (.nil _) ?_ ?_ followed
    · intro p _
      exact .of_idle rfl rfl (by simp)
    · intro m p _
      exact .of_idle rfl rfl (by simp)
  | _ => cases belongs

theorem lands_advance {a : Activity} (other : ∀ transfer point, a ≠ .transition transfer point)
    (advanced : s.advance me rest a = some t) : Lands s me rest (Replaces a) t := by
  cases belongs : a.layer with
  | script => exact lands_script belongs advanced
  | delivery => exact lands_delivery belongs other advanced
  | hosting => exact lands_hosting belongs advanced
  | waiting => exact lands_waiting belongs advanced

/-! A reply is handed to an activity, or a panic meets it. -/

private theorem lands_stepTaken (s : Session) (me : Nat) (rest : List Activity) (todo : List Step) (taken : Nat)
    (result : Result) (source : Source) :
    Lands s me rest Waits (s.stepTaken me rest todo taken result source) := by
  cases source with
  | main => exact .give (.refl s) waits_nil _
  | listener name | actor name =>
    refine .run ?_ [_] (by simp)
    exact .of_rows rfl rfl
  | loop => exact .run (.refl s) [_] (by simp)
  | lane =>
    refine .run ?_ [_] (by simp)
    exact s.calm_modifyThread me _ fun _ => rfl

private theorem Replaces.of_dispatch (id : Nat) (point next : Dispatch.Point) :
    Replaces (.dispatch id point) [.dispatch id next] where
  visits := nofun
  waits := by simp
  delivers _ := by
    by_cases reached : next = .reached
    · exact Or.inr ⟨[], id, [], by rw [reached]; rfl, nofun⟩
    · refine Or.inl fun activity member => ?_
      rw [List.mem_singleton.mp member]
      cases next <;> first | rfl | exact (reached rfl).elim

theorem lands_resume {a : Activity} {reply : Reply}
    (other : ∀ transfer point, a ≠ .transition transfer point)
    (resumed : s.resume me rest reply a = some t) : Lands s me rest (Replaces a) t := by
  cases a with
  | steps source todo taken =>
    cases Option.some.inj resumed
    exact (lands_stepTaken s me rest todo taken _ source).mono fun _ => .of_idle rfl rfl
  | transition transfer point => exact (other transfer point rfl).elim
  | dispatch id point =>
    cases Option.some.inj resumed
    exact .run (.refl s) [_] (.of_dispatch id point _)
  | contain | judge | «yield» =>
    cases Option.some.inj resumed
    exact .give (.refl s) (.nil _) _
  | monitor | worker =>
    cases Option.some.inj resumed
    exact .run (.refl s) [_] (.of_idle rfl rfl (by simp))
  | turn m point =>
    obtain ⟨answer, _, resumed⟩ := Option.bind_eq_some_iff.mp resumed
    cases Option.some.inj resumed
    exact .run (.refl s) [_] (.of_idle rfl rfl (by simp))
  | drive transfer point =>
    cases reply <;> cases resumed
    exact .run (.refl s) [_] (.of_idle rfl rfl (by simp))
  | settleWait kind keep =>
    obtain ⟨report, _, resumed⟩ := Option.bind_eq_some_iff.mp resumed
    cases Option.some.inj resumed
    refine .give ?_ (.nil _) _
    split
    · exact .refl s
    · exact s.calm_setToken me false
  | bindUnit name unit =>
    simp only [resume] at resumed
    split at resumed <;> cases Option.some.inj resumed
    · refine .give ?_ (.nil _) _
      exact .of_rows rfl rfl
    · exact .give (.refl s) (.nil _) _
  | bindHandle name =>
    simp only [resume] at resumed
    split at resumed <;> cases Option.some.inj resumed
    · refine .give ?_ (.nil _) _
      exact .of_rows rfl rfl
    · exact .give (.refl s) (.nil _) _
  | reportHandle h =>
    cases reply <;> cases resumed
    exact .run (.refl s) [_, _] (.of_idle rfl rfl (by simp))
  | reportFailed finished =>
    cases reply <;> cases resumed
    exact .give (.refl s) (.nil _) _
  | reportMonitor m before =>
    simp only [resume] at resumed
    split at resumed <;> cases resumed
    exact .give (.refl s) (.nil _) _
  | awaitGate gate =>
    simp only [resume] at resumed
    split at resumed <;> cases Option.some.inj resumed
    · exact .run (.refl s) [_] (.of_idle rfl rfl (by simp))
    · exact .give (.refl s) (.nil _) _
  | registry registry transfer state point =>
    cases Option.some.inj resumed
    refine .run (.refl s) [_] ⟨⟨?_, by simp [Activity.fires]⟩, by simp⟩
    intro _ _ _ _ same
    cases same
    exact Or.inr ⟨[], point, rfl⟩
  | _ =>
    cases Option.some.inj resumed
    exact .run (.refl s) [_] (.of_plain rfl (by simp) (by simp))

theorem lands_unwind {a : Activity} {panic : String}
    (other : ∀ transfer point, a ≠ .transition transfer point) :
    Lands s me rest (Replaces a) (s.unwind me rest panic a) := by
  cases a with
  | steps source todo taken =>
    cases source with
    | main => exact .give (.refl s) (.nil _) _
    | lane => exact .run (.refl s) [_] (.of_idle rfl rfl (by simp))
    | listener | actor | loop => exact .raise (.refl s) (.nil _) _
  | transition transfer point => exact (other transfer point rfl).elim
  | chain chain event point =>
    exact .run (s.calm_log me _) [_] (.of_idle rfl rfl (by simp))
  | registry registry transfer state point =>
    exact .raise (s.calm_updateRegistry _ registry) (.nil _) _
  | monitor id point =>
    simp only [unwind]
    split
    · refine .raise ?_ (.nil _) _
      exact .of_rows rfl rfl
    · exact .raise (.refl s) (.nil _) _
  | contain => exact .give (s.calm_log me _) (.nil _) _
  | worker | runtimeWorker => exact .run (.refl s) [_] (.of_idle rfl rfl (by simp))
  | _ => exact .raise (.refl s) (.nil _) _

end

end TransferLifecycle.Session
