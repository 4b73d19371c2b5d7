import TransferLifecycle.Proofs.Session.Beginning

/-! The steps of a thread that does not attend to a wait. But for the operation that it may begin, such a
step leaves the side of the waits alone. -/
namespace TransferLifecycle.Session

def begun? (s : Session) (me : Nat) : Activity → Option Operation
  | .steps _ (step :: _) _ => s.operation? me step
  | .task (.work unit work) => some (.work unit work)
  | _ => none

section

variable {s t : Session} {me : Nat} {rest : List Activity}

private theorem leads_call {id : Nat} {stimulus : Stimulus} (called : s.call me rest id stimulus = some t) :
    Leads s me rest none t := by
  unfold call at called
  split at called
  case h_1 =>
    cases Option.some.inj called
    exact .give (.refl s me) rfl _
  case h_2 o _ =>
    have recorded : Beside s me none (if o.silent then s else s.record (s.recordedCall o stimulus)) := by
      split
      · exact .refl s me
      · exact .of_side rfl rfl
    dsimp only at called
    generalize (if o.silent then s else s.record (s.recordedCall o stimulus)) = m at called recorded
    have counted (o : Observer) : Beside s me none { m with observers := s.observers.setIfInBounds id o } :=
      recorded.also (.of_side rfl rfl)
    -- Its trigger and its allowance decide no more than whether it acts.
    split at called <;> split at called <;> cases Option.some.inj called <;> first
      | exact .give (counted _) rfl _
      | exact .run (counted _) [_, _] (by simp [Activity.attends])

private theorem leads_offer {id : Nat} {task : Task} (offered : s.offer me rest id task = some t) :
    Leads s me rest none t := by
  unfold Session.offer at offered
  split at offered
  case h_1 => cases offered
  case h_2 kind count _ =>
    cases kind with
    | scripted verdicts after held =>
      cases Option.some.inj offered
      have counted (x : Executor) : Beside s me none (s.setExecutor id x) := .of_side rfl rfl
      unfold judgeTask
      split
      case h_2 => exact .run (counted _) [_, _] (by simp [Activity.attends])
      case h_6 => exact .raise (counted _) rfl _
      all_goals exact .give (counted _) rfl _
    | sameThread =>
      cases Option.some.inj offered
      refine .run ?_ [_, _] (by simp [Activity.attends])
      exact .of_side rfl rfl
    | pool pool =>
      cases Option.some.inj offered
      refine .run ?_ [_] (by simp [Activity.attends])
      exact .of_side rfl rfl
    | runtime runtime =>
      cases Option.some.inj offered
      refine .give ?_ rfl _
      exact .of_side rfl rfl

private theorem leads_runTask (s : Session) (me : Nat) (rest : List Activity) (task : Task) :
    Leads s me rest (s.begun? me (.task task)) (s.runTask me rest task) := by
  cases task with
  | drain dispatcher => exact .run (.refl s me) [_] (by simp [Activity.attends])
  | job name showThread actions panic =>
    refine .run ?_ [_, _] (by simp [Activity.attends])
    exact .of_side rfl rfl
  | work unit work =>
    refine .give (.of_side ?_ ?_) rfl _
    · cases work <;> exact waitSide_finishUnit _ unit _
    · cases work <;> exact backs_finishUnit _ unit _
  | gate id =>
    refine .run ?_ [_] (by simp [Activity.attends])
    exact .of_side rfl rfl

/-- What begins on top of an activity of the side of the transfers begins on top of what is below it. -/
theorem Leads.under {a : Activity} {operation : Option Operation} (leads : Leads s me (a :: rest) operation t)
    (apart : a.attends = false) : Leads s me rest operation t := by
  obtain ⟨m, others, mode, beside, away, runs, same⟩ := leads
  refine ⟨m, others ++ [a], mode, beside, ?_, runs, by simpa using same⟩
  intro activity member
  obtain other | rfl := List.mem_append.mp member |>.imp_right List.mem_singleton.mp
  · exact away activity other
  · exact apart

private theorem leads_script {a : Activity} (belongs : a.layer = .script)
    (advanced : s.advance me rest a = some t) : Leads s me rest (s.begun? me a) t := by
  cases a with
  | steps source todo taken =>
    cases todo with
    | nil =>
      cases Option.some.inj advanced
      exact .give (.refl s me) rfl _
    | cons step todo =>
      cases Option.some.inj advanced
      exact (s.leads_begin me (.steps source todo (taken + 1) :: rest) step).under rfl
  | call id stimulus => exact leads_call advanced
  | conclude panic =>
    cases panic <;> cases Option.some.inj advanced
    · exact .give (.refl s me) rfl _
    · exact .raise (.refl s me) rfl _
  | «yield» | bindUnit | bindHandle =>
    cases Option.some.inj advanced
    exact .give (.refl s me) rfl _
  | fireMany target kind next last =>
    simp only [advance] at advanced
    split at advanced
    · split at advanced <;> cases Option.some.inj advanced
      case h_1 activity firing =>
        refine .run (.refl s me) [activity, _] ?_
        exact List.forall_mem_cons.mpr ⟨attends_firing firing, by simp [Activity.attends]⟩
      case h_2 => exact .give (.refl s me) rfl _
    · cases Option.some.inj advanced
      exact .give (.refl s me) rfl _
  | loop left steps =>
    cases left <;> cases Option.some.inj advanced
    · exact .give (.refl s me) rfl _
    · exact .run (.refl s me) [_, _] (by simp [Activity.attends])
  | _ => cases belongs

private theorem leads_delivery {a : Activity} (belongs : a.layer = .delivery)
    (advanced : s.advance me rest a = some t) : Leads s me rest (s.begun? me a) t := by
  cases a with
  | chain chain event point =>
    obtain ⟨list, _, followed⟩ := Option.bind_eq_some_iff.mp advanced
    refine .follow (s.beside_updateChain me _ chain) (fun _ => rfl) ?_ followed
    intro l
    cases l <;> rfl
  | registry registry transfer state point =>
    obtain ⟨list, _, followed⟩ := Option.bind_eq_some_iff.mp advanced
    exact .follow (s.beside_updateRegistry me _ registry) (fun _ => rfl) (fun _ => rfl) followed
  | transition transfer point =>
    obtain ⟨tr, _, followed⟩ := Option.bind_eq_some_iff.mp advanced
    have kept : Beside s me none (s.setLifecycle transfer (Transition.step me tr.lifecycle point).1) :=
      s.beside_modifyTransfer me transfer _ fun _ => rfl
    refine .follow (kept.also (beside_log _ me me _)) (fun _ => rfl) ?_ followed
    intro q
    cases q <;> rfl
  | fire transfer event =>
    obtain ⟨t, _, advanced⟩ := Option.bind_eq_some_iff.mp advanced
    cases Option.some.inj advanced
    exact .run (s.beside_log me me _) [_] (by simp [Activity.attends])
  | dispatch id point =>
    obtain ⟨d, _, followed⟩ := Option.bind_eq_some_iff.mp advanced
    have kept : Beside s me none (s.setDispatcher id (Dispatch.step d.core point).1) := .of_side rfl rfl
    refine .follow (kept.also (beside_log _ me me _)) (fun _ => rfl) ?_ followed
    intro q
    cases q <;> rfl
  | _ => cases belongs

private theorem leads_hosting {a : Activity} (belongs : a.layer = .hosting)
    (advanced : s.advance me rest a = some t) : Leads s me rest (s.begun? me a) t := by
  cases a with
  | offer executor task => exact leads_offer advanced
  | submit pool task point =>
    obtain ⟨p, _, followed⟩ := Option.bind_eq_some_iff.mp advanced
    refine .follow ?_ (fun _ => rfl) ?_ followed
    · exact .of_side rfl rfl
    · intro q
      cases q
  | task task =>
    cases Option.some.inj advanced
    exact leads_runTask s me rest task
  | hold gate | awaitGate gate =>
    obtain ⟨g, _, advanced⟩ := Option.bind_eq_some_iff.mp advanced
    split at advanced <;> cases advanced
    exact .give (.refl s me) rfl _
  | contain | reportShutdown =>
    cases Option.some.inj advanced
    exact .give (.refl s me) rfl _
  | shutdown pool point =>
    obtain ⟨p, _, followed⟩ := Option.bind_eq_some_iff.mp advanced
    have kept : Beside s me none (s.setPool pool (Pool.Shutdown.step p.core point).1) := .of_side rfl rfl
    refine .follow (kept.also (beside_log _ me me _)) (fun _ => rfl) ?_ followed
    intro q
    cases q
  | awaitLanes threads =>
    simp only [advance] at advanced
    split at advanced <;> cases advanced
    refine .give ?_ rfl _
    exact .of_side rfl rfl
  | join thread kind =>
    obtain ⟨ending, _, advanced⟩ := Option.bind_eq_some_iff.mp advanced
    cases ending with
    | ok reply =>
      obtain ⟨report, _, advanced⟩ := Option.bind_eq_some_iff.mp advanced
      cases Option.some.inj advanced
      exact .give (.refl s me) rfl _
    | error panic =>
      cases Option.some.inj advanced
      exact .give (.refl s me) rfl _
  | worker pool id point =>
    obtain ⟨p, _, followed⟩ := Option.bind_eq_some_iff.mp advanced
    have kept : Beside s me none (s.setPool pool (Pool.Loop.step id p.core point).1) := .of_side rfl rfl
    exact .follow (kept.also (beside_log _ me me _)) (fun _ => rfl) (fun _ => rfl) followed
  | runtimeWorker runtime =>
    obtain ⟨r, _, advanced⟩ := Option.bind_eq_some_iff.mp advanced
    split at advanced <;> cases advanced
    refine .run ?_ [_, _] (by simp [Activity.attends])
    exact .of_side rfl rfl
  | _ => cases belongs

private theorem attends_of_waiting {a : Activity} (belongs : a.layer = .waiting) : a.attends = true := by
  cases a <;> first | rfl | cases belongs

theorem leads_advance {a : Activity} (apart : a.attends = false)
    (advanced : s.advance me rest a = some t) : Leads s me rest (s.begun? me a) t := by
  cases belongs : a.layer with
  | script => exact leads_script belongs advanced
  | delivery => exact leads_delivery belongs advanced
  | hosting => exact leads_hosting belongs advanced
  | waiting =>
    rw [attends_of_waiting belongs] at apart
    cases apart

private theorem leads_stepTaken (s : Session) (me : Nat) (rest : List Activity) (todo : List Step) (taken : Nat)
    (result : Result) (source : Source) :
    Leads s me rest none (s.stepTaken me rest todo taken result source) := by
  cases source with
  | main => exact .give (.refl s me) rfl _
  | listener name | actor name =>
    refine .run ?_ [_] (by simp [Activity.attends])
    exact .of_side rfl rfl
  | loop => exact .run (.refl s me) [_] (by simp [Activity.attends])
  | lane =>
    refine .run ?_ [_] (by simp [Activity.attends])
    exact .of_side (s.sides_count me _).1 (s.sides_count me _).2

theorem leads_resume {a : Activity} {reply : Reply} (apart : a.attends = false)
    (resumed : s.resume me rest reply a = some t) : Leads s me rest none t := by
  cases a with
  | steps source todo taken =>
    cases Option.some.inj resumed
    exact leads_stepTaken s me rest todo taken _ source
  | contain | «yield» =>
    cases Option.some.inj resumed
    exact .give (.refl s me) rfl _
  | bindUnit name unit =>
    simp only [resume] at resumed
    split at resumed <;> cases Option.some.inj resumed
    · refine .give ?_ rfl _
      exact .of_side rfl rfl
    · exact .give (.refl s me) rfl _
  | bindHandle name =>
    simp only [resume] at resumed
    split at resumed <;> cases Option.some.inj resumed
    · refine .give ?_ rfl _
      exact .of_side rfl rfl
    · exact .give (.refl s me) rfl _
  | awaitGate gate =>
    simp only [resume] at resumed
    split at resumed <;> cases Option.some.inj resumed
    · exact .run (.refl s me) [_] (by simp [Activity.attends])
    · exact .give (.refl s me) rfl _
  | wait | answerWait | query | judge | openGate | newGate | monitor | consult | turn | drive | settleWait
  | reportHandle | reportFailed | reportMonitor => cases apart
  | _ =>
    cases Option.some.inj resumed
    exact .run (.refl s me) [_] (by simp [Activity.attends])

theorem leads_unwind {a : Activity} {panic : String} (apart : a.attends = false) :
    Leads s me rest none (s.unwind me rest panic a) := by
  cases a with
  | steps source todo taken =>
    cases source with
    | main => exact .give (.refl s me) rfl _
    | lane => exact .run (.refl s me) [_] (by simp [Activity.attends])
    | listener | actor | loop => exact .raise (.refl s me) rfl _
  | chain chain event point => exact .run (s.beside_log me me _) [_] (by simp [Activity.attends])
  | registry registry transfer state point =>
    exact .raise (s.beside_updateRegistry me _ registry) rfl _
  | transition transfer point =>
    simp only [unwind]
    split
    · refine .raise ?_ rfl _
      exact s.beside_modifyTransfer me transfer _ fun _ => rfl
    · exact .raise (.refl s me) rfl _
  | contain => exact .give (s.beside_log me me _) rfl _
  | worker | runtimeWorker => exact .run (.refl s me) [_] (by simp [Activity.attends])
  | wait | answerWait | query | judge | openGate | newGate | monitor | consult | turn | drive | settleWait
  | reportHandle | reportFailed | reportMonitor => cases apart
  | _ => exact .raise (.refl s me) rfl _

end

end TransferLifecycle.Session
