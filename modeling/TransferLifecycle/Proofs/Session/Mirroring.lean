import TransferLifecycle.Proofs.Session.Beginning

/-! The turns of a thread that attends to a wait. In two sessions that are alike on the side of the waits,
the thread does the same or is blocked in both, and the side of the transfers stays as it is. -/
namespace TransferLifecycle.Session

def passive (s : Session) : Bool := s.fixedHandles.toList.all fun h => h.actions.all List.isEmpty

/-- The two are alike on the side of the waits, and the first is like `s` on the side of the transfers. -/
structure Alike (s m n : Session) : Prop where
  side : m.waitSide = n.waitSide
  rows : m.transferSide = s.transferSide
  backs : m.backs = s.backs

/-- Both sessions are blocked, or the thread puts the same activities in the place of its topmost one. -/
inductive Mirrors (s : Session) (me : Nat) (rest below : List Activity) :
    Option Session → Option Session → Prop
  | blocked : Mirrors s me rest below none none
  | moved {m n : Session} (alike : Alike s m n) (added : List Activity) (mode : Mode)
      (upper : Tops added rest) (lower : Tops added below) :
      Mirrors s me rest below (some (m.put me (added ++ rest) mode)) (some (n.put me (added ++ below) mode))

section

variable {s t m n : Session} {me : Nat} {rest below : List Activity}

private theorem Alike.of_change (change : WaitSide → WaitSide) (same : s.waitSide = t.waitSide)
    (left : m.waitSide = change s.waitSide) (right : n.waitSide = change t.waitSide)
    (rows : m.transferSide = s.transferSide) (backs : m.backs = s.backs) : Alike s m n :=
  ⟨by rw [left, right, same], rows, backs⟩

theorem Alike.refl (same : s.waitSide = t.waitSide) : Alike s s t := ⟨same, rfl, rfl⟩

theorem Alike.log (alike : Alike s m n) (notices : List Notice) :
    Alike s (m.log me notices) (n.log me notices) where
  side := by rw [(m.sides_log me notices).1, (n.sides_log me notices).1, alike.side]
  rows := alike.rows
  backs := (m.sides_log me notices).2.trans alike.backs

theorem Alike.setToken (same : s.waitSide = t.waitSide) (thread : Nat) (value : Bool) :
    Alike s (s.setToken thread value) (t.setToken thread value) :=
  .of_change (·.setToken thread value) same (s.waitSide_setToken thread value)
    (t.waitSide_setToken thread value) rfl (s.backs_setToken thread value)

theorem Alike.finishUnit (same : s.waitSide = t.waitSide) (id : Nat) (outcome : Outcome) :
    Alike s (s.finishUnit id outcome).2 (t.finishUnit id outcome).2 := by
  refine .of_change (·.finishUnit id outcome) same (s.waitSide_finishUnit id outcome)
    (t.waitSide_finishUnit id outcome) ?_ (s.backs_finishUnit id outcome)
  unfold Session.finishUnit
  split <;> rfl

theorem Mirrors.give (alike : Alike s m n) (reply : Reply) :
    Mirrors s me rest below (some (m.give me rest reply)) (some (n.give me below reply)) :=
  .moved alike [] _ (Attends.nil rest) (Attends.nil below)

theorem Mirrors.raise (alike : Alike s m n) (panic : String) :
    Mirrors s me rest below (some (m.raise me rest panic)) (some (n.raise me below panic)) :=
  .moved alike [] _ (Attends.nil rest) (Attends.nil below)

theorem Mirrors.run (alike : Alike s m n) (added : List Activity) (attends : Attends added) :
    Mirrors s me rest below (some (m.run me (added ++ rest))) (some (n.run me (added ++ below))) :=
  .moved alike added _ (attends rest) (attends below)

theorem Mirrors.follow {point question result : Type} {frame : point → Activity}
    {asked : question → Activity} {reply : result → Reply} (alike : Alike s m n)
    (goto : ∀ p, (frame p).attends = true) (ask : ∀ q, (asked q).attends = true)
    (next : Next point question result) :
    Mirrors s me rest below (m.follow me rest frame asked reply next)
      (n.follow me below frame asked reply next) := by
  cases next with
  | goto p => exact .run alike [frame p] (.cons (goto p) .nil)
  | ask q p => exact .run alike [asked q, frame p] (.cons (ask q) (.cons (goto p) .nil))
  | done r => exact .give alike _
  | blocked => exact .blocked

/-! What the turns read on the side of the waits. -/

private theorem token_of_same (same : s.waitSide = t.waitSide) (me : Nat) : t.token me = s.token me := by
  have attentions : s.attentions = t.attentions := congrArg WaitSide.attentions same
  rw [token_eq, token_eq, attentions]

private theorem handleFinished_of_same (same : s.waitSide = t.waitSide) (h : Handle) :
    t.handleFinished h = s.handleFinished h := by
  have units : s.units = t.units := congrArg WaitSide.units same
  have fixed : s.fixedHandles = t.fixedHandles := congrArg WaitSide.fixedHandles same
  cases h <;> simp only [handleFinished, units, fixed]

/-! The topmost activity moves. -/

private theorem mirrors_await (same : s.waitSide = t.waitSide) (passive : s.passive = true) (h : Handle) :
    Mirrors s me rest below (s.await me rest h) (t.await me below h) := by
  cases h with
  | unit id =>
    have units : t.units[id]? = s.units[id]? := congrArg (·.units[id]?) same.symm
    have address : t.nextAddress = s.nextAddress := congrArg (·.nextAddress) same.symm
    simp only [await, units, token_of_same same, address]
    cases s.units[id]? with
    | none => exact .blocked
    | some c =>
      dsimp only
      cases c.look (s.token me) s.nextAddress with
      | finished waited next =>
        refine .give ?_ _
        exact .of_change (fun w => { w with nextAddress := next }) same rfl rfl rfl rfl
      | interrupted => exact .give (.setToken same me false) _
      | nothing => exact .blocked
  | fixed id =>
    have fixed : t.fixedHandles[id]? = s.fixedHandles[id]? := congrArg (·.fixedHandles[id]?) same.symm
    simp only [await, fixed]
    cases found : s.fixedHandles[id]? with
    | none => exact .blocked
    | some h =>
      have still : h.actions[h.waits]?.getD [] = [] := by
        have quiet : h.actions.all List.isEmpty = true :=
          List.all_eq_true.mp passive h (Array.mem_toList_iff.mpr (Array.mem_of_getElem? found))
        cases there : h.actions[h.waits]? with
        | none => rfl
        | some actions =>
          exact List.isEmpty_iff.mp (List.all_eq_true.mp quiet actions (List.mem_of_getElem? there))
      dsimp only
      rw [still]
      refine .run ?_ [_, _] (.actor h.name id h.waits)
      exact .of_change
        (fun w => { w with fixedHandles := w.fixedHandles.setIfInBounds id { h with waits := h.waits + 1 } })
        same rfl rfl rfl rfl

private theorem mirrors_answerWait (same : s.waitSide = t.waitSide) (id index : Nat) :
    Mirrors s me rest below (some (s.answerWait me rest id index))
      (some (t.answerWait me below id index)) := by
  have fixed : t.fixedHandles[id]? = s.fixedHandles[id]? := congrArg (·.fixedHandles[id]?) same.symm
  have address : t.nextAddress = s.nextAddress := congrArg (·.nextAddress) same.symm
  simp only [answerWait, fixed, failure, address]
  cases (s.fixedHandles[id]?).bind (·.answers[index]?) with
  | none => exact .give (.refl same) _
  | some answer =>
    cases answer with
    | success | interrupted => exact .give (.refl same) _
    | failure cause =>
      refine .give ?_ _
      exact .of_change (fun w => { w with nextAddress := (cause.failure s.nextAddress).2 }) same rfl rfl
        rfl rfl

private theorem mirrors_query (same : s.waitSide = t.waitSide) (query : HandleQuery) (h : Handle) :
    Mirrors s me rest below (some (s.query me rest query h)) (some (t.query me below query h)) := by
  cases query with
  | isFinished =>
    simp only [Session.query, handleFinished_of_same same]
    exact .give (.refl same) _
  | isFailed =>
    cases h with
    | unit id =>
      have units : t.units[id]? = s.units[id]? := congrArg (·.units[id]?) same.symm
      simp only [Session.query, units]
      exact .give (.refl same) _
    | fixed id =>
      simp only [Session.query, handleFinished_of_same same]
      split
      · exact .run (.refl same) [_, _] (.cons rfl (.cons rfl .nil))
      · exact .give (.refl same) _

private theorem mirrors_consult (same : s.waitSide = t.waitSide) (m : Monitor) (query : MonitorQuery) :
    Mirrors s me rest below (s.consult me rest m query) (t.consult me below m query) := by
  cases m with
  | units id => cases query <;> exact .run (.refl same) [_] (.cons rfl .nil)
  | scripted id =>
    have scripted : t.scriptedMonitors[id]? = s.scriptedMonitors[id]? :=
      congrArg (·.scriptedMonitors[id]?) same.symm
    have counted (m : ScriptedMonitor) (call : Call) :
        Alike s { s.record call with scriptedMonitors := s.scriptedMonitors.setIfInBounds id m }
          { t.record call with scriptedMonitors := t.scriptedMonitors.setIfInBounds id m } :=
      .of_change (fun w => { w with scriptedMonitors := w.scriptedMonitors.setIfInBounds id m }) same rfl
        rfl rfl rfl
    cases query with
    | currentHandle =>
      simp only [consult, scripted]
      cases s.scriptedMonitors[id]? with
      | none => exact .blocked
      | some m =>
        simp only [Option.bind_eq_bind, Option.bind_some]
        cases m.handles[min m.fetches (m.handles.length - 1)]? with
        | none => exact .blocked
        | some h => exact .give (counted _ _) _
    | isDone =>
      simp only [consult, scripted]
      cases s.scriptedMonitors[id]? with
      | none => exact .blocked
      | some m => exact .give (counted _ _) _

theorem mirrors_advance (same : s.waitSide = t.waitSide) (passive : s.passive = true) {a : Activity}
    (upper : a.attendsOn rest = true) :
    Mirrors s me rest below (s.advance me rest a) (t.advance me below a) := by
  cases a with
  | wait h => exact mirrors_await same passive h
  | answerWait id index => exact mirrors_answerWait same id index
  | query query h => exact mirrors_query same query h
  | consult m query => exact mirrors_consult same m query
  | judge | settleWait | reportHandle | reportFailed | reportMonitor => exact .give (.refl same) _
  | openGate h =>
    cases h with
    | unit id => exact .give (.finishUnit same id .success) _
    | fixed id => exact .give (.refl same) _
  | newGate =>
    have size : t.units.size = s.units.size := congrArg (·.units.size) same.symm
    simp only [advance, newUnit, size]
    refine .give ?_ _
    exact .of_change (·.newUnit) same rfl rfl rfl rfl
  | monitor id point =>
    have monitors : t.monitors[id]? = s.monitors[id]? := congrArg (·.monitors[id]?) same.symm
    simp only [advance, monitors]
    cases s.monitors[id]? with
    | none => exact .blocked
    | some m =>
      refine .follow (.log ?_ _) (fun _ => rfl) ?_ _
      · exact .of_change
          (fun w => { w with monitors := w.monitors.setIfInBounds id (UnitMonitor.step me m point).1 })
          same rfl rfl rfl rfl
      · intro q
        cases q <;> rfl
  | turn m point =>
    refine .follow (.refl same) (fun _ => rfl) ?_ _
    intro q
    cases q <;> rfl
  | drive transfer point =>
    have attached : (t.transfers[transfer]?).map (·.monitor) = (s.transfers[transfer]?).map (·.monitor) := by
      simpa [waitSide, Session.attached] using congrArg (·.attached[transfer]?) same.symm
    simp only [advance]
    cases here : s.transfers[transfer]? <;> cases there : t.transfers[transfer]? <;>
      simp only [here, there, Option.map_none, Option.map_some, reduceCtorEq, Option.some.injEq] at attached
    · exact .blocked
    · simp only [Option.bind_eq_bind, Option.bind_some, attached]
      exact .follow (.refl same) (fun _ => rfl) (fun _ => rfl) _
  | steps source todo taken =>
    obtain ⟨name, rfl, rfl, rfl⟩ := Activity.actor_of_attendsOn upper
    exact .give (.refl same) _
  | _ => cases upper

/-! A reply is handed to an activity, or a panic meets it. -/

theorem Mirrors.again (alike : Alike s m n) {a : Activity} (upper : a.attendsOn rest = true)
    (lower : a.attendsOn below = true) :
    Mirrors s me rest below (some (m.run me (a :: rest))) (some (n.run me (a :: below))) :=
  .moved alike [a] _ (.cons upper (Attends.nil rest)) (.cons lower (Attends.nil below))

theorem mirrors_resume (same : s.waitSide = t.waitSide) {a : Activity} (upper : a.attendsOn rest = true)
    (lower : a.attendsOn below = true) (reply : Reply) :
    Mirrors s me rest below (s.resume me rest reply a) (t.resume me below reply a) := by
  cases a with
  | wait | answerWait | query | openGate | newGate | consult => exact .again (.refl same) upper lower
  | judge => exact .give (.refl same) _
  | monitor id point => exact .run (.refl same) [_] (.cons rfl .nil)
  | turn m point =>
    simp only [resume]
    cases turnAnswer reply with
    | none => exact .blocked
    | some answer => exact .run (.refl same) [_] (.cons rfl .nil)
  | drive transfer point =>
    cases reply with
    | turned result => exact .run (.refl same) [_] (.cons rfl .nil)
    | _ => exact .blocked
  | settleWait kind keep =>
    simp only [resume, token_of_same same]
    cases waitReport kind reply with
    | none => exact .blocked
    | some report =>
      refine .give ?_ _
      split
      · exact .refl same
      · exact .setToken same me false
  | reportHandle h =>
    cases reply with
    | truth finished => exact .run (.refl same) [_, _] (.cons rfl (.cons rfl .nil))
    | _ => exact .blocked
  | reportFailed finished =>
    cases reply with
    | truth failed => exact .give (.refl same) _
    | _ => exact .blocked
  | reportMonitor id before =>
    have monitors : t.monitors[id]? = s.monitors[id]? := congrArg (·.monitors[id]?) same.symm
    simp only [resume, monitors, unitMonitorDebug, handleFinished_of_same same]
    cases s.monitors[id]? with
    | none => cases reply <;> exact .blocked
    | some m =>
      cases reply with
      | truth done => exact .give (.refl same) _
      | _ => exact .blocked
  | steps source todo taken =>
    obtain ⟨name, rfl, rfl, rfl⟩ := Activity.actor_of_attendsOn upper
    refine .again ?_ upper lower
    exact ⟨same, rfl, rfl⟩
  | _ => cases upper

theorem mirrors_unwind (same : s.waitSide = t.waitSide) {a : Activity} (upper : a.attendsOn rest = true)
    (panic : String) :
    Mirrors s me rest below (some (s.unwind me rest panic a)) (some (t.unwind me below panic a)) := by
  cases a with
  | monitor id point =>
    have monitors : t.monitors[id]? = s.monitors[id]? := congrArg (·.monitors[id]?) same.symm
    simp only [unwind, monitors]
    cases s.monitors[id]? with
    | none => exact .raise (.refl same) _
    | some m =>
      refine .raise ?_ _
      exact .of_change (fun w => { w with monitors := w.monitors.setIfInBounds id (m.abandon point) }) same
        rfl rfl rfl rfl
  | steps source todo taken =>
    obtain ⟨name, rfl, rfl, rfl⟩ := Activity.actor_of_attendsOn upper
    exact .raise (.refl same) _
  | wait | answerWait | query | judge | openGate | newGate | consult | turn | drive | settleWait
  | reportHandle | reportFailed | reportMonitor => exact .raise (.refl same) _
  | _ => cases upper

end

end TransferLifecycle.Session
