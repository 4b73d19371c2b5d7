import TransferLifecycle.Proofs.Dispatch.Interleaving
import TransferLifecycle.Proofs.Transition.Path

/-! A pass that a listener breaks off. The listeners it has called by then are the first ones of those that
were there when the pass began, and the one that panicked is the last of them. From then on nothing more is
told of the request: it gives its snapshot back, it gives the turn back, and its caller has the panic. -/
namespace TransferLifecycle.Transition

variable {α : Type} {me : Nat} {l : Lifecycle α} {strand : Strand α} {act : Act} {e : Effect α}
  {deeds : List (Deed α)}

def Strand.snapshot? : Strand α → Option Snapshot
  | .passing _ (.visit snapshot _) _ | .calling _ _ (.visit snapshot _) _ | .failing (.visit snapshot _) _ =>
    some snapshot
  | _ => none

def Strand.early : Strand α → Bool
  | .standing (.enter _) | .standing (.inspect _) | .standing (.store _ _) | .standing (.notify _)
  | .passing _ .start _ | .calling _ _ .start _ => true
  | _ => false

def Strand.late : Strand α → Bool
  | .standing (.entered _) | .standing (.leave _) | .failing _ _ | .firing _ .fired | .unwinding _ | .ended
  | .panicked => true
  | _ => false

def Deed.isPrelude : Deed α → Bool
  | .entered _ _ | .noted _ => true
  | _ => false

def Deed.called? : Deed α → Option α
  | .called listener _ => some listener
  | _ => none

private theorem Strand.late_resume (goal : Goal) : (Strand.standing (resume (.notified goal)) : Strand α).late = true := by
  cases goal <;> rfl

private theorem Strand.early_of_late (past : strand.late = true) : strand.early = false := by
  cases strand with
  | standing point => cases point <;> first | rfl | cases past
  | passing | calling => cases past
  | _ => rfl

theorem Strand.Acts.view (acts : strand.Acts me l act e) (snapshot : Snapshot) :
    e.core.observers.view snapshot = l.observers.view snapshot := by
  cases acts with
  | @abandonPass pass point => cases pass <;> rfl
  | @abandon point => cases point <;> rfl
  | _ => rfl

private theorem Strand.Tells.inside_of_snapshot (tells : strand.Tells l deeds) {snapshot : Snapshot}
    (mine : strand.snapshot? = some snapshot) : strand.inside = true := by
  cases tells with
  | pursued pursues => exact pursues.inside
  | _ => cases mine

theorem Strand.Acts.observers_of_outside (acts : strand.Acts me l act e) (tells : strand.Tells l deeds)
    (outside : strand.inside = false) : e.core.observers = l.observers := by
  cases tells with
  | waiting =>
    cases acts
    rfl
  | entered | resolved | ignored => cases outside
  | pursued pursues =>
    rw [pursues.inside] at outside
    cases outside
  | refused | done | panicked => cases acts

theorem Strand.Acts.held (acts : strand.Acts me l act e)
    (held : ∀ snapshot, strand.snapshot? = some snapshot → l.observers.Held snapshot) {snapshot : Snapshot}
    (mine : e.strand.snapshot? = some snapshot) : e.core.observers.Held snapshot := by
  cases acts with
  | beginPass =>
    cases mine
    exact List.mem_cons_self
  | call =>
    cases mine
    exact held _ rfl
  | @returned listener state pass point =>
    cases pass with
    | start => cases mine
    | visit => exact held snapshot mine
  | @broken listener state pass point =>
    cases pass with
    | start => cases mine
    | visit => exact held snapshot mine
  | _ => cases mine

private theorem Strand.Acts.prelude (acts : strand.Acts me l act e) (tells : strand.Tells l deeds)
    (early : e.strand.early = true) : strand.early = true ∧ ∀ deed ∈ e.deeds, deed.isPrelude = true := by
  cases acts with
  | enter | resolve | announce | notify | store => simp [Strand.early, Deed.isPrelude]
  | endPass =>
    cases tells with
    | pursued pursues =>
      obtain ⟨-, rfl⟩ := pursues
      rw [early_of_late (late_resume _)] at early
      cases early
  | fired =>
    cases tells with
    | pursued pursues =>
      cases pursues
      cases early
  | @returned listener state pass point =>
    cases pass with
    | start => exact ⟨rfl, by simp⟩
    | visit => cases early
  | _ => cases early

/-- What a request has told since its pass began among these entries, wherever it stands now. -/
inductive Strand.Passes (l : ListenerList α) (entries : List α) (goal : Goal) :
    Strand α → List (Deed α) → Prop where
  | visiting {snapshot index} (shown : l.view snapshot = entries) :
    Passes l entries goal (.passing goal.state (.visit snapshot index) (.notified goal))
      ((entries.take index).map (.called · goal.state))
  | calling {snapshot index listener} (shown : l.view snapshot = entries)
      (present : entries[index]? = some listener) :
    Passes l entries goal (.calling listener goal.state (.visit snapshot (index + 1)) (.notified goal))
      ((entries.take (index + 1)).map (.called · goal.state))
  | late {strand : Strand α} {deeds : List (Deed α)} (past : strand.late = true) :
    Passes l entries goal strand deeds

variable {entries : List α} {goal : Goal}

theorem Strand.Acts.late (acts : strand.Acts me l act e) (past : strand.late = true) :
    e.strand.late = true := by
  cases acts with
  | @fired kind point => cases point <;> first | rfl | cases past
  | abandonPass | fire | fireNothing | misfired | abandon | leave => rfl
  | _ => cases past

theorem Strand.Acts.passes (acts : strand.Acts me l act e)
    (passes : strand.Passes l.observers entries goal deeds) :
    e.strand.Passes e.core.observers entries goal (deeds ++ e.deeds) := by
  cases passes with
  | late past => exact .late (acts.late past)
  | @visiting snapshot index shown =>
    cases acts with
    | @call _ _ _ listener _ present =>
      rw [shown] at present
      have more : (entries.take (index + 1)).map (Deed.called · goal.state) =
          (entries.take index).map (Deed.called · goal.state) ++ [.called listener goal.state] := by
        simp [List.take_add_one, present]
      rw [← more]
      exact .calling shown present
    | endPass => exact .late (late_resume goal)
  | calling shown =>
    cases acts with
    | returned =>
      rw [List.append_nil]
      exact .visiting shown
    | broken => exact .late rfl

theorem Strand.Passes.keep {l later : ListenerList α} (passes : strand.Passes l entries goal deeds)
    (view : ∀ snapshot, strand.snapshot? = some snapshot → later.view snapshot = l.view snapshot) :
    strand.Passes later entries goal deeds := by
  cases passes with
  | visiting shown => exact .visiting ((view _ rfl).trans shown)
  | calling shown present => exact .calling ((view _ rfl).trans shown) present
  | late past => exact .late past

def Strand.Unwinds (goal : Goal) : Strand α → Prop
  | .failing _ point | .unwinding point => point = .notified goal
  | .panicked => True
  | _ => False

theorem Strand.Acts.unwinds (acts : strand.Acts me l act e) (unwinds : strand.Unwinds goal) :
    e.strand.Unwinds goal ∧ e.deeds = [] := by
  cases acts with
  | abandonPass => exact ⟨unwinds, rfl⟩
  | @abandon point => cases point <;> exact ⟨trivial, rfl⟩
  | _ => cases unwinds

theorem Carried.head {description : String} (carried : Carried description goal deeds) :
    ∃ state, deeds.head? = some (.entered goal state) := by
  induction carried with
  | moved | announced => exact ⟨_, rfl⟩
  | called listener before ih | fired event before ih =>
    obtain ⟨state, first⟩ := ih
    exact ⟨state, by simp [first]⟩

private theorem Carried.goal_eq {description later : String} {other : Goal}
    (carried : Carried description goal deeds) (again : Carried later other deeds) : goal = other := by
  obtain ⟨state, first⟩ := carried.head
  obtain ⟨state, second⟩ := again.head
  cases first.symm.trans second
  rfl

private theorem Carried.moved_to {description : String} {new : State}
    (carried : Carried description (.move new) deeds) :
    ∃ old, .noted (.moved description old new) ∈ deeds := by
  obtain ⟨old, first⟩ := carried.head
  exact ⟨old, (carried.entered (List.mem_of_head? first)).2⟩

namespace System

variable [BEq α] {s t : System α}

theorem run_append (s : System α) (first second : List (Action α)) :
    s.run? (first ++ second) = (s.run? first).bind (run? · second) := by
  induction first generalizing s with
  | nil => rfl
  | cons action rest ih =>
    rw [List.cons_append, run?, run?]
    cases s.perform? action with
    | none => rfl
    | some middle => exact ih middle

theorem Reachable.ran (reach : s.Reachable) :
    ∃ (description : String) (actions : List (Action α)), run? (new description) actions = some s := by
  induction reach with
  | start description => exact ⟨description, [], rfl⟩
  | next action before performed ih =>
    obtain ⟨description, actions, ran⟩ := ih
    refine ⟨description, actions ++ [action], ?_⟩
    rw [run_append, ran, Option.bind_some, run?, performed]
    rfl

/-- A run keeps what requests and acts keep, and what the listeners may change without hurting a snapshot. -/
theorem Reachable.keep (reach : s.Reachable) (holds : System α → Prop) (here : holds s)
    (request : ∀ s goal, s.Reachable → holds s → holds (s.request goal))
    (change : ∀ s list, s.Reachable → s.core.observers.Keeps list → holds s → holds (s.change list))
    (act : ∀ s place strand act e, s.Reachable → holds s → s.strands[place]? = some strand →
      Strand.Acts place s.core strand act e → holds (s.effect place e))
    {actions : List (Action α)} (ran : s.run? actions = some t) : holds t := by
  induction actions generalizing s with
  | nil =>
    cases Option.some.inj ran
    exact here
  | cons action rest ih =>
    obtain ⟨middle, performed, ran⟩ := Option.bind_eq_some_iff.mp ran
    refine ih (.next action reach performed) ?_ ran
    cases action with
    | request goal =>
      cases Option.some.inj performed
      exact request s goal reach here
    | act place a =>
      obtain ⟨strand, e, found, acts, rfl⟩ := acts_of_perform performed
      exact act s place strand a e reach here found acts
    | add listener =>
      cases Option.some.inj performed
      exact change s _ reach (ListenerList.keeps_mutate _ _) here
    | remove listener =>
      cases Option.some.inj performed
      exact change s _ reach (ListenerList.keeps_remove _ _) here

theorem Reachable.held (reach : s.Reachable) {place : Nat} {strand : Strand α}
    (found : s.strands[place]? = some strand) {snapshot : Snapshot}
    (mine : strand.snapshot? = some snapshot) : s.core.observers.Held snapshot := by
  obtain ⟨description, actions, ran⟩ := reach.ran
  refine (Reachable.start description).keep (fun s => ∀ place (strand : Strand α),
    s.strands[place]? = some strand → ∀ snapshot, strand.snapshot? = some snapshot →
      s.core.observers.Held snapshot) ?start ?request ?change ?act ran place strand found snapshot mine
  case start =>
    intro place strand found
    cases found
  case request =>
    intro s goal _ ih place strand found snapshot mine
    obtain old | ⟨-, rfl⟩ := found_request found
    · exact ih place strand old snapshot mine
    · cases mine
  case change =>
    intro s list _ keeps ih place strand found snapshot mine
    exact (keeps snapshot (ih place strand found snapshot mine)).1
  case act =>
    intro s acting strand act e reach ih here acts place other found snapshot mine
    obtain ⟨rfl, rfl⟩ | ⟨elsewhere, old⟩ := found_effect here found
    · exact acts.held (ih acting strand here) mine
    · -- The other one has the turn, so the acting one has not, and leaves the listeners as they are.
      have inside := (reach.tells old).inside_of_snapshot mine
      have outside : strand.inside = false :=
        Bool.eq_false_iff.mpr fun both => elsewhere (reach.inside_unique here old both inside)
      have same : (s.effect acting e).core.observers = s.core.observers :=
        acts.observers_of_outside (reach.tells here) outside
      rw [same]
      exact ih place other old snapshot mine

private theorem Reachable.prelude (reach : s.Reachable) {place : Nat} {strand : Strand α}
    (found : s.strands[place]? = some strand) (early : strand.early = true) :
    ∀ deed ∈ s.deedsOf place, deed.isPrelude = true := by
  refine reach.invariant (fun s => ∀ place (strand : Strand α), s.strands[place]? = some strand →
    strand.early = true → ∀ deed ∈ s.deedsOf place, deed.isPrelude = true) ?start ?request ?change ?act
    place strand found early
  case start =>
    intro description place strand found
    cases found
  case request =>
    intro s goal reach ih place strand found early
    obtain old | ⟨rfl, rfl⟩ := found_request found
    · exact ih place strand old early
    · rw [deedsOf_request, reach.deedsOf_eq_nil (Nat.le_refl _)]
      intro deed told
      cases told
  case change =>
    intro s list ih
    exact ih
  case act =>
    intro s acting strand act e reach ih here acts place other found early
    rw [deedsOf_effect]
    obtain ⟨rfl, rfl⟩ | ⟨elsewhere, old⟩ := found_effect here found
    · obtain ⟨before, news⟩ := acts.prelude (reach.tells here) early
      rw [if_pos rfl]
      intro deed told
      exact (List.mem_append.mp told).elim (ih acting strand here before deed) (news deed)
    · rw [if_neg elsewhere, List.append_nil]
      exact ih place other old early

def Passes (s : System α) (place : Nat) (entries : List α) (goal : Goal) (before : List (Deed α)) : Prop :=
  ∃ strand deeds, s.strands[place]? = some strand ∧ s.deedsOf place = before ++ deeds ∧
    strand.Passes s.core.observers entries goal deeds

theorem Reachable.passes {place : Nat} {entries : List α} {goal : Goal} {before : List (Deed α)}
    (reach : s.Reachable) (passes : s.Passes place entries goal before) {actions : List (Action α)}
    (ran : s.run? actions = some t) : t.Passes place entries goal before := by
  refine reach.keep (Passes · place entries goal before) passes ?request ?change ?act ran
  case request =>
    rintro s added _ ⟨strand, deeds, found, told, passes⟩
    have inside := (List.getElem?_eq_some_iff.mp found).1
    exact ⟨strand, deeds, (List.getElem?_append_left inside).trans found, told, passes⟩
  case change =>
    rintro s list reach keeps ⟨strand, deeds, found, told, passes⟩
    refine ⟨strand, deeds, found, told, passes.keep fun snapshot mine => ?_⟩
    exact (keeps snapshot (reach.held found mine)).2
  case act =>
    rintro s acting acts act e reach ⟨strand, deeds, found, told, passes⟩ here acts
    have inside := (List.getElem?_eq_some_iff.mp found).1
    by_cases same : acting = place
    · subst same
      cases here.symm.trans found
      refine ⟨e.strand, deeds ++ e.deeds, List.getElem?_set_self inside, ?_, acts.passes passes⟩
      rw [deedsOf_effect, if_pos rfl, told, List.append_assoc]
    · refine ⟨strand, deeds, (List.getElem?_set_ne same).trans found, ?_, ?_⟩
      · rw [deedsOf_effect, if_neg same, List.append_nil, told]
      · exact passes.keep fun snapshot _ => acts.view snapshot

/-- The panic of a listener is on its way to the caller of the request, or it is there. -/
structure Unwinding (s : System α) (place : Nat) (goal : Goal) (told : List (Deed α)) : Prop where
  /-- Nothing more is told of the request: no event is fired, and nothing is answered. -/
  same : s.deedsOf place = told
  silent : ∀ deed ∈ told, (∀ kind, deed ≠ .fired kind) ∧ ∀ applied, deed ≠ .answered applied
  moved : ∀ new, goal = .move new → ∃ old, .noted (.moved s.core.description old new) ∈ told
  lasts : ∀ new, goal = .move new → s.core.turn = some place → s.core.state = new
  /-- Two moves of its own bring the panic to the caller, and change nothing that others can see. -/
  reaches : ∃ n t, n ≤ 2 ∧ s.run? (moves place n) = some t ∧ t.strands[place]? = some .panicked ∧
    t.core.turn ≠ some place ∧ t.core.state = s.core.state ∧ t.history = s.history ∧
    t.core.observers.toList = s.core.observers.toList

/-- A listener that the request called has panicked, after this had been told of the request. -/
def Unwound (s : System α) (place : Nat) (goal : Goal) (told : List (Deed α)) : Prop :=
  s.deedsOf place = told ∧ ∃ strand, s.strands[place]? = some strand ∧ strand.Unwinds goal

private theorem Reachable.unwound {place : Nat} {goal : Goal} {told : List (Deed α)} (reach : s.Reachable)
    (unwound : s.Unwound place goal told) {actions : List (Action α)} (ran : s.run? actions = some t) :
    t.Unwound place goal told := by
  refine reach.keep (Unwound · place goal told) unwound ?request ?change ?act ran
  case request =>
    rintro s added _ ⟨same, strand, found, unwinds⟩
    have inside := (List.getElem?_eq_some_iff.mp found).1
    exact ⟨same, strand, (List.getElem?_append_left inside).trans found, unwinds⟩
  case change =>
    intro s list _ _ unwound
    exact unwound
  case act =>
    rintro s acting acts act e _ ⟨told, strand, found, unwinds⟩ here acts
    have inside := (List.getElem?_eq_some_iff.mp found).1
    by_cases same : acting = place
    · subst same
      cases here.symm.trans found
      obtain ⟨still, silent⟩ := acts.unwinds unwinds
      refine ⟨?_, e.strand, List.getElem?_set_self inside, still⟩
      rw [deedsOf_effect, if_pos rfl, silent, List.append_nil, told]
    · refine ⟨?_, strand, (List.getElem?_set_ne same).trans found, unwinds⟩
      rw [deedsOf_effect, if_neg same, List.append_nil, told]

theorem perform_of_act {place : Nat} {strand : Strand α} {act : Act} {e : Effect α}
    (found : s.strands[place]? = some strand) (acted : strand.act? place s.core act = some e) :
    s.perform? (.act place act) = some (s.effect place e) := by
  simp [perform?, found, acted]

private theorem run_move {place : Nat} (performed : s.perform? (.act place .move) = some t) (n : Nat) :
    s.run? (moves place (n + 1)) = t.run? (moves place n) := by
  simp [moves, List.replicate_succ, run?, performed]

theorem Reachable.turn_ne (reach : s.Reachable) {place : Nat} {strand : Strand α}
    (found : s.strands[place]? = some strand) (outside : strand.inside = false) :
    s.core.turn ≠ some place := by
  intro turn
  obtain ⟨other, here, inside⟩ := (reach.exclusive place).mp turn
  cases here.symm.trans found
  rw [outside] at inside
  cases inside

private theorem Reachable.brings (reach : s.Reachable) {place : Nat} {goal : Goal} {strand : Strand α}
    (found : s.strands[place]? = some strand) (unwinds : strand.Unwinds goal) :
    ∃ n t, n ≤ 2 ∧ s.run? (moves place n) = some t ∧ t.strands[place]? = some .panicked ∧
      t.core.turn ≠ some place ∧ t.core.state = s.core.state ∧ t.history = s.history ∧
      t.core.observers.toList = s.core.observers.toList := by
  have inside := (List.getElem?_eq_some_iff.mp found).1
  cases strand with
  | panicked => exact ⟨0, s, by omega, rfl, found, reach.turn_ne found rfl, rfl, rfl, rfl⟩
  | unwinding point =>
    cases unwinds
    have only := run_move (perform_of_act found rfl) 0
    exact ⟨1, _, by omega, only.trans rfl, List.getElem?_set_self inside, nofun, rfl, List.append_nil _, rfl⟩
  | failing pass point =>
    cases unwinds
    let left : Effect α :=
      { core := { s.core with observers := Pass.abandon s.core.observers pass }
        strand := .unwinding (.notified goal) }
    have first : s.perform? (.act place .move) = some (s.effect place left) := perform_of_act found rfl
    have there : (s.effect place left).strands[place]? = some (.unwinding (.notified goal)) :=
      List.getElem?_set_self inside
    have second : (s.effect place left).perform? (.act place .move) = some _ := perform_of_act there rfl
    refine ⟨2, _, by omega, (run_move first 1).trans ((run_move second 0).trans rfl), ?_, nofun, rfl, ?_, ?_⟩
    · exact List.getElem?_set_self (by simpa [effect] using inside)
    · simp [effect, left]
    · cases pass <;> rfl
  | _ => cases unwinds

theorem Reachable.unwinding (reach : s.Reachable) {place : Nat} {goal : Goal} {told : List (Deed α)}
    (unwound : s.Unwound place goal told) {description : String} (carried : Carried description goal told)
    (silent : ∀ deed ∈ told, (∀ kind, deed ≠ .fired kind) ∧ ∀ applied, deed ≠ .answered applied) :
    s.Unwinding place goal told := by
  obtain ⟨same, strand, found, unwinds⟩ := unwound
  have tells := reach.tells found
  rw [same] at tells
  have carries : Carried s.core.description goal told ∧
      ∀ new, goal = .move new → s.core.turn = some place → s.core.state = new := by
    cases tells with
    | @pursued _ other _ pursues carries =>
      obtain rfl : other = goal := carries.told.goal_eq carried
      exact ⟨carries.told, fun new same _ => carries.lasts new same⟩
    | @panicked other _ carries =>
      obtain rfl : other = goal := carries.goal_eq carried
      exact ⟨carries, fun new _ turn => absurd turn (reach.turn_ne found rfl)⟩
    | _ => cases unwinds
  exact {
    same := same
    silent := silent
    moved := fun new goal => (goal ▸ carries.1).moved_to
    lasts := carries.2
    reaches := reach.brings found unwinds }

def called (s : System α) (place : Nat) : List α := (s.deedsOf place).filterMap Deed.called?

omit [BEq α] in
private theorem called_of_prelude {deeds : List (Deed α)} (prelude : ∀ deed ∈ deeds, deed.isPrelude = true) :
    deeds.filterMap Deed.called? = [] := by
  refine List.filterMap_eq_nil_iff.mpr fun deed told => ?_
  have before := prelude deed told
  cases deed <;> first | rfl | cases before

/-- If a listener panics, the pass has called the first listeners of those that were there when it began, and
this one last, and the panic goes to the caller, whatever happens meanwhile. -/
theorem Reachable.breaks (reach : s.Reachable) {place : Nat} {state : State} {point : Point}
    (standing : s.strands[place]? = some (.passing state .start point)) {begun broken after : System α}
    (begins : s.perform? (.act place .move) = some begun) {actions : List (Action α)}
    (ran : begun.run? actions = some t) {listener : α} {now : State} {pass : Pass.Point} {later : Point}
    (calling : t.strands[place]? = some (.calling listener now pass later))
    (panics : t.perform? (.act place (.finish true)) = some broken) {more : List (Action α)}
    (ranOn : broken.run? more = some after) :
    ∃ goal i, point = .notified goal ∧ now = goal.state ∧ s.core.observers.toList[i]? = some listener ∧
      t.called place = s.core.observers.toList.take (i + 1) ∧ after.Unwinding place goal (t.deedsOf place) := by
  have early := reach.prelude standing rfl
  obtain ⟨goal, rfl, rfl⟩ : ∃ goal, state = goal.state ∧ point = .notified goal := by
    cases reach.tells standing with
    | @pursued _ goal _ pursues => exact ⟨goal, pursues⟩
  have reachBegun : begun.Reachable := .next _ reach begins
  have reachCalling := reachBegun.run actions ran
  have reachBroken : broken.Reachable := .next _ reachCalling panics
  have passes : begun.Passes place s.core.observers.toList goal (s.deedsOf place) := by
    obtain ⟨strand, e, found, acts, rfl⟩ := acts_of_perform begins
    cases found.symm.trans standing
    cases acts
    have inside := (List.getElem?_eq_some_iff.mp standing).1
    exact ⟨_, [], List.getElem?_set_self inside, by simp, .visiting rfl⟩
  obtain ⟨strand, deeds, found, told, passes⟩ := reachBegun.passes passes ran
  cases found.symm.trans calling
  cases passes with
  | late past => cases past
  | @calling snapshot i _ shown present =>
    have carried : Carried t.core.description goal (t.deedsOf place) := by
      cases reachCalling.tells calling with
      | pursued pursues carries =>
        obtain ⟨-, same⟩ := pursues
        cases same
        exact carries.told
    have unwound : broken.Unwound place goal (t.deedsOf place) := by
      obtain ⟨strand, e, found, acts, rfl⟩ := acts_of_perform panics
      cases found.symm.trans calling
      cases acts
      have inside := (List.getElem?_eq_some_iff.mp calling).1
      exact ⟨by simp, _, List.getElem?_set_self inside, rfl⟩
    refine ⟨goal, i, rfl, rfl, present, ?_, ?_⟩
    · rw [called, told, List.filterMap_append, called_of_prelude early, List.nil_append, List.filterMap_map]
      exact List.filterMap_some
    · refine (reachBroken.run more ranOn).unwinding (reachBroken.unwound unwound ranOn) carried ?_
      intro deed member
      rw [told] at member
      obtain before | since := List.mem_append.mp member
      · have prelude := early deed before
        cases deed with
        | entered | noted => simp
        | called | fired | answered => cases prelude
      · obtain ⟨listener, -, rfl⟩ := List.mem_map.mp since
        simp

end System

end TransferLifecycle.Transition
