import TransferLifecycle.Proofs.Session.Steps

/-! How the turn of a transfer is held. The thread that has a turn has a transition on its stack that
took it. What stands above that transition is the pass that it has begun, with whatever the listeners
have begun, or the firing, with whatever the delivery of an event has begun. -/
namespace TransferLifecycle.Session

/-- What stands between a transition that has the turn and the top of the stack. -/
def Covers (transfer : Nat) : Transition.Point → List Activity → Prop
  | .notified _, above =>
    ∃ inner state pass, above = inner ++ [.registry (.transfer transfer) transfer state pass]
  | .fired, above => Delivers above
  | _, _ => False

/-- Every transition that has the turn is at the top or waits for what stands above it. -/
def Guarded (stack : List Activity) : Prop :=
  ∀ above transfer point below, stack = above ++ .transition transfer point :: below →
    point.inside = true → above = [] ∨ Covers transfer point above

theorem Guarded.of_waits {stack : List Activity} (waits : Waits stack) : Guarded stack := by
  rintro above transfer point below rfl inside
  have outside := waits (.transition transfer point) (by simp)
  rw [Activity.inside, inside] at outside
  cases outside

theorem Delivers.replace {a : Activity} {added above : List Activity} (delivers : Delivers (a :: above))
    (follows : Follows a added) : Delivers (added ++ above) := by
  -- What came in the place of `a` leads to a delivery, and what stands below it is part of the firing.
  have lead (firing : ∀ activity ∈ above, activity.fires = true)
      (leads : a.fires = true ∨ ∃ dispatcher, a = .dispatch dispatcher .reached) :
      Delivers (added ++ above) := by
    obtain all | ⟨outer, dispatcher, inner, rfl, all⟩ := follows.delivers leads
    · exact Or.inl (List.forall_mem_append.mpr ⟨all, firing⟩)
    · refine Or.inr ⟨outer, dispatcher, inner ++ above, by simp, ?_⟩
      exact List.forall_mem_append.mpr ⟨all, firing⟩
  obtain firing | ⟨outer, dispatcher, inner, split, firing⟩ := delivers
  · obtain ⟨first, others⟩ := List.forall_mem_cons.mp firing
    exact lead others (Or.inl first)
  · cases outer with
    | nil =>
      obtain ⟨rfl, rfl⟩ := List.cons.inj split
      exact lead firing (Or.inr ⟨dispatcher, rfl⟩)
    | cons first outer =>
      obtain ⟨-, rfl⟩ := List.cons.inj split
      exact Or.inr ⟨added ++ outer, dispatcher, inner, by simp, firing⟩

theorem Covers.replace {transfer : Nat} {point : Transition.Point} {a : Activity}
    {added above : List Activity} (covers : Covers transfer point (a :: above))
    (follows : Follows a added) : added ++ above = [] ∨ Covers transfer point (added ++ above) := by
  cases point with
  | fired => exact Or.inr (Delivers.replace covers follows)
  | notified goal =>
    obtain ⟨inner, state, pass, split⟩ := covers
    cases inner with
    | nil =>
      obtain ⟨rfl, rfl⟩ := List.cons.inj split
      rw [List.append_nil]
      obtain ended | ⟨inner, pass, rfl⟩ := follows.visits _ _ _ _ rfl
      · exact Or.inl ended
      · exact Or.inr ⟨inner, state, pass, rfl⟩
    | cons first inner =>
      obtain ⟨-, rfl⟩ := List.cons.inj split
      exact Or.inr ⟨added ++ inner, state, pass, by simp⟩
  | _ => cases covers

theorem Guarded.replace {a : Activity} {added rest : List Activity} (guarded : Guarded (a :: rest))
    (follows : Follows a added) (own : Guarded added) : Guarded (added ++ rest) := by
  intro above transfer point below split inside
  have beyond (between : List Activity) (found : rest = between ++ .transition transfer point :: below) :
      added ++ between = [] ∨ Covers transfer point (added ++ between) := by
    have covered := guarded (a :: between) transfer point below (by rw [found]; rfl) inside
    exact (covered.resolve_left (List.cons_ne_nil _ _)).replace follows
  -- The transition stood below the activity that gave way, or has come in its place.
  obtain ⟨between, rfl, found⟩ | ⟨within, rfl, found⟩ := List.append_eq_append_iff.mp split
  · exact beyond between found
  · cases within with
    | nil => simpa using beyond [] found.symm
    | cons first within =>
      obtain ⟨rfl, rfl⟩ := List.cons.inj found
      exact own above transfer point within rfl inside

/-- The thread that has a turn has a transition that has it. -/
structure Sound (s : Session) : Prop where
  held : ∀ transfer thread, s.turnOf transfer = some thread →
    ∃ point, point.inside = true ∧ .transition transfer point ∈ s.frames thread
  guarded : ∀ thread, Guarded (s.frames thread)

section

variable {s m t : Session} {me : Nat}

@[simp] theorem turnOf_put (s : Session) (me : Nat) (stack : List Activity) (mode : Mode) (transfer : Nat) :
    (s.put me stack mode).turnOf transfer = s.turnOf transfer := rfl

private theorem frames_put_self {stack : List Activity} (filled : s.frames me ≠ []) (mode : Mode) :
    (s.put me stack mode).frames me = stack := by
  cases found : s.threads[me]? with
  | none => simp [frames, found] at filled
  | some thread => simp [frames, put, Array.getElem?_modify, found]

private theorem frames_put_ne {stack : List Activity} {mode : Mode} {thread : Nat} (other : me ≠ thread) :
    (s.put me stack mode).frames thread = s.frames thread := by
  simp [frames, put, Array.getElem?_modify, other]

private theorem Calm.frames_of_filled (calm : Calm s m) {thread : Nat} (filled : s.frames thread ≠ []) :
    m.frames thread = s.frames thread :=
  (calm.frames thread).resolve_right fun fresh => filled fresh.1

theorem Sound.of_calm (sound : Sound s) (calm : Calm s m) : Sound m where
  held transfer thread has := by
    rw [calm.turn] at has
    obtain ⟨point, inside, present⟩ := sound.held transfer thread has
    rw [calm.frames_of_filled (List.ne_nil_of_mem present)]
    exact ⟨point, inside, present⟩
  guarded thread := by
    obtain same | ⟨-, waits⟩ := calm.frames thread
    · rw [same]
      exact sound.guarded thread
    · exact .of_waits waits

private theorem mem_frames_put {a activity : Activity} {rest added : List Activity} {mode : Mode} {thread : Nat}
    (stack : m.frames me = a :: rest) (present : activity ∈ m.frames thread) :
    activity ∈ (m.put me (added ++ rest) mode).frames thread ∨ thread = me ∧ activity = a := by
  by_cases same : me = thread
  · subst same
    rw [frames_put_self (by simp [stack])]
    rw [stack] at present
    obtain top | below := List.mem_cons.mp present
    · exact Or.inr ⟨rfl, top⟩
    · exact Or.inl (List.mem_append_right _ below)
  · rw [frames_put_ne same]
    exact Or.inl present

private theorem guarded_put {a : Activity} {rest added : List Activity} (stack : m.frames me = a :: rest)
    (guarded : ∀ thread, Guarded (m.frames thread)) (follows : Follows a added) (own : Guarded added)
    (mode : Mode) (thread : Nat) : Guarded ((m.put me (added ++ rest) mode).frames thread) := by
  by_cases same : me = thread
  · subst same
    rw [frames_put_self (by simp [stack])]
    exact (stack ▸ guarded me).replace follows own
  · rw [frames_put_ne same]
    exact guarded thread

private theorem Sound.of_lands {a : Activity} {rest : List Activity} (sound : Sound s)
    (stack : s.frames me = a :: rest) (other : ∀ transfer point, a ≠ .transition transfer point)
    (lands : Lands s me rest (Replaces a) t) : Sound t := by
  obtain ⟨m, added, mode, calm, replaces, rfl⟩ := lands
  have before := sound.of_calm calm
  have same : m.frames me = a :: rest := (calm.frames_of_filled (by simp [stack])).trans stack
  constructor
  · intro transfer thread has
    obtain ⟨point, inside, present⟩ := before.held transfer thread has
    refine ⟨point, inside, (mem_frames_put same present).resolve_right fun top => ?_⟩
    exact other _ _ top.2.symm
  · exact guarded_put same before.guarded replaces.toFollows (.of_waits replaces.waits) mode

/-- What the step of a transition does: it changes no turn but that of its transfer, and while it has
that turn it stays on the stack. -/
structure Turns (s m : Session) (me transfer : Nat) (point : Transition.Point) (added : List Activity) :
    Prop where
  frames : ∀ thread, m.frames thread = s.frames thread
  others : ∀ other, other ≠ transfer → m.turnOf other = s.turnOf other
  own : Guarded added
  stays : (∃ next, next.inside = true ∧ .transition transfer next ∈ added) ∧
      (m.turnOf transfer = some me ∨ m.turnOf transfer = s.turnOf transfer) ∨
    m.turnOf transfer = none ∨ m.turnOf transfer = s.turnOf transfer ∧ point.inside = false

private theorem Sound.of_turns {transfer : Nat} {point : Transition.Point} {rest added : List Activity}
    (sound : Sound s) (stack : s.frames me = .transition transfer point :: rest)
    (turns : Turns s m me transfer point added) (mode : Mode) :
    Sound (m.put me (added ++ rest) mode) := by
  have same : m.frames me = .transition transfer point :: rest := (turns.frames me).trans stack
  have filled : m.frames me ≠ [] := by simp [same]
  -- Of what had a turn before, all is still there but the transition itself.
  have still (other thread : Nat) (has : s.turnOf other = some thread) :
      (∃ next, next.inside = true ∧
        .transition other next ∈ (m.put me (added ++ rest) mode).frames thread) ∨
      thread = me ∧ other = transfer ∧ point.inside = true := by
    obtain ⟨next, inside, present⟩ := sound.held other thread has
    rw [← turns.frames] at present
    obtain below | ⟨here, top⟩ := mem_frames_put same present
    · exact Or.inl ⟨next, inside, below⟩
    · cases top
      exact Or.inr ⟨here, rfl, inside⟩
  have stands {next : Transition.Point} (member : .transition transfer next ∈ added) :
      .transition transfer next ∈ (m.put me (added ++ rest) mode).frames me := by
    rw [frames_put_self filled]
    exact List.mem_append_left _ member
  constructor
  · intro other thread has
    rw [turnOf_put] at has
    by_cases elsewhere : other = transfer
    · subst elsewhere
      obtain ⟨⟨next, inside, member⟩, mine | kept⟩ | free | ⟨kept, outside⟩ := turns.stays
      · cases Option.some.inj (mine.symm.trans has)
        exact ⟨next, inside, stands member⟩
      · obtain found | ⟨rfl, -, -⟩ := still other thread (kept ▸ has)
        · exact found
        · exact ⟨next, inside, stands member⟩
      · rw [free] at has
        cases has
      · refine (still other thread (kept ▸ has)).resolve_right fun top => ?_
        rw [top.2.2] at outside
        cases outside
    · rw [turns.others other elsewhere] at has
      exact (still other thread has).resolve_right fun top => elsewhere top.2.1
  · refine guarded_put same ?_ ⟨nofun, by simp [Activity.fires]⟩ turns.own mode
    intro thread
    rw [turns.frames]
    exact sound.guarded thread

private theorem frames_log (s : Session) (me : Nat) (notices : List Notice) (thread : Nat) :
    (s.log me notices).frames thread = s.frames thread := by
  simp only [log, frames, Array.getElem?_modify]
  split <;> simp [Function.comp_def]

private theorem turnOf_setLifecycle_self {transfer : Nat} {tr : Transfer}
    (found : s.transfers[transfer]? = some tr) (lifecycle : Lifecycle Nat) :
    (s.setLifecycle transfer lifecycle).turnOf transfer = lifecycle.turn := by
  simp [setLifecycle, turnOf, Array.getElem?_modify, found]

private theorem turnOf_setLifecycle_ne {transfer other : Nat} (elsewhere : other ≠ transfer)
    (lifecycle : Lifecycle Nat) : (s.setLifecycle transfer lifecycle).turnOf other = s.turnOf other := by
  simp [setLifecycle, turnOf, Array.getElem?_modify, elsewhere.symm]

end

/-! Steps of transitions. -/

theorem Guarded.single (a : Activity) : Guarded [a] := by
  intro above transfer point below split _
  cases above with
  | nil => exact Or.inl rfl
  | cons first above => simp at split

theorem Guarded.waiting {a : Activity} {transfer : Nat} {point : Transition.Point}
    (covers : Covers transfer point [a]) : Guarded [a, .transition transfer point] := by
  intro above other next below split _
  cases above with
  | nil => exact Or.inl rfl
  | cons first above =>
    obtain ⟨rfl, split⟩ := List.cons.inj split
    cases above with
    | nil =>
      cases split
      exact Or.inr covers
    | cons second above => simp at split

def activities (transfer : Nat) : Transition.Strand Nat → List Activity
  | .standing point => [.transition transfer point]
  | .passing state _ point =>
    [.registry (.transfer transfer) transfer state .start, .transition transfer point]
  | .firing kind point => [.fire transfer (Event.lifecycle kind), .transition transfer point]
  | _ => []

private theorem acts_of_followed {m t : Session} {me : Nat} {rest : List Activity} {transfer : Nat}
    {l : Lifecycle Nat} {point : Transition.Point}
    (followed : m.follow me rest (.transition transfer) (transitionQuestion transfer) .truth
      (Transition.step me l point).2.2 = some t) :
    ∃ e mode, Transition.Strand.Acts me l (.standing point) .move e ∧
      e.core = (Transition.step me l point).1 ∧ t = m.put me (activities transfer e.strand ++ rest) mode := by
  have acted : (Transition.Strand.standing point).act? me l .move =
      (Transition.Strand.follow (Transition.step me l point).2.2).map fun next =>
        { core := (Transition.step me l point).1, strand := next.1
          deeds := point.deeds l ++ (Transition.step me l point).2.1.map .noted ++ next.2 } := by
    simp only [Transition.Strand.act?]
    cases Transition.Strand.follow (Transition.step me l point).2.2 <;> rfl
  cases next : (Transition.step me l point).2.2 with
  | goto p =>
    rw [next] at followed acted
    cases Option.some.inj followed
    exact ⟨_, _, Transition.Strand.standing_acts acted, rfl, rfl⟩
  | ask question p =>
    rw [next] at followed acted
    cases Option.some.inj followed
    cases question <;> exact ⟨_, _, Transition.Strand.standing_acts acted, rfl, rfl⟩
  | done applied =>
    rw [next] at followed acted
    cases Option.some.inj followed
    exact ⟨_, _, Transition.Strand.standing_acts acted, rfl, rfl⟩
  | blocked =>
    rw [next] at followed
    cases followed

private theorem guarded_of_acts {me : Nat} {l : Lifecycle Nat} {point : Transition.Point}
    {e : Transition.Effect Nat} (acts : Transition.Strand.Acts me l (.standing point) .move e)
    (transfer : Nat) : Guarded (activities transfer e.strand) := by
  cases acts with
  | notify => exact .waiting ⟨[], _, _, rfl⟩
  | fire => exact .waiting (Or.inl (by simp [Activity.fires]))
  | leave => exact .of_waits waits_nil
  | _ => exact .single _

private theorem stays_of_acts {me : Nat} {l : Lifecycle Nat} {point : Transition.Point}
    {e : Transition.Effect Nat} (acts : Transition.Strand.Acts me l (.standing point) .move e)
    (transfer : Nat) :
    (∃ next, next.inside = true ∧ .transition transfer next ∈ activities transfer e.strand) ∧
      (e.core.turn = some me ∨ e.core.turn = l.turn) ∨ e.core.turn = none := by
  cases acts with
  | enter => exact Or.inl ⟨⟨_, rfl, List.mem_singleton_self _⟩, Or.inl rfl⟩
  | leave => exact Or.inr rfl
  | @notify goal => exact Or.inl ⟨⟨.notified goal, rfl, by simp [activities]⟩, Or.inr rfl⟩
  | fire => exact Or.inl ⟨⟨.fired, rfl, by simp [activities]⟩, Or.inr rfl⟩
  | _ => exact Or.inl ⟨⟨_, rfl, List.mem_singleton_self _⟩, Or.inr rfl⟩

section

variable {s t : Session} {me : Nat} {rest added : List Activity} {transfer : Nat}
  {point : Transition.Point} {tr : Transfer}

private theorem Turns.of_setLifecycle (found : s.transfers[transfer]? = some tr) {l : Lifecycle Nat}
    (own : Guarded added)
    (stays : (∃ next, next.inside = true ∧ .transition transfer next ∈ added) ∧
        (l.turn = some me ∨ l.turn = tr.lifecycle.turn) ∨
      l.turn = none ∨ l.turn = tr.lifecycle.turn ∧ point.inside = false) :
    Turns s (s.setLifecycle transfer l) me transfer point added where
  frames _ := rfl
  others _ elsewhere := turnOf_setLifecycle_ne elsewhere l
  own := own
  stays := by
    have before : s.turnOf transfer = tr.lifecycle.turn := by simp [turnOf, found]
    rw [turnOf_setLifecycle_self found, before]
    exact stays

theorem Turns.log {m : Session} (turns : Turns s m me transfer point added) (notices : List Notice) :
    Turns s (m.log me notices) me transfer point added where
  frames thread := (frames_log m me notices thread).trans (turns.frames thread)
  others := turns.others
  own := turns.own
  stays := turns.stays

theorem Sound.advance (sound : Sound s) (stack : s.frames me = .transition transfer point :: rest)
    (advanced : s.advance me rest (.transition transfer point) = some t) : Sound t := by
  obtain ⟨tr, found, followed⟩ := Option.bind_eq_some_iff.mp advanced
  obtain ⟨e, mode, acts, core, rfl⟩ := acts_of_followed followed
  have stays := stays_of_acts acts transfer
  rw [core] at stays
  have turns : Turns s (s.setLifecycle transfer _) me transfer point _ :=
    .of_setLifecycle found (guarded_of_acts acts transfer) (stays.imp_right Or.inl)
  exact sound.of_turns stack (turns.log _) mode

theorem Sound.resume {reply : Reply} (sound : Sound s)
    (stack : s.frames me = .transition transfer point :: rest)
    (resumed : s.resume me rest reply (.transition transfer point) = some t) : Sound t := by
  cases Option.some.inj resumed
  have turns : Turns s s me transfer point [.transition transfer (Transition.resume point)] := by
    refine ⟨fun _ => rfl, fun _ _ => rfl, .single _, ?_⟩
    cases inside : point.inside with
    | false => exact Or.inr (Or.inr ⟨rfl, rfl⟩)
    | true =>
      have still : (Transition.resume point).inside = true := by rw [Transition.Point.inside_resume, inside]
      exact Or.inl ⟨⟨_, still, List.mem_singleton_self _⟩, Or.inr rfl⟩
  exact sound.of_turns stack turns .running

theorem Sound.unwind {panic : String} (sound : Sound s)
    (stack : s.frames me = .transition transfer point :: rest) :
    Sound (s.unwind me rest panic (.transition transfer point)) := by
  simp only [Session.unwind]
  split
  case h_1 tr found =>
    have gone : (Transition.abandon tr.lifecycle point).turn = none ∨
        (Transition.abandon tr.lifecycle point).turn = tr.lifecycle.turn ∧ point.inside = false := by
      cases point with
      | enter goal => exact Or.inr ⟨rfl, rfl⟩
      | _ => exact Or.inl rfl
    have turns : Turns s (s.setLifecycle transfer _) me transfer point [] :=
      .of_setLifecycle found (.of_waits waits_nil) (Or.inr gone)
    exact sound.of_turns stack turns (.unwinding panic)
  case h_2 missing =>
    have free : s.turnOf transfer = none := by simp [turnOf, missing]
    have turns : Turns s s me transfer point [] :=
      ⟨fun _ => rfl, fun _ _ => rfl, .of_waits waits_nil, Or.inr (Or.inl free)⟩
    exact sound.of_turns stack turns (.unwinding panic)

theorem Sound.step (sound : Sound s) (stepped : s.step? me = some t) : Sound t := by
  unfold step? at stepped
  split at stepped
  case h_1 => cases stepped
  case h_2 thread there =>
    split at stepped
    case h_1 => cases stepped
    case h_2 a rest stacked =>
      have stack : s.frames me = a :: rest := by simp [frames, there, stacked]
      by_cases isTransition : ∃ transfer point, a = .transition transfer point
      · obtain ⟨transfer, point, rfl⟩ := isTransition
        split at stepped
        · exact sound.advance stack stepped
        · exact sound.resume stack stepped
        · cases Option.some.inj stepped
          exact sound.unwind stack
      · have other (transfer : Nat) (point : Transition.Point) : a ≠ .transition transfer point :=
          fun same => isTransition ⟨transfer, point, same⟩
        split at stepped
        · exact sound.of_lands stack other (lands_advance other stepped)
        · exact sound.of_lands stack other (lands_resume other stepped)
        · cases Option.some.inj stepped
          exact sound.of_lands stack other (lands_unwind other)

end

end TransferLifecycle.Session
