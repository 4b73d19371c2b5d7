import Mathlib.Logic.Hydra
import TransferLifecycle.Proofs.Relaying.Delivery

/-! An event gets through chains of which the nesting has an end. What the thread has still to do is a
multiset of tasks. One step of the thread puts finitely many lighter tasks in the place of one, and others
change the multiset not at all: an entry of a chain that has been reached is fixed by a snapshot. -/
namespace TransferLifecycle.Relay

open Relation (CutExpand)

variable {α : Type}

/-- A chain holds only chains of a lower rank. -/
def Ranked (rank : Nat → Nat) (chain : Nat) (entry : Entry α) : Prop :=
  ∀ inner, entry = .chain inner → rank inner < rank chain

def Action.Respects (rank : Nat → Nat) : Action α → Prop
  | .add chain entry => Ranked rank chain entry
  | .move | .finishCall _ | .remove _ _ | .borrow _ | .giveBack _ _ => True

def Entry.weight (rank : Nat → Nat) : Entry α → Nat
  | .chain id => 4 * rank id + 5
  | .listener _ | .coded _ => 3

def Frame.tasks (rank : Nat → Nat) (view : View α) : Frame → Multiset Nat
  | ⟨chain, .start⟩ => {4 * rank chain + 4}
  | ⟨chain, .visit snapshot index⟩ => ↑(((view chain snapshot).drop index).map (Entry.weight rank)) + {2}

def Mode.tasks : Mode → Multiset Nat
  | .running => 0
  | .calling => {2}
  | .returned | .unwinding => {1}

/-- What is left to do, by how much it can entail. -/
def tasks (rank : Nat → Nat) (view : View α) (stack : List Frame) (mode : Mode) : Multiset Nat :=
  (stack.map (Frame.tasks rank view)).sum + mode.tasks

def agenda (rank : Nat → Nat) (s : Relay α) : Multiset Nat := tasks rank s.view s.stack s.mode

theorem cut {n : Nat} {lighter rest : Multiset Nat} (light : ∀ task ∈ lighter, task < n) :
    CutExpand (· < ·) (lighter + rest) ({n} + rest) := by
  refine ⟨lighter, n, light, ?_⟩
  ac_rfl

variable {rank : Nat → Nat} {view later : View α}

private theorem tasks_congr {stack : List Frame} (mode : Mode) (agrees : Agrees stack view later) :
    tasks rank later stack mode = tasks rank view stack mode := by
  have same : stack.map (Frame.tasks rank later) = stack.map (Frame.tasks rank view) := by
    apply List.map_congr_left
    intro frame member
    obtain ⟨chain, point⟩ := frame
    cases point with
    | start => rfl
    | visit snapshot index => rw [Frame.tasks, Frame.tasks, agrees chain snapshot index member]
  rw [tasks, tasks, same]

private theorem tasks_cons (frame : Frame) (rest : List Frame) (mode : Mode) :
    tasks rank view (frame :: rest) mode = frame.tasks rank view + tasks rank view rest mode := by
  rw [tasks, tasks, List.map_cons, List.sum_cons, add_assoc]

private theorem tasks_mode (stack : List Frame) (mode : Mode) :
    tasks rank view stack mode = mode.tasks + tasks rank view stack .running := by
  rw [tasks, tasks, add_comm mode.tasks, Mode.tasks, add_zero]

private theorem tasks_visit {chain index : Nat} {snapshot : Snapshot} {entry : Entry α}
    (here : (view chain snapshot)[index]? = some entry) :
    Frame.tasks rank view ⟨chain, .visit snapshot index⟩ =
      {entry.weight rank} + Frame.tasks rank view ⟨chain, .visit snapshot (index + 1)⟩ := by
  obtain ⟨inside, found⟩ := List.getElem?_eq_some_iff.mp here
  rw [Frame.tasks, Frame.tasks, List.drop_eq_getElem_cons inside, found, List.map_cons, ← Multiset.cons_coe,
    ← Multiset.singleton_add, add_assoc]

private theorem weight_lt {chain : Nat} {entry : Entry α} (ranked : Ranked rank chain entry) :
    entry.weight rank < 4 * rank chain + 4 := by
  cases entry with
  | listener | coded => rw [Entry.weight]; omega
  | chain inner =>
    have lower := ranked inner rfl
    rw [Entry.weight]
    omega

variable [DecidableEq α] {chains : Nat → ListenerList (Entry α)} {root : Nat} {event : Event} {s t : Relay α}

def Layered (rank : Nat → Nat) (s : Relay α) : Prop :=
  ∀ chain, ∀ entry ∈ (s.chains chain).toList, Ranked rank chain entry

omit [DecidableEq α] in
private theorem mem_update (s : Relay α) (changed : Nat) (list : ListenerList (Entry α)) {chain : Nat}
    {entry : Entry α} (member : entry ∈ ((s.update changed list).chains chain).toList) :
    chain = changed ∧ entry ∈ list.toList ∨ entry ∈ (s.chains chain).toList := by
  rw [chains_update] at member
  split at member
  case isTrue same => exact Or.inl ⟨same, member⟩
  case isFalse => exact Or.inr member

omit [DecidableEq α] in
private theorem mem_own {action : Action α} (moves : Moves s action t) {chain : Nat} {entry : Entry α}
    (member : entry ∈ (t.chains chain).toList) : entry ∈ (s.chains chain).toList := by
  cases moves with
  | @enter top =>
    obtain ⟨rfl, old⟩ | old := mem_update s top (s.chains top).snapshot.2 member
    · exact old
    · exact old
  | @leave top snapshot =>
    obtain ⟨rfl, old⟩ | old := mem_update s top ((s.chains top).release snapshot) member
    · exact old
    · exact old
  | @bring top snapshot index rest brought => cases brought <;> exact member
  | goOn | contain | finish | panic => exact member

private theorem mem_next {action : Action α} (performed : s.perform? action = some t) {chain : Nat}
    {entry : Entry α} (member : entry ∈ (t.chains chain).toList) :
    entry ∈ (s.chains chain).toList ∨ action = .add chain entry := by
  cases action with
  | move | finishCall => exact Or.inl (mem_own (moves_of_own rfl performed) member)
  | add changed new =>
    cases Option.some.inj performed
    obtain ⟨rfl, here⟩ | old := mem_update s changed ((s.chains changed).add new) member
    · rw [ListenerList.toList_add, List.mem_append, List.mem_singleton] at here
      obtain old | rfl := here
      · exact Or.inl old
      · exact Or.inr rfl
    · exact Or.inl old
  | remove changed gone =>
    cases Option.some.inj performed
    obtain ⟨rfl, here⟩ | old := mem_update s changed ((s.chains changed).remove gone).2 member
    · rw [ListenerList.toList_remove] at here
      exact Or.inl (List.mem_of_mem_erase here)
    · exact Or.inl old
  | borrow changed =>
    cases Option.some.inj performed
    obtain ⟨rfl, old⟩ | old := mem_update s changed (s.chains changed).snapshot.2 member
    · exact Or.inl old
    · exact Or.inl old
  | giveBack changed snapshot =>
    rw [perform?] at performed
    split at performed
    case isTrue =>
      cases Option.some.inj performed
      obtain ⟨rfl, old⟩ | old := mem_update s changed ((s.chains changed).release snapshot) member
      · exact Or.inl old
      · exact Or.inl old
    case isFalse => cases performed

theorem Layered.next (layered : Layered rank s) {action : Action α} (respects : action.Respects rank)
    (performed : s.perform? action = some t) : Layered rank t := by
  intro chain entry member
  obtain old | rfl := mem_next performed member
  · exact layered chain entry old
  · exact respects

omit [DecidableEq α] in
private theorem cut_mode {mode next : Mode} {n : Nat} (task : mode.tasks = {n}) (light : ∀ m ∈ next.tasks, m < n)
    (view : View α) (stack : List Frame) :
    CutExpand (· < ·) (tasks rank view stack next) (tasks rank view stack mode) := by
  rw [tasks_mode stack next, tasks_mode stack mode, task]
  exact cut light

omit [DecidableEq α] in
/-- A step of the thread puts lighter tasks in the place of one. -/
theorem agenda_own (layered : Layered rank s) {action : Action α} (moves : Moves s action t) :
    CutExpand (· < ·) (agenda rank t) (agenda rank s) := by
  cases moves with
  | @enter chain rest running top =>
    have shows : (s.update chain (s.chains chain).snapshot.2).view = s.view := view_update fun _ => rfl
    show CutExpand _ (tasks rank (s.update chain (s.chains chain).snapshot.2).view _ s.mode) _
    rw [agenda, shows, top, running, tasks_cons, tasks_cons]
    refine cut fun task member => ?_
    rw [Frame.tasks, List.drop_zero, Multiset.mem_add, Multiset.mem_coe, List.mem_map,
      Multiset.mem_singleton] at member
    obtain ⟨entry, present, rfl⟩ | rfl := member
    · exact weight_lt (layered chain entry present)
    · omega
  | @bring chain snapshot index rest entry running top here =>
    have before : agenda rank s =
        {entry.weight rank} + tasks rank s.view (⟨chain, .visit snapshot (index + 1)⟩ :: rest) .running := by
      have visited : (s.view chain snapshot)[index]? = some entry := here
      rw [agenda, top, running, tasks_cons, tasks_cons, tasks_visit visited, add_assoc]
    rw [before]
    cases entry with
    | listener | coded =>
      show CutExpand _ (tasks rank s.view (⟨chain, .visit snapshot (index + 1)⟩ :: rest) .calling) _
      rw [tasks_mode _ .calling]
      exact cut (by simp [Mode.tasks, Entry.weight])
    | chain inner =>
      show CutExpand _ (tasks rank s.view (⟨inner, .start⟩ :: ⟨chain, .visit snapshot (index + 1)⟩ :: rest)
        s.mode) _
      rw [running, tasks_cons ⟨inner, .start⟩]
      exact cut (by simp [Frame.tasks, Entry.weight])
  | @leave chain snapshot index rest running top exhausted =>
    have shows : (s.update chain ((s.chains chain).release snapshot)).view = s.view :=
      view_update fun _ => rfl
    have through : Frame.tasks rank s.view ⟨chain, .visit snapshot index⟩ = {2} := by
      have none : (s.view chain snapshot).drop index = [] :=
        List.drop_eq_nil_of_le (List.getElem?_eq_none_iff.mp exhausted)
      rw [Frame.tasks, none, List.map_nil, Multiset.coe_nil, zero_add]
    show CutExpand _ (tasks rank (s.update chain ((s.chains chain).release snapshot)).view rest .returned) _
    rw [agenda, shows, top, running, tasks_cons, through, tasks_mode rest .returned]
    exact cut (by simp [Mode.tasks])
  | goOn returned | contain returned =>
    rw [agenda, agenda, returned]
    exact cut_mode rfl (by simp [Mode.tasks]) _ _
  | finish calling | panic calling =>
    rw [agenda, agenda, calling]
    exact cut_mode rfl (by simp [Mode.tasks]) _ _

private theorem agenda_others (sound : Sound chains root event s) {action : Action α} (foreign : action.isOwn = false)
    (performed : s.perform? action = some t) : agenda rank t = agenda rank s := by
  cases action with
  | move | finishCall => cases foreign
  | add chain entry =>
    cases Option.some.inj performed
    exact tasks_congr s.mode (sound.agrees fun snapshot held => ListenerList.view_mutate _ _ held)
  | remove chain entry =>
    cases Option.some.inj performed
    exact tasks_congr s.mode (sound.agrees fun snapshot held => (ListenerList.keeps_remove _ _ snapshot held).2)
  | borrow chain =>
    cases Option.some.inj performed
    exact tasks_congr s.mode (sound.agrees fun _ _ => rfl)
  | giveBack chain snapshot =>
    rw [perform?] at performed
    split at performed
    case isTrue =>
      cases Option.some.inj performed
      exact tasks_congr s.mode (sound.agrees fun _ _ => rfl)
    case isFalse => cases performed

/-- An endless course of a relay and of whatever happens beside it, in which every listener that is called
comes to an end and the thread is not kept from going on. -/
structure Lasting (rank : Nat → Nat) (s : Relay α) (states : Nat → Relay α) (actions : Nat → Action α) :
    Prop where
  first : states 0 = s
  steps : ∀ n, (states n).perform? (actions n) = some (states (n + 1))
  respects : ∀ n, (actions n).Respects rank
  fair : ∀ n, ¬ (states n).IsOver → ∃ m, n ≤ m ∧ (actions m).isOwn = true

variable {states : Nat → Relay α} {actions : Nat → Action α}

theorem Lasting.sound (lasting : Lasting rank s states actions) (sound : Sound chains root event s) (n : Nat) :
    Sound chains root event (states n) := by
  induction n with
  | zero => exact lasting.first ▸ sound
  | succ n ih => exact ih.next (lasting.steps n)

theorem Lasting.layered (lasting : Lasting rank s states actions) (layered : Layered rank s) (n : Nat) :
    Layered rank (states n) := by
  induction n with
  | zero => exact lasting.first ▸ layered
  | succ n ih => exact ih.next (lasting.respects n) (lasting.steps n)

/-- Where the nesting of the chains has an end, the event gets through. -/
theorem Lasting.ends (lasting : Lasting rank s states actions) (sound : Sound chains root event s)
    (layered : Layered rank s) : ∃ n, (states n).IsOver := by
  -- By induction on the agenda; within it, on how far off the next step of the thread is.
  have lighter : WellFounded (CutExpand fun (m n : Nat) => m < n) := wellFounded_lt.cutExpand
  suffices from_any : ∀ tasks n, agenda rank (states n) = tasks → ∃ n, (states n).IsOver from
    from_any _ 0 rfl
  intro tasks
  induction tasks using lighter.induction with
  | _ tasks ih =>
    intro n left
    by_cases done : (states n).IsOver
    · exact ⟨n, done⟩
    obtain ⟨m, later, own⟩ := lasting.fair n done
    obtain ⟨distance, rfl⟩ := Nat.exists_eq_add_of_le later
    clear done later
    induction distance generalizing n with
    | zero =>
      have less := agenda_own (lasting.layered layered n) (moves_of_own own (lasting.steps n))
      exact ih _ (left ▸ less) (n + 1) rfl
    | succ distance ih_distance =>
      cases now : (actions n).isOwn with
      | true =>
        have less := agenda_own (lasting.layered layered n) (moves_of_own now (lasting.steps n))
        exact ih _ (left ▸ less) (n + 1) rfl
      | false =>
        have kept : agenda rank (states (n + 1)) = agenda rank (states n) :=
          agenda_others (lasting.sound sound n) now (lasting.steps n)
        exact ih_distance (n + 1) (kept.trans left) (by rwa [Nat.add_assoc, Nat.add_comm 1])

/-- What has come of an event up to some moment, whatever the listeners and others have done. -/
structure Kept (chains : Nat → ListenerList (Entry α)) (root : Nat) (event : Event)
    (actions : List (Action α)) (s : Relay α) : Prop where
  contained : ¬ s.Escapes
  contents : ∀ chain, (s.chains chain).toList = contentsAfter chains s.history chain
  timely : Timely chains s.history
  course : Relaying event root (seen s.history)
  proceeds : ¬ s.IsOver → ∃ action t, action.isOwn = true ∧ s.perform? action = some t
  whole : s.IsOver → ∃ entries, Relays event root entries entries.length (seen s.history)
  /-- The calls have ended as the listeners made them end, and there is one warning for each panic. -/
  ended : s.history.filterMap Record.ended? = actions.filterMap Action.ended?
  warned : s.history.countP Record.warns + s.mode.owed = (actions.filterMap Action.ended?).count true

/-- What becomes of an event that is brought to a chain. -/
structure Relayed (chains : Nat → ListenerList (Entry α)) (root : Nat) (event : Event) : Prop where
  kept : ∀ actions s, (begin chains root event).run? actions = some s → Kept chains root event actions s
  ends : ∀ rank states actions, Layered rank (begin chains root event) →
    Lasting rank (begin chains root event) states actions → ∃ n, (states n).IsOver

/-- An event goes through nested chains in order and misses no entry, and no panic stops it. -/
theorem relayed (chains : Nat → ListenerList (Entry α)) (root : Nat) (event : Event) :
    Relayed chains root event where
  kept actions s ran := by
    have sound : Sound chains root event s := (Sound.begin chains root event).run ran
    obtain ⟨news, grown, ended, warned⟩ := recorded_run ran
    have all : s.history = news := grown
    rw [← all] at ended warned
    exact ⟨sound.contained, sound.contents, sound.timely, sound.stands.relaying, sound.proceeds, sound.whole,
      ended, warned.trans (Nat.zero_add _)⟩
  ends rank states actions layered lasting := lasting.ends (Sound.begin chains root event) layered

/-- A chain with another one in it, and an adapter. -/
def nesting : Nat → ListenerList (Entry Nat)
  | 0 => ({} : ListenerList (Entry Nat)).add (.chain 1) |>.add (.coded 8)
  | 1 => ({} : ListenerList (Entry Nat)).add (.listener 7) |>.add (.listener 9)
  | _ => {}

/-- A listener of the inner chain removes itself, adds another to the outer chain and panics. The last one
panics as well. -/
def unseating : List (Action Nat) :=
  List.replicate 4 .move ++ [.remove 1 (.listener 7), .add 0 (.listener 6), .finishCall true] ++
    List.replicate 2 .move ++ [.finishCall false] ++ List.replicate 4 .move ++ [.finishCall true] ++
    List.replicate 2 .move

theorem relayed_unseating : ∃ s, (begin nesting 0 ⟨.reset, 5⟩).run? unseating = some s ∧ s.IsOver ∧
    s.history = [.entered 0 [.chain 1, .coded 8], .entered 1 [.listener 7, .listener 9],
      .called 7 (.event ⟨.reset, 5⟩), .removed 1 (.listener 7), .added 0 (.listener 6), .ended true,
      .warned 1 (.listenerPanicked 0 .reset), .called 9 (.event ⟨.reset, 5⟩), .ended false,
      .called 8 (.coded ⟨16, 5⟩), .ended true, .warned 0 (.listenerPanicked 1 .reset)] ∧
    Kept nesting 0 ⟨.reset, 5⟩ unseating s :=
  ⟨_, rfl, ⟨rfl, rfl⟩, rfl, (relayed nesting 0 ⟨.reset, 5⟩).kept unseating _ rfl⟩

end TransferLifecycle.Relay
