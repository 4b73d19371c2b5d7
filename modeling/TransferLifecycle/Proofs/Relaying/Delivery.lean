import TransferLifecycle.Proofs.Dispatch.Interleaving
import TransferLifecycle.Proofs.Relaying.Course

/-! Every step of a relay keeps to the course, whatever is added to the chains, removed from them or
borrowed meanwhile: the snapshots of the passes under way are held, so that they show what they have shown. -/
namespace TransferLifecycle

variable {α : Type}

private theorem ListenerList.leases_remove [BEq α] (l : ListenerList α) (x : α) : (l.remove x).2.leases = l.leases := by
  unfold remove
  split
  · exact l.leases_mutate _
  · rfl

namespace Relay

def view (s : Relay α) : View α := fun chain snapshot => (s.chains chain).view snapshot

def Frame.lease? : Frame → Option (Nat × Nat)
  | ⟨chain, .visit snapshot _⟩ => some (chain, snapshot.vector)
  | ⟨_, .start⟩ => none

/-- The vectors of which the passes under way hold snapshots. -/
def held (s : Relay α) : List (Nat × Nat) := s.stack.filterMap Frame.lease?

variable [DecidableEq α] {chains : Nat → ListenerList (Entry α)} {root : Nat} {event : Event} {s t : Relay α}

/-- A pass that is on record found what its chain held just then. -/
def Timely (chains : Nat → ListenerList (Entry α)) (history : List (Record α)) : Prop :=
  ∀ k chain entries, history[k]? = some (.entered chain entries) →
    entries = contentsAfter chains (history.take k) chain

structure Sound (chains : Nat → ListenerList (Entry α)) (root : Nat) (event : Event) (s : Relay α) : Prop where
  same : s.event = event
  leased : ∀ chain vector, (s.chains chain).leases.count vector =
    s.held.count (chain, vector) + (s.borrowed chain).count vector
  contents : ∀ chain, (s.chains chain).toList = contentsAfter chains s.history chain
  timely : Timely chains s.history
  stands : Stands event root s.view s.stack s.mode (seen s.history)

private theorem contentsAfter_append (chains : Nat → ListenerList (Entry α)) (history : List (Record α))
    (record : Record α) :
    contentsAfter chains (history ++ [record]) = record.change (contentsAfter chains history) := by
  simp [contentsAfter]

theorem Timely.append {history : List (Record α)} {record : Record α} (timely : Timely chains history)
    (now : ∀ chain entries, record = .entered chain entries →
      entries = contentsAfter chains history chain) : Timely chains (history ++ [record]) := by
  intro k chain entries found
  rw [List.getElem?_append] at found
  split at found
  case isTrue inside =>
    rw [List.take_append_of_le_length (Nat.le_of_lt inside)]
    exact timely k chain entries found
  case isFalse outside =>
    have last := (List.getElem?_eq_some_iff.mp found).1
    rw [List.length_singleton] at last
    have here : k = history.length := by omega
    subst here
    rw [Nat.sub_self, List.getElem?_cons_zero] at found
    rw [List.take_left]
    exact now chain entries (Option.some.inj found)

omit [DecidableEq α] in
private theorem seen_append (history : List (Record α)) (record : Record α) :
    seen (history ++ [record]) = seen history ++ if record.ofPass then [record] else [] := by
  cases ofPass : record.ofPass <;> simp [seen, ofPass]

omit [DecidableEq α] in
theorem chains_update (s : Relay α) (chain other : Nat) (list : ListenerList (Entry α)) :
    (s.update chain list).chains other = if other = chain then list else s.chains other :=
  Function.update_apply ..

omit [DecidableEq α] in
theorem view_update {chain : Nat} {list : ListenerList (Entry α)}
    (shows : ∀ snapshot, list.view snapshot = (s.chains chain).view snapshot) :
    (s.update chain list).view = s.view := by
  funext other snapshot
  rw [view, view, chains_update]
  split
  case isTrue same => rw [same, shows]
  case isFalse => rfl

private theorem Sound.held_of_mem (sound : Sound chains root event s) {chain index : Nat} {snapshot : Snapshot}
    (member : ⟨chain, .visit snapshot index⟩ ∈ s.stack) : (s.chains chain).Held snapshot := by
  have leased : (chain, snapshot.vector) ∈ s.held := List.mem_filterMap.mpr ⟨_, member, rfl⟩
  have counted := sound.leased chain snapshot.vector
  have positive := List.count_pos_iff.mpr leased
  exact List.count_pos_iff.mp (by omega)

/-- A change of a chain that keeps what held snapshots show is not seen by the passes. -/
theorem Sound.agrees (sound : Sound chains root event s) {chain : Nat} {list : ListenerList (Entry α)}
    (kept : ∀ snapshot, (s.chains chain).Held snapshot → list.view snapshot = (s.chains chain).view snapshot) :
    Agrees s.stack s.view (s.update chain list).view := by
  intro other snapshot index member
  rw [view, view, chains_update]
  split
  case isTrue same =>
    subst same
    exact kept snapshot (sound.held_of_mem member)
  case isFalse => rfl

theorem Sound.change (sound : Sound chains root event s) {chain : Nat} {list : ListenerList (Entry α)}
    {record : Record α} (keeps : (s.chains chain).Keeps list) (leases : list.leases = (s.chains chain).leases)
    (unseen : record.ofPass = false)
    (recorded : ∀ other, ((s.update chain list).chains other).toList =
      record.change (fun other => (s.chains other).toList) other) :
    Sound chains root event { s.update chain list with history := s.history ++ [record] } := by
  refine ⟨sound.same, ?leased, ?contents, ?timely, ?stands⟩
  case leased =>
    intro other vector
    have before := sound.leased other vector
    simp only [chains_update]
    split
    case isTrue same =>
      subst same
      rw [leases]
      exact before
    case isFalse => exact before
  case contents =>
    intro other
    rw [contentsAfter_append, ← funext sound.contents]
    exact recorded other
  case timely =>
    refine sound.timely.append fun chain entries same => ?_
    rw [same] at unseen
    cases unseen
  case stands =>
    rw [seen_append, unseen, if_neg Bool.false_ne_true, List.append_nil]
    exact sound.stands.keep (sound.agrees fun snapshot held => (keeps snapshot held).2)

private theorem Sound.lend (sound : Sound chains root event s) {chain : Nat} {list : ListenerList (Entry α)}
    {vectors : List Nat} (shows : ∀ snapshot, list.view snapshot = (s.chains chain).view snapshot)
    (same : list.toList = (s.chains chain).toList)
    (counted : ∀ vector, list.leases.count vector + (s.borrowed chain).count vector =
      (s.chains chain).leases.count vector + vectors.count vector) :
    Sound chains root event
      { s.update chain list with borrowed := Function.update s.borrowed chain vectors } := by
  refine ⟨sound.same, ?leased, ?contents, sound.timely, ?stands⟩
  case leased =>
    intro other vector
    have before := sound.leased other vector
    simp only [chains_update, Function.update_apply]
    split
    case isTrue same =>
      subst same
      have change := counted vector
      show list.leases.count vector = s.held.count _ + vectors.count vector
      omega
    case isFalse => exact before
  case contents =>
    intro other
    refine Eq.trans ?_ (sound.contents other)
    simp only [chains_update]
    split
    case isTrue here => rw [here, same]
    case isFalse => rfl
  case stands => exact sound.stands.keep (sound.agrees fun snapshot _ => shows snapshot)

theorem Sound.others (sound : Sound chains root event s) {action : Action α} (foreign : action.isOwn = false)
    (performed : s.perform? action = some t) : Sound chains root event t := by
  cases action with
  | move | finishCall => cases foreign
  | add chain entry =>
    cases Option.some.inj performed
    refine sound.change (ListenerList.keeps_mutate _ _) (ListenerList.leases_mutate _ _) rfl fun other => ?_
    rw [chains_update, Record.change, Function.update_apply]
    split
    case isTrue => exact ListenerList.toList_add _ _
    case isFalse => rfl
  | remove chain entry =>
    cases Option.some.inj performed
    refine sound.change (ListenerList.keeps_remove _ _) (ListenerList.leases_remove _ _) rfl fun other => ?_
    rw [chains_update, Record.change, Function.update_apply]
    split
    case isTrue => exact ListenerList.toList_remove _ _
    case isFalse => rfl
  | borrow chain =>
    cases Option.some.inj performed
    refine sound.lend (fun _ => rfl) rfl fun vector => ?_
    simp only [List.count_cons]
    omega
  | giveBack chain snapshot =>
    rw [perform?] at performed
    split at performed
    case isTrue borrowed =>
      cases Option.some.inj performed
      refine sound.lend (fun _ => rfl) rfl fun vector => ?_
      have counted := sound.leased chain snapshot.vector
      have positive := List.count_pos_iff.mpr borrowed
      simp only [ListenerList.release, List.count_erase]
      split
      case isTrue same =>
        rw [beq_iff_eq] at same
        subst same
        omega
      case isFalse => rfl
    case isFalse => cases performed

theorem Sound.enter (sound : Sound chains root event s) {chain : Nat} {rest : List Frame}
    (running : s.mode = .running) (top : s.stack = ⟨chain, .start⟩ :: rest) :
    Sound chains root event
      { s.update chain (s.chains chain).snapshot.2 with
          stack := ⟨chain, .visit (s.chains chain).snapshot.1 0⟩ :: rest
          history := s.history ++ [.entered chain (s.chains chain).toList] } := by
  have stands := sound.stands
  rw [running, top] at stands
  refine ⟨sound.same, ?leased, ?contents, ?timely, ?stands⟩
  case leased =>
    intro other vector
    have before := sound.leased other vector
    rw [held, top, List.filterMap_cons_none rfl] at before
    simp only [chains_update, held, List.filterMap_cons, Frame.lease?, List.count_cons]
    split
    case isTrue same =>
      subst same
      simp only [ListenerList.snapshot, List.count_cons, beq_iff_eq, Prod.mk.injEq, true_and]
      show _ = _ + (s.borrowed other).count vector
      omega
    case isFalse other_chain =>
      have apart : ((chain, (s.chains chain).snapshot.1.vector) == (other, vector)) = false := by
        simp [Ne.symm other_chain]
      rw [apart]
      exact before
  case contents =>
    intro other
    rw [contentsAfter_append, Record.change]
    refine Eq.trans ?_ (sound.contents other)
    simp only [chains_update]
    split
    case isTrue here => rw [here, ListenerList.toList_snapshot]
    case isFalse => rfl
  case timely =>
    refine sound.timely.append fun other entries same => ?_
    cases same
    exact sound.contents chain
  case stands =>
    have shows : (s.update chain (s.chains chain).snapshot.2).view = s.view := view_update fun _ => rfl
    show Stands event root (s.update chain (s.chains chain).snapshot.2).view _ s.mode _
    rw [seen_append, shows, running]
    generalize seen s.history = trace at stands ⊢
    cases stands with
    | reached waits => exact .running waits .entered

theorem Sound.leave (sound : Sound chains root event s) {chain index : Nat} {snapshot : Snapshot}
    {rest : List Frame} (running : s.mode = .running) (top : s.stack = ⟨chain, .visit snapshot index⟩ :: rest)
    (exhausted : ((s.chains chain).view snapshot)[index]? = none) :
    Sound chains root event
      { s.update chain ((s.chains chain).release snapshot) with stack := rest, mode := .returned } := by
  have stands := sound.stands
  rw [running, top] at stands
  refine ⟨sound.same, ?leased, ?contents, sound.timely, ?stands⟩
  case leased =>
    intro other vector
    have before := sound.leased other vector
    simp only [held, top, List.filterMap_cons, Frame.lease?, List.count_cons] at before
    simp only [chains_update, held]
    split
    case isTrue same =>
      subst same
      show ((s.chains other).leases.erase snapshot.vector).count vector =
        _ + (s.borrowed other).count vector
      rw [List.count_erase, before]
      simp only [beq_iff_eq, Prod.mk.injEq, true_and]
      omega
    case isFalse other_chain =>
      have apart : ((chain, snapshot.vector) == (other, vector)) = false := by
        simp [Ne.symm other_chain]
      rw [apart] at before
      exact before
  case contents =>
    intro other
    refine Eq.trans ?_ (sound.contents other)
    simp only [chains_update]
    split
    case isTrue here => rw [here, ListenerList.toList_release]
    case isFalse => rfl
  case stands =>
    have shows : (s.update chain ((s.chains chain).release snapshot)).view = s.view :=
      view_update fun _ => rfl
    show Stands event root (s.update chain ((s.chains chain).release snapshot)).view rest .returned
      (seen s.history)
    rw [shows]
    generalize seen s.history = trace at stands ⊢
    cases stands with
    | running waits relays =>
      have whole := Nat.le_antisymm relays.index_le (List.getElem?_eq_none_iff.mp exhausted)
      rw [whole] at relays
      exact waits.leave relays

theorem Sound.bring (sound : Sound chains root event s) {chain index : Nat} {snapshot : Snapshot}
    {rest : List Frame} {entry : Entry α} (running : s.mode = .running)
    (top : s.stack = ⟨chain, .visit snapshot index⟩ :: rest)
    (here : ((s.chains chain).view snapshot)[index]? = some entry) :
    Sound chains root event (s.bring (⟨chain, .visit snapshot (index + 1)⟩ :: rest) entry) := by
  have stands := sound.stands
  have leased := sound.leased
  rw [running, top] at stands
  rw [held, top] at leased
  have same : s.event = event := sound.same
  generalize recorded : seen s.history = trace at stands
  cases stands with
  | running waits relays => cases entry with
    | listener listener | coded listener =>
      refine ⟨same, leased, ?_, ?_, ?_⟩
      · intro other
        rw [Relay.bring, contentsAfter_append, Record.change]
        exact sound.contents other
      · exact sound.timely.append fun _ _ same => by cases same
      · rw [Relay.bring, seen_append, recorded, same, List.append_assoc]
        exact .calling waits relays here (by constructor)
    | chain inner =>
      refine ⟨same, leased, sound.contents, sound.timely, ?_⟩
      rw [Relay.bring, running, recorded]
      exact .reached (.within waits relays here)

theorem Sound.contain (sound : Sound chains root event s) {chain : Nat} {point : Pass.Point}
    {rest : List Frame} (unwinding : s.mode = .unwinding) (top : s.stack = ⟨chain, point⟩ :: rest) :
    Sound chains root event
      { s with mode := .running
               history := s.history ++ [.warned chain (.listenerPanicked point.last s.event.kind)] } := by
  have stands := sound.stands
  rw [unwinding, top] at stands
  refine ⟨sound.same, sound.leased, ?contents, ?timely, ?stands⟩
  case contents =>
    intro other
    rw [contentsAfter_append, Record.change]
    exact sound.contents other
  case timely => exact sound.timely.append fun _ _ same => by cases same
  case stands =>
    rw [seen_append, top, sound.same]
    generalize seen s.history = trace at stands ⊢
    cases stands with
    | unwinding waits relays here shows =>
      rw [List.append_assoc, List.append_assoc]
      exact .running waits (.panicked relays here shows)

theorem Sound.finishCall (sound : Sound chains root event s) (panicked : Bool) (mode : Mode)
    (stands : Stands event root s.view s.stack mode (seen s.history ++ [.ended panicked])) :
    Sound chains root event { s with mode := mode, history := s.history ++ [.ended panicked] } := by
  refine ⟨sound.same, sound.leased, fun other => ?contents, ?timely, ?stands⟩
  case contents =>
    rw [contentsAfter_append, Record.change]
    exact sound.contents other
  case timely => exact sound.timely.append fun _ _ same => by cases same
  case stands =>
    rw [seen_append]
    exact stands

theorem Sound.own (sound : Sound chains root event s) {action : Action α} (moves : Moves s action t) :
    Sound chains root event t := by
  cases moves with
  | enter running top => exact sound.enter running top
  | bring running top here => exact sound.bring running top here
  | leave running top exhausted => exact sound.leave running top exhausted
  | contain unwinding top => exact sound.contain unwinding top
  | goOn returned top =>
    have stands := sound.stands
    rw [returned] at stands
    exact ⟨sound.same, sound.leased, sound.contents, sound.timely, stands.goOn top⟩
  | finish calling =>
    have stands := sound.stands
    rw [calling] at stands
    exact sound.finishCall false .returned stands.finish
  | panic calling =>
    have stands := sound.stands
    rw [calling] at stands
    exact sound.finishCall true .unwinding stands.panic

theorem Sound.next (sound : Sound chains root event s) {action : Action α}
    (performed : s.perform? action = some t) : Sound chains root event t := by
  cases own : action.isOwn with
  | true => exact sound.own (moves_of_own own performed)
  | false => exact sound.others own performed

theorem Sound.begin (chains : Nat → ListenerList (Entry α)) (root : Nat) (event : Event) :
    Sound chains root event (Relay.begin chains root event) where
  same := rfl
  leased _ _ := (Nat.zero_add _).symm
  contents chain := rfl
  timely k chain entries found := by simp [Relay.begin] at found
  stands := .reached .first

theorem Sound.run (sound : Sound chains root event s) {actions : List (Action α)}
    (ran : s.run? actions = some t) : Sound chains root event t := by
  induction actions generalizing s with
  | nil =>
    cases Option.some.inj ran
    exact sound
  | cons action rest ih =>
    obtain ⟨middle, performed, ran⟩ := Option.bind_eq_some_iff.mp ran
    exact ih (sound.next performed) ran

theorem Sound.contained (sound : Sound chains root event s) : ¬ s.Escapes := by
  rintro ⟨bottom, unwinding⟩
  have stands := sound.stands
  rw [bottom, unwinding] at stands
  generalize seen s.history = trace at stands
  cases stands

/-- When the event has been through, all has been recorded that the first pass records. -/
theorem Sound.whole (sound : Sound chains root event s) (done : s.IsOver) :
    ∃ entries, Relays event root entries entries.length (seen s.history) := by
  have stands := sound.stands
  rw [done.1, done.2] at stands
  generalize seen s.history = trace at stands ⊢
  cases stands with
  | finished relays => exact ⟨_, relays⟩

theorem Sound.proceeds (sound : Sound chains root event s) (under : ¬ s.IsOver) :
    ∃ action t, action.isOwn = true ∧ s.perform? action = some t := by
  have stands := sound.stands
  generalize seen s.history = trace at stands
  generalize stacked : s.stack = stack at stands
  generalize moded : s.mode = mode at stands
  cases stands with
  | reached waits => exact ⟨.move, _, rfl, by rw [perform?, move?, moded, stacked]; rfl⟩
  | @running chain snapshot index rest before trace waits relays =>
    cases entry : ((s.chains chain).view snapshot)[index]? with
    | some found => exact ⟨.move, _, rfl, by simp [perform?, move?, moded, stacked, Pass.step, entry]; rfl⟩
    | none => exact ⟨.move, _, rfl, by simp [perform?, move?, moded, stacked, Pass.step, entry]; rfl⟩
  | returned waits relays | unwinding waits relays here shows =>
    exact ⟨.move, _, rfl, by rw [perform?, move?, moded, stacked]⟩
  | calling waits relays here shows =>
    exact ⟨.finishCall false, _, rfl, by rw [perform?, if_pos moded]⟩
  | finished relays => exact absurd ⟨stacked, moded⟩ under

omit [DecidableEq α] in
/-- Only the end of a call is recorded as one, and only a panic is warned of, once. -/
theorem recorded_own {action : Action α} (moves : Moves s action t) :
    ∃ news, t.history = s.history ++ news ∧ news.filterMap Record.ended? = action.ended?.toList ∧
      news.countP Record.warns + t.mode.owed = s.mode.owed + action.ended?.toList.count true := by
  cases moves with
  | enter running top => exact ⟨_, rfl, rfl, by simp [Record.warns, Action.ended?, update]⟩
  | @bring _ _ _ _ entry running top here =>
    cases entry with
    | listener | coded => exact ⟨_, rfl, rfl, by simp [Relay.bring, Record.warns, Action.ended?, Mode.owed, running]⟩
    | chain => exact ⟨[], (List.append_nil _).symm, rfl, by simp [Relay.bring, Action.ended?]⟩
  | leave running top exhausted =>
    exact ⟨[], (List.append_nil _).symm, rfl, by simp [Action.ended?, Mode.owed, running]⟩
  | goOn returned top => exact ⟨[], (List.append_nil _).symm, rfl, by simp [Action.ended?, Mode.owed, returned]⟩
  | contain unwinding top =>
    exact ⟨_, rfl, rfl, by simp [Record.warns, Action.ended?, Mode.owed, unwinding]⟩
  | finish calling | panic calling =>
    exact ⟨_, rfl, rfl, by simp [Record.warns, Action.ended?, Mode.owed, calling]⟩

private theorem recorded_next {action : Action α} (performed : s.perform? action = some t) :
    ∃ news, t.history = s.history ++ news ∧ news.filterMap Record.ended? = action.ended?.toList ∧
      news.countP Record.warns + t.mode.owed = s.mode.owed + action.ended?.toList.count true := by
  cases action with
  | move | finishCall => exact recorded_own (moves_of_own rfl performed)
  | add | remove =>
    cases Option.some.inj performed
    exact ⟨_, rfl, rfl, by simp [Record.warns, Action.ended?, update]⟩
  | borrow =>
    cases Option.some.inj performed
    exact ⟨[], (List.append_nil _).symm, rfl, by simp [Action.ended?, update]⟩
  | giveBack =>
    obtain ⟨-, same⟩ := Option.ite_none_right_eq_some.mp performed
    cases Option.some.inj same
    exact ⟨[], (List.append_nil _).symm, rfl, by simp [Action.ended?, update]⟩

theorem recorded_run {actions : List (Action α)} (ran : s.run? actions = some t) :
    ∃ news, t.history = s.history ++ news ∧ news.filterMap Record.ended? = actions.filterMap Action.ended? ∧
      news.countP Record.warns + t.mode.owed = s.mode.owed + (actions.filterMap Action.ended?).count true := by
  induction actions generalizing s with
  | nil =>
    cases Option.some.inj ran
    exact ⟨[], (List.append_nil _).symm, rfl, by simp⟩
  | cons action rest ih =>
    obtain ⟨middle, performed, ran⟩ := Option.bind_eq_some_iff.mp ran
    obtain ⟨first, grows, ended, warned⟩ := recorded_next performed
    obtain ⟨later, grown, others, counted⟩ := ih ran
    have split : (action :: rest).filterMap Action.ended? =
        action.ended?.toList ++ rest.filterMap Action.ended? := by
      cases here : action.ended? <;> simp [here]
    refine ⟨first ++ later, by rw [grown, grows, List.append_assoc], ?_, ?_⟩
    · rw [List.filterMap_append, ended, others, split]
    · rw [List.countP_append, split, List.count_append]
      omega

end Relay

end TransferLifecycle
