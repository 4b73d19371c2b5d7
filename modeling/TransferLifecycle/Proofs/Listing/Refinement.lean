import TransferLifecycle.Proofs.Listing.Sharing

/-! A shared list answers as a plain one would. The plain list has every change made to it, one after another
at the moment at which the change takes effect; whatever the shared list answers at some moment, the plain one
answers at that moment too, and what a snapshot shows is the plain list as it was when the snapshot was taken. -/
namespace TransferLifecycle.Listing

variable {α : Type} [BEq α]

def Deed.edit (entries : List α) : Deed α → List α
  | .changed change _ => change.edit entries
  | _ => entries

def entriesAfter (history : List (Nat × Deed α)) : List α :=
  history.foldl (fun entries told => told.2.edit entries) []

def Deed.Agrees (entries : List α) : Deed α → Prop
  | .changed change found => found = change.finds entries ∧ (found = false → change.edit entries = entries)
  | .length n => n = entries.length
  | .isEmpty b => b = true ↔ entries = []
  | .debug text => text = "ListenerList \x7b len: " ++ toString entries.length ++ " \x7d"
  | .took seen => seen = entries
  | .answered _ | .shown _ | .called _ | .through => True

def Deed.adds (x : α) : Deed α → Bool
  | .changed (.add y) _ => y == x
  | _ => false

def Deed.removes (x : α) : Deed α → Bool
  | .changed (.remove y) found => found && y == x
  | _ => false

def Deed.called? : Deed α → Option α
  | .called listener => some listener
  | _ => none

private theorem entriesAfter_append (history news : List (Nat × Deed α)) :
    entriesAfter (history ++ news) = news.foldl (fun entries told => told.2.edit entries) (entriesAfter history) := by
  rw [entriesAfter, List.foldl_append]
  rfl

section

variable [LawfulBEq α]

private theorem Change.edit_of_missing {change : Change α} {entries : List α}
    (missing : change.finds entries = false) : change.edit entries = entries := by
  cases change with
  | add => cases missing
  | remove x => exact List.erase_of_not_mem (by simpa [finds] using missing)

private theorem Deed.count_edit {deed : Deed α} {entries : List α} (agrees : deed.Agrees entries) (x : α) :
    (deed.edit entries).count x + (deed.removes x).toNat = entries.count x + (deed.adds x).toNat := by
  cases deed with
  | changed change found =>
    obtain ⟨rfl, -⟩ := agrees
    cases change with
    | add y =>
      cases same : y == x <;> simp [edit, Change.edit, adds, removes, List.count_cons, same]
    | remove y =>
      by_cases present : y ∈ entries
      · by_cases same : y = x
        · subst same
          have some : 0 < entries.count y := List.count_pos_iff.mpr present
          simp [edit, Change.edit, Change.finds, adds, removes, present, Nat.sub_add_cancel some]
        · simp [edit, Change.edit, adds, removes, same, List.count_erase_of_ne (Ne.symm same)]
      · simp [edit, Change.edit, Change.finds, adds, removes, present, List.erase_of_not_mem present]
  | _ => rfl

/-- A listener is in the list as often as it was registered, less the removals that found it. -/
theorem count_entriesAfter {history : List (Nat × Deed α)}
    (agrees : ∀ (k place : Nat) (deed : Deed α), history[k]? = some (place, deed) →
      deed.Agrees (entriesAfter (history.take k)))
    (k : Nat) (x : α) :
    (entriesAfter (history.take k)).count x + (history.take k).countP (·.2.removes x) =
      (history.take k).countP (·.2.adds x) := by
  induction k with
  | zero => rfl
  | succ k ih =>
    cases told : history[k]? with
    | none => simpa [List.take_add_one, told] using ih
    | some entry =>
      have edited := Deed.count_edit (agrees k entry.1 entry.2 told) x
      rw [List.take_add_one, told, Option.toList_some, entriesAfter_append, List.countP_append,
        List.countP_append, List.countP_singleton, List.countP_singleton]
      simp only [List.foldl_cons, List.foldl_nil]
      cases removed : entry.2.removes x <;> cases added : entry.2.adds x <;>
        simp_all only [Bool.toNat_true, Bool.toNat_false, if_true, if_false, Bool.false_eq_true] <;> omega

omit [LawfulBEq α] in
theorem Question.agrees (l : ListenerList α) (question : Question) : (question.answer l).Agrees l.toList := by
  cases question with
  | length | debug => rfl
  | isEmpty => exact List.isEmpty_iff

variable {me : Nat} {c : Core α} {strand : Strand α} {act : Act} {e : Effect α} {deeds : List (Deed α)}

theorem Strand.Acts.toList (acts : strand.Acts me c act e) :
    e.core.list.toList = e.deeds.foldl Deed.edit c.list.toList := by
  cases acts with
  | miss missing => exact (Change.edit_of_missing missing).symm
  | revise => exact c.list.toList_revise _ _
  | answer => rename_i question _; cases question <;> rfl
  | @broken listener pass => cases pass <;> rfl
  | _ => rfl

theorem Strand.Acts.agrees (acts : strand.Acts me c act e) (tells : strand.Tells c.list deeds) :
    ∀ deed ∈ e.deeds, deed.Agrees c.list.toList := by
  cases acts with
  | miss missing => simpa [Deed.Agrees, missing] using Change.edit_of_missing missing
  | revise =>
    cases tells with
    | fresh fresh => cases fresh
    | asked found => simp [Deed.Agrees, found]
  | answer => simpa using Question.agrees c.list _
  | take | beginPass => simp [Deed.Agrees]
  | _ => simp [Deed.Agrees]

omit [LawfulBEq α] in
private theorem Strand.Acts.deeds_cases (acts : strand.Acts me c act e) :
    e.deeds = [] ∨ ∃ deed, e.deeds = [deed] := by
  cases acts <;> simp

end

structure Strand.Shows (l : ListenerList α) (strand : Strand α) (deeds : List (Deed α)) (entries : List α) :
    Prop where
  once : ∀ seen, .took seen ∈ deeds → seen = entries
  shown : ∀ seen, .shown seen ∈ deeds → seen = entries
  view : ∀ snapshot, strand.snapshot? = some snapshot → l.view snapshot = entries
  called : ∃ n, deeds.filterMap Deed.called? = entries.take n
  through : .through ∈ deeds → deeds.filterMap Deed.called? = entries

omit [BEq α] in
private theorem filterMap_called (entries : List α) :
    (entries.map Deed.called).filterMap Deed.called? = entries := by
  rw [List.filterMap_map]
  exact List.filterMap_some

section

variable {l : ListenerList α} {strand : Strand α} {entries : List α}

omit [BEq α] in
private theorem Strand.shows_looked (n : Nat)
    (view : ∀ snapshot, strand.snapshot? = some snapshot → l.view snapshot = entries) :
    strand.Shows l (.took entries :: List.replicate n (.shown entries)) entries where
  once seen told := by simpa using told
  shown seen told := by
    have same : n ≠ 0 ∧ seen = entries := by simpa using told
    exact same.2
  view := view
  called := ⟨0, by simp [Deed.called?]⟩
  through told := by simp at told

omit [BEq α] in
private theorem eq_of_took {seen calls : List α} (told : .took entries ∈ Deed.took seen :: calls.map .called) :
    entries = seen := by
  simpa using told

omit [BEq α] in
private theorem Strand.shows_visited {calls : List α} (visited : ∃ n, calls = entries.take n)
    (view : ∀ snapshot, strand.snapshot? = some snapshot → l.view snapshot = entries) :
    strand.Shows l (.took entries :: calls.map .called) entries where
  once seen told := eq_of_took told
  shown seen told := by simp at told
  view := view
  called := by
    rw [List.filterMap_cons_none rfl, filterMap_called]
    exact visited
  through told := by simp at told

omit [BEq α] in
private theorem Strand.shows_through (ended : strand.snapshot? = none) :
    strand.Shows l (.took entries :: (entries.map .called ++ [.through])) entries := by
  have calls : (Deed.took entries :: (entries.map .called ++ [.through])).filterMap Deed.called? = entries := by
    rw [List.filterMap_cons_none rfl, List.filterMap_append, filterMap_called]
    exact List.append_nil _
  exact {
    once := fun seen told => by simpa using told
    shown := fun seen told => by simp at told
    view := fun snapshot mine => by simp [ended] at mine
    called := ⟨entries.length, by rw [calls, List.take_length]⟩
    through := fun _ => calls }

theorem Strand.Tells.shows {deeds : List (Deed α)} (tells : strand.Tells l deeds)
    (told : .took entries ∈ deeds) : strand.Shows l deeds entries := by
  have same_of_view {snapshot mine : Snapshot} (same : some mine = some snapshot) :
      l.view snapshot = l.view mine := by
    cases same
    rfl
  cases tells with
  | fresh | found | asked => cases told
  | decided | changed => simp at told
  | @answered asked question => cases question <;> simp [Question.answer] at told
  | holding =>
    obtain rfl : entries = l.view _ := by simpa using told
    exact shows_looked _ fun _ => same_of_view
  | dropped =>
    obtain rfl : entries = _ := by simpa using told
    exact shows_looked _ nofun
  | visiting | calling =>
    obtain rfl := eq_of_took told
    exact shows_visited ⟨_, rfl⟩ fun _ => same_of_view
  | brokenOff =>
    obtain rfl := eq_of_took told
    exact shows_visited ⟨_, rfl⟩ nofun
  | through =>
    obtain rfl : entries = _ := by simpa using told
    exact shows_through rfl

theorem Strand.Tells.answers {deeds : List (Deed α)} (tells : strand.Tells l deeds) {found : Bool}
    (told : .answered found ∈ deeds) : ∃ change, deeds = [.changed change found, .answered found] := by
  cases tells with
  | fresh | found | asked => cases told
  | @changed change =>
    obtain rfl : found = _ := by simpa using told
    exact ⟨change, rfl⟩
  | @answered asked question => cases question <;> simp [Question.answer] at told
  | decided | holding | dropped | through => simp at told
  | visiting | calling | brokenOff => simp [-List.map_take] at told

theorem Strand.Tells.begun {deeds : List (Deed α)} (tells : strand.Tells l deeds) {listener : α}
    (told : .called listener ∈ deeds) : ∃ entries rest, deeds = .took entries :: rest := by
  cases tells with
  | fresh | found | asked => cases told
  | @answered asked question => cases question <;> simp [Question.answer] at told
  | decided | changed => simp at told
  | holding | dropped | visiting | calling | brokenOff | through => exact ⟨_, _, rfl⟩

theorem Strand.Tells.took {deeds : List (Deed α)} (tells : strand.Tells l deeds) {snapshot : Snapshot}
    (mine : strand.snapshot? = some snapshot) : ∃ entries, .took entries ∈ deeds := by
  cases tells with
  | fresh fresh =>
    cases strand with
    | passing pass =>
      cases pass with
      | start => cases mine
      | visit => cases fresh
    | holding | calling => cases fresh
    | _ => cases mine
  | holding | visiting | calling => exact ⟨_, List.mem_cons_self⟩
  | _ => cases mine

theorem Strand.Tells.free {change : Change α} {deeds : List (Deed α)}
    (tells : (Strand.changing change (.revise false)).Tells l deeds) : l.current ∉ l.leases := by
  cases tells with
  | fresh fresh => cases fresh
  | asked found free => exact free rfl

end

def Strand.gone : Strand α → Bool
  | .changed _ | .ended => true
  | _ => false

theorem Strand.advances (me : Nat) {c : Core α} {strand : Strand α} (left : strand.gone = false)
    (free : c.holder = none ∨ strand.inside = true) : ∃ act e, strand.act? me c act = some e := by
  cases strand with
  | changing change point =>
    cases point with
    | search =>
      cases found : change.finds c.list.toList <;> exact ⟨.move, _, by rw [act?, found]; rfl⟩
    | enter =>
      obtain free | inside := free
      · exact ⟨.move, _, by rw [act?, free]; rfl⟩
      · cases inside
    | _ => exact ⟨.move, _, rfl⟩
  | asking | taking =>
    obtain free | inside := free
    · exact ⟨.move, _, by rw [act?, free]; rfl⟩
    · cases inside
  | holding => exact ⟨.look, _, rfl⟩
  | passing pass =>
    obtain free | inside := free
    · cases pass with
      | start => exact ⟨.move, _, by rw [act?, free]; rfl⟩
      | visit snapshot index =>
        cases entry : (c.list.view snapshot)[index]? <;>
          exact ⟨.move, _, by rw [act?, passStep?, Pass.step, entry]⟩
    · cases inside
  | calling => exact ⟨.finish false, _, rfl⟩
  | changed | ended => cases left

def Change.whole (l : ListenerList α) : Change α → Bool × ListenerList α
  | .add x => (true, l.add x)
  | .remove x => l.remove x

private theorem Change.whole_of_finds {change : Change α} {l : ListenerList α} (found : change.finds l.toList = true) :
    change.whole l = (true, l.revise (l.leases.contains l.current) change.edit) := by
  cases change with
  | add => rfl
  | remove x => exact if_pos found

private theorem Change.whole_of_missing {change : Change α} {l : ListenerList α}
    (missing : change.finds l.toList = false) : change.whole l = (false, l) := by
  cases change with
  | add => cases missing
  | remove x => exact if_neg (ne_true_of_eq_false missing)

namespace System

def entriesAt (s : System α) (k : Nat) : List α := entriesAfter (s.history.take k)

def calls (s : System α) (place : Nat) : List α := (s.deedsOf place).filterMap Deed.called?

variable [LawfulBEq α] {s : System α}

theorem Reachable.toList (reach : s.Reachable) : s.core.list.toList = entriesAfter s.history := by
  refine reach.invariant (fun s => s.core.list.toList = entriesAfter s.history) ?start ?begin ?act
  case start => rfl
  case begin =>
    intro s task _ ih
    exact ih
  case act =>
    intro s place strand act e _ ih _ acts
    rw [show (s.effect place e).core = e.core from rfl,
      show (s.effect place e).history = s.history ++ e.deeds.map (place, ·) from rfl, acts.toList,
      entriesAfter_append, ← ih, List.foldl_map]

theorem Reachable.agrees (reach : s.Reachable) : ∀ (k place : Nat) (deed : Deed α),
    s.history[k]? = some (place, deed) → deed.Agrees (s.entriesAt k) := by
  refine reach.invariant (fun s => ∀ (k place : Nat) (deed : Deed α),
    s.history[k]? = some (place, deed) → deed.Agrees (s.entriesAt k)) ?start ?begin ?act
  case start =>
    intro k place deed told
    cases told
  case begin =>
    intro s task _ ih
    exact ih
  case act =>
    intro s acting strand act e reach ih found acts k place deed told
    unfold entriesAt
    rw [show (s.effect acting e).history = s.history ++ e.deeds.map (acting, ·) from rfl] at told ⊢
    rw [List.getElem?_append] at told
    split at told
    case isTrue before =>
      rw [List.take_append_of_le_length (Nat.le_of_lt before)]
      exact ih k place deed told
    case isFalse after =>
      -- What is told now is told of the list as it was, and that is the plain list of the history so far.
      obtain none | ⟨only, one⟩ := acts.deeds_cases
      · simp [none] at told
      · have last : k = s.history.length := by
          have bound := (List.getElem?_eq_some_iff.mp told).1
          rw [one, List.length_map, List.length_singleton] at bound
          omega
        have new : deed ∈ e.deeds := by
          obtain ⟨deed, member, same⟩ := List.mem_map.mp (List.mem_of_getElem? told)
          cases same
          exact member
        rw [last, List.take_left, ← reach.toList]
        exact acts.agrees (reach.shared.2 acting strand found) deed new

omit [LawfulBEq α] in
private theorem run_moves_last {c : Core α} {before : List (Strand α)} {strand : Strand α} {e : Effect α}
    (history : List (Nat × Deed α)) (n : Nat)
    (acted : strand.act? before.length c .move = some e) :
    run? { core := c, strands := before ++ [strand], history := history } (moves before.length (n + 1)) =
      run? { core := e.core, strands := before ++ [e.strand]
             history := history ++ e.deeds.map (before.length, ·) } (moves before.length n) := by
  have found : (before ++ [strand])[before.length]? = some strand := by simp
  simp [moves, List.replicate_succ, run?, perform?, acted, effect]

omit [LawfulBEq α] in
/-- The steps of a change, with nobody in between, are the change made at once. -/
theorem run_whole (s : System α) (free : s.core.holder = none) (change : Change α) :
    ∃ n t, (s.begin (.change change)).run? (moves s.strands.length n) = some t ∧
      t.core = { list := (change.whole s.core.list).2 } ∧
      t.strands = s.strands ++ [.changed (change.whole s.core.list).1] := by
  obtain ⟨⟨list, holder⟩, strands, history⟩ := s
  cases free
  have enter : (Strand.changing change .enter).act? strands.length { list := list } .move =
      some { core := { list := list, holder := some strands.length }
             strand := .changing change .search } := rfl
  cases found : change.finds list.toList with
  | true =>
    rw [change.whole_of_finds found]
    have ran := (run_moves_last history 4 enter).trans
      ((run_moves_last _ 3 (by rw [Strand.act?, if_pos found])).trans
        ((run_moves_last _ 2 rfl).trans ((run_moves_last _ 1 rfl).trans (run_moves_last _ 0 rfl))))
    exact ⟨5, _, ran, rfl, rfl⟩
  | false =>
    rw [change.whole_of_missing found]
    have ran := (run_moves_last history 2 enter).trans
      ((run_moves_last _ 1 (by rw [Strand.act?, if_neg (ne_true_of_eq_false found)])).trans
        (run_moves_last _ 0 rfl))
    exact ⟨3, _, ran, rfl, rfl⟩

/-- How a shared list, with everything that has been going on around it, compares with a plain list. -/
structure Refines (s : System α) : Prop where
  contents : s.core.list.toList = entriesAfter s.history
  agrees (k place : Nat) (deed : Deed α) : s.history[k]? = some (place, deed) → deed.Agrees (s.entriesAt k)
  /-- What a removal answers is what it found when it took effect, and it takes effect once. -/
  answers (place : Nat) (found : Bool) : .answered found ∈ s.deedsOf place →
    ∃ change, s.deedsOf place = [.changed change found, .answered found]
  /-- Whatever happens later, a snapshot shows what it was taken of, and a pass keeps to that. -/
  snapshots (place : Nat) (entries : List α) : .took entries ∈ s.deedsOf place →
    ∃ strand ∈ s.strands[place]?, strand.Shows s.core.list (s.deedsOf place) entries
  taken (place : Nat) (strand : Strand α) (snapshot : Snapshot) : s.strands[place]? = some strand →
    strand.snapshot? = some snapshot → ∃ entries, .took entries ∈ s.deedsOf place
  begun (place : Nat) (listener : α) : .called listener ∈ s.deedsOf place →
    ∃ entries rest, s.deedsOf place = .took entries :: rest
  counted (k : Nat) (x : α) :
    (s.entriesAt k).count x + (s.history.take k).countP (·.2.removes x) =
      (s.history.take k).countP (·.2.adds x)
  asOften (k place : Nat) (entries : List α) (x : α) : s.history[k]? = some (place, .took entries) →
    .through ∈ s.deedsOf place →
    (s.calls place).count x + (s.history.take k).countP (·.2.removes x) =
      (s.history.take k).countP (·.2.adds x)
  spared (k place : Nat) (entries : List α) (x : α) : s.history[k]? = some (place, .took entries) →
    (s.history.take k).countP (·.2.removes x) = (s.history.take k).countP (·.2.adds x) →
    x ∉ s.calls place
  /-- A vector is written where it stands only while no snapshot has it. -/
  inPlace (place : Nat) (change : Change α) :
    s.strands[place]? = some (.changing change (.revise false)) →
    ∀ other ∈ s.strands, other.holds s.core.list.current = false
  advances (place : Nat) (strand : Strand α) : s.strands[place]? = some strand → strand.gone = false →
    (∃ act t, s.perform? (.act place act) = some t) ∨
      ∃ holder act t, s.core.holder = some holder ∧ s.perform? (.act holder act) = some t
  whole (change : Change α) : s.core.holder = none →
    ∃ n t, (s.begin (.change change)).run? (moves s.strands.length n) = some t ∧
      t.core = { list := (change.whole s.core.list).2 } ∧
      t.strands = s.strands ++ [.changed (change.whole s.core.list).1]

omit [LawfulBEq α] in
theorem perform_of_act {place : Nat} {strand : Strand α} {act : Act} {e : Effect α}
    (found : s.strands[place]? = some strand) (acted : strand.act? place s.core act = some e) :
    s.perform? (.act place act) = some (s.effect place e) := by
  simp [perform?, found, acted]

omit [LawfulBEq α] in
theorem Reachable.advances (reach : s.Reachable) {place : Nat} {strand : Strand α}
    (found : s.strands[place]? = some strand) (left : strand.gone = false) :
    (∃ act t, s.perform? (.act place act) = some t) ∨
      ∃ holder act t, s.core.holder = some holder ∧ s.perform? (.act holder act) = some t := by
  cases held : s.core.holder with
  | none =>
    obtain ⟨act, e, acted⟩ := strand.advances place left (Or.inl held)
    exact Or.inl ⟨act, _, perform_of_act found acted⟩
  | some holder =>
    -- Whoever has the lock never waits for anybody.
    obtain ⟨other, here, inside⟩ := (reach.exclusive holder).mp held
    have busy : other.gone = false := by
      cases other <;> first | rfl | cases inside
    obtain ⟨act, e, acted⟩ := other.advances holder busy (Or.inr inside)
    exact Or.inr ⟨holder, act, _, rfl, perform_of_act here acted⟩

private theorem Reachable.strand_of_deed (reach : s.Reachable) {place : Nat} {deed : Deed α}
    (told : deed ∈ s.deedsOf place) :
    ∃ strand ∈ s.strands[place]?, strand.Tells s.core.list (s.deedsOf place) := by
  cases found : s.strands[place]? with
  | none =>
    rw [reach.deedsOf_eq_nil (List.getElem?_eq_none_iff.mp found)] at told
    cases told
  | some strand => exact ⟨strand, rfl, reach.shared.2 place strand found⟩

theorem Reachable.shows (reach : s.Reachable) {place : Nat} {entries : List α}
    (told : .took entries ∈ s.deedsOf place) :
    ∃ strand ∈ s.strands[place]?, strand.Shows s.core.list (s.deedsOf place) entries := by
  obtain ⟨strand, found, tells⟩ := reach.strand_of_deed told
  exact ⟨strand, found, tells.shows told⟩

theorem Reachable.counted (reach : s.Reachable) (k : Nat) (x : α) :
    (s.entriesAt k).count x + (s.history.take k).countP (·.2.removes x) =
      (s.history.take k).countP (·.2.adds x) :=
  count_entriesAfter reach.agrees k x

private theorem Reachable.mem_calls (reach : s.Reachable) {k place : Nat} {entries : List α} {x : α}
    (took : s.history[k]? = some (place, .took entries)) (called : x ∈ s.calls place) :
    x ∈ s.entriesAt k := by
  obtain ⟨_, _, shows⟩ := reach.shows (mem_deedsOf.mpr (List.mem_of_getElem? took))
  obtain ⟨n, calls⟩ := shows.called
  have seen : entries = s.entriesAt k := reach.agrees k place _ took
  rw [System.calls, calls] at called
  exact seen ▸ List.mem_of_mem_take called

/-- However additions, removals, snapshots and passes interleave, the list refines a plain one. -/
theorem Reachable.refines (reach : s.Reachable) : s.Refines where
  contents := reach.toList
  agrees := reach.agrees
  answers place found told := by
    obtain ⟨strand, -, tells⟩ := reach.strand_of_deed told
    exact tells.answers told
  snapshots place entries told := reach.shows told
  taken place strand snapshot found mine := (reach.shared.2 place strand found).took mine
  begun place listener told := by
    obtain ⟨strand, -, tells⟩ := reach.strand_of_deed told
    exact tells.begun told
  counted := reach.counted
  asOften k place entries x took through := by
    obtain ⟨_, _, shows⟩ := reach.shows (mem_deedsOf.mpr (List.mem_of_getElem? took))
    have seen : entries = s.entriesAt k := reach.agrees k place _ took
    rw [calls, shows.through through, seen]
    exact reach.counted k x
  spared k place entries x took even called := by
    have present := List.count_pos_iff.mpr (reach.mem_calls took called)
    have counted := reach.counted k x
    omega
  inPlace place change found other member := by
    obtain ⟨leased, told⟩ := reach.shared
    obtain ⟨away, here⟩ := List.mem_iff_getElem?.mp member
    refine Bool.eq_false_iff.mpr fun holds => (told place _ found).free ?_
    exact leased.held here (Strand.holds_iff.mp holds)
  advances place strand := reach.advances
  whole change free := s.run_whole free change

/-- The first of two namesakes is registered twice, and is removed once while a pass is under way. The removal
has found the vector shared when the pass gives its snapshot back. The third namesake is not there. -/
def unseating : List (Action (Nat × String)) :=
  [.begin (.change (.add (0, "log")))] ++ moves 0 5 ++ [.begin (.change (.add (1, "log")))] ++ moves 1 5 ++
    [.begin (.change (.add (0, "log")))] ++ moves 2 5 ++ [.begin .pass] ++ moves 3 2 ++
    [.begin (.change (.remove (0, "log")))] ++ moves 4 3 ++ [.act 3 (.finish false)] ++ moves 3 1 ++
    [.act 3 (.finish false)] ++ moves 3 1 ++ [.act 3 (.finish false)] ++ moves 3 1 ++ moves 4 2 ++
    [.begin (.change (.remove (2, "log")))] ++ moves 5 3

theorem refines_unseating : ∃ s : System (Nat × String), run? {} unseating = some s ∧
    s.core.list.toList = [(1, "log"), (0, "log")] ∧
    [3, 4, 5].map s.deedsOf =
      [[.took [(0, "log"), (1, "log"), (0, "log")], .called (0, "log"), .called (1, "log"),
          .called (0, "log"), .through],
        [.changed (.remove (0, "log")) true, .answered true],
        [.changed (.remove (2, "log")) false, .answered false]] ∧ s.Refines := by
  have seen : (run? {} unseating).map (fun s => (s.core.list.toList, [3, 4, 5].map s.deedsOf)) =
      some ([(1, "log"), (0, "log")],
        [[.took [(0, "log"), (1, "log"), (0, "log")], .called (0, "log"), .called (1, "log"),
            .called (0, "log"), .through],
          [.changed (.remove (0, "log")) true, .answered true],
          [.changed (.remove (2, "log")) false, .answered false]]) := by decide +kernel
  obtain ⟨s, ran, same⟩ := Option.map_eq_some_iff.mp seen
  obtain ⟨entries, deeds⟩ := Prod.mk.inj same
  exact ⟨s, ran, entries, deeds, (Reachable.run .start unseating ran).refines⟩

end System

end TransferLifecycle.Listing
