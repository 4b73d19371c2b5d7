import TransferLifecycle.Session.Advance
import TransferLifecycle.Session.Resume

/-! Running a session. Of the threads that can move the first moves; after each step of the
script all threads run until none can move. -/
namespace TransferLifecycle.Session

/-- One indivisible step of a thread, if it can move. -/
def step? (s : Session) (me : Nat) : Option Session :=
  match s.threads[me]? with
  | none => none
  | some thread =>
    match thread.stack with
    | [] => none
    | activity :: rest =>
      match thread.mode with
      | .running => s.advance me rest activity
      | .returning reply => s.resume me rest reply activity
      | .unwinding panic => some (s.unwind me rest panic activity)

/-- Moves the first thread that can move. -/
def tick (s : Session) : Option Session :=
  (List.range s.threads.size).findSome? s.step?

/-- Runs until no thread can move, or the fuel is spent. -/
def settle : Nat → Session → Session
  | 0, s => s
  | fuel + 1, s =>
    match s.tick with
    | some s => settle fuel s
    | none => s

def submit (s : Session) (step : Step) : Session :=
  { s with
    calls := []
    threads := s.threads.modify mainThread fun t =>
      { t with stack := [.steps .main [step] 0], mode := .running, notices := [] } }

def answer (s : Session) : Answer where
  result := match s.ending mainThread with
    | some (.ok reply) => reply.toResult
    | some (.error panic) => .panicked panic
    | none => .stuck
  calls := s.calls.reverse
  log :=
    if s.logging then
      ((s.threads[mainThread]?.map (·.notices)).getD []).reverse.map Notice.line
    else []

def perform (fuel : Nat) (s : Session) : List Step → List Answer
  | [] => []
  | step :: steps =>
    let s := settle fuel (s.submit step)
    s.answer :: perform fuel s steps

def script (fuel : Nat) (logging : Bool) (steps : List Step) : List Answer :=
  perform fuel (settle fuel (start logging)) steps

end TransferLifecycle.Session
