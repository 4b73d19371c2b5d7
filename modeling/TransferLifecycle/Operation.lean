/-! Operations that take several indivisible steps. An operation stands at a point; one step
moves it to another point, puts a question to something else and waits for the answer, ends
with a result, or cannot be made until another thread has moved. -/
namespace TransferLifecycle

inductive Next (point question result : Type) where
  | goto (p : point)
  | ask (q : question) (p : point)
  | done (r : result)
  | blocked

end TransferLifecycle
