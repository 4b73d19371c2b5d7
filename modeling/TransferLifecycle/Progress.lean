import TransferLifecycle.Text.Tenths

/-! Byte counts of a transfer. Both counters are single words: additions wrap, and the largest
word stands for a total that is not known, so a known total is kept below it. -/
namespace TransferLifecycle

def unknownTotal : UInt64 := 0xffffffffffffffff

structure Progress where
  bytes : UInt64 := 0
  totalWord : UInt64 := unknownTotal
  /-- Set by the first addition, even of nothing. -/
  started : Bool := false

structure ProgressSnapshot where
  bytes : UInt64
  total : Option UInt64
  percent : Float

def decodeTotal (word : UInt64) : Option UInt64 :=
  if word = unknownTotal then none else some word

/-- Part of the total in hundredths; zero while the total is unknown or nothing. -/
def percentOf (bytes : UInt64) : Option UInt64 → Float
  | some total => if 0 < total then bytes.toFloat / total.toFloat * 100.0 else 0.0
  | none => 0.0

namespace Progress

def setTotal (p : Progress) (total : UInt64) : Progress :=
  { p with totalWord := min total (unknownTotal - 1) }

def withTotal (total : UInt64) : Progress := ({} : Progress).setTotal total

def add (p : Progress) (bytes : UInt64) : Progress :=
  { p with started := true, bytes := p.bytes + bytes }

def total (p : Progress) : Option UInt64 := decodeTotal p.totalWord

theorem toNat_cap (total : UInt64) :
    (min total (unknownTotal - 1)).toNat = min total.toNat 0xfffffffffffffffe := by
  have limit : (unknownTotal - 1).toNat = 0xfffffffffffffffe := rfl
  by_cases below : total ≤ unknownTotal - 1
  · have capped : min total (unknownTotal - 1) = total := if_pos below
    rw [UInt64.le_iff_toNat_le, limit] at below
    rw [capped, Nat.min_eq_left below]
  · have capped : min total (unknownTotal - 1) = unknownTotal - 1 := if_neg below
    rw [UInt64.le_iff_toNat_le, limit] at below
    rw [capped, limit]
    omega

theorem total_setTotal (p : Progress) (total : UInt64) :
    (p.setTotal total).total = some (min total (unknownTotal - 1)) := by
  refine if_neg fun unknown => ?_
  have limit : (min total (unknownTotal - 1)).toNat = 0xffffffffffffffff := congrArg UInt64.toNat unknown
  rw [toNat_cap] at limit
  omega

def snapshot (p : Progress) : ProgressSnapshot := ⟨p.bytes, p.total, percentOf p.bytes p.total⟩

/-- A speed is positive once bytes were recorded and some time has passed. -/
def isMoving (p : Progress) : Bool := p.started && p.bytes != 0

/-- Bytes still to come, where the time left can be estimated. -/
def remaining (p : Progress) : Option UInt64 :=
  match p.total with
  | some total => if p.isMoving && p.bytes < total then some (total - p.bytes) else none
  | none => none

/-- A recording in the making: the start is noted first, then the bytes are added. -/
inductive Addition where
  | ofStart
  | ofBytes
  | made
  deriving DecidableEq, Repr

def Addition.step (p : Progress) (bytes : UInt64) : Addition → Progress × Addition
  | .ofStart => ({ p with started := true }, .ofBytes)
  | .ofBytes => ({ p with bytes := p.bytes + bytes }, .made)
  | .made => (p, .made)

theorem Addition.undisturbed (p : Progress) (bytes : UInt64) :
    Addition.step (Addition.step p bytes .ofStart).1 bytes (Addition.step p bytes .ofStart).2 =
      (p.add bytes, .made) := rfl

/-- A snapshot in the making: the bytes are read first, then the total. -/
inductive Reading where
  | ofBytes
  | ofTotal (bytes : UInt64)
  | taken (snapshot : ProgressSnapshot)

def Reading.step (p : Progress) : Reading → Reading
  | .ofBytes => .ofTotal p.bytes
  | .ofTotal bytes => .taken ⟨bytes, p.total, percentOf bytes p.total⟩
  | .taken snapshot => .taken snapshot

theorem Reading.undisturbed (p : Progress) :
    Reading.step p (Reading.step p .ofBytes) = .taken p.snapshot := rfl

/-- An estimate in the making: the total is read first, then the start and the bytes, which give the speed, and
then the bytes once more. -/
inductive Estimate where
  | ofTotal
  | ofStart (total : UInt64)
  | ofSpeed (total : UInt64)
  | ofBytes (total : UInt64) (moving : Bool)
  | made (remaining : Option UInt64)

/-- Without any time passed since the start there is no speed, and its bytes are not read. -/
def Estimate.step (p : Progress) (passed : Bool) : Estimate → Estimate
  | .ofTotal => match p.total with
    | some total => .ofStart total
    | none => .made none
  | .ofStart total => if p.started && passed then .ofSpeed total else .ofBytes total false
  | .ofSpeed total => .ofBytes total (p.bytes != 0)
  | .ofBytes total moving =>
    .made (if moving && p.bytes < total then some (total - p.bytes) else none)
  | .made remaining => .made remaining

theorem Estimate.undisturbed (p : Progress) (passed : Bool) :
    step p passed (step p passed (step p passed (step p passed .ofTotal))) =
      .made (if passed then p.remaining else none) := by
  cases known : p.total with
  | none => simp [step, remaining, known]
  | some total => cases noted : p.started <;> cases passed <;> simp [step, remaining, isMoving, known, noted]

end Progress

def ProgressSnapshot.text (s : ProgressSnapshot) : String :=
  match s.total with
  | some total => toString s.bytes ++ "/" ++ toString total ++ " bytes (" ++ Text.tenths s.percent ++ "%)"
  | none => toString s.bytes ++ "/? bytes"

end TransferLifecycle
