import TransferLifecycle.Proofs.Metering.Counters
import TransferLifecycle.Proofs.Metering.Reading

/-! What can be relied on while any number of threads add bytes, set the total and read both. Words wrap, and one
of them stands for a total that is not known, but no addition is lost, no known total is forgotten, and nothing is
read that was not there. -/
namespace TransferLifecycle.Metering

open Pool (tally)

namespace System

variable {origin : Option UInt64} {s t : System} {actions : List Action}

/-- The total is the largest word, and a smaller one later. The start is seen before any byte is there, an
estimate loads the total before it is changed and the bytes after they have wrapped, and another one finds more
bytes than there should be. -/
def overtaking : List Action :=
  [.begin (.add 0xfffffffffffffffe), .step 0, .begin (.ask .hasStarted), .step 1, .begin (.add 5), .step 2,
    .step 2, .tick, .begin .snapshot, .step 3, .begin .estimate, .step 4, .step 4, .step 4, .begin (.setTotal 100),
    .step 0, .step 5, .step 3, .step 4, .begin .estimate, .step 6, .step 6, .step 6, .begin (.add 200), .step 7,
    .step 7, .step 6]

end System

end TransferLifecycle.Metering
