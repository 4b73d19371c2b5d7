import TransferLifecycle.Examination
import TransferLifecycle.Roster
import TransferLifecycle.Session.Run
import TransferLifecycle.Proofs.Dispatch.Interleaving
import TransferLifecycle.Proofs.Dispatch.Ownership
import TransferLifecycle.Proofs.Dispatch.Order
import TransferLifecycle.Proofs.Monitoring.Interleaving
import TransferLifecycle.Proofs.Monitoring.Exclusion
import TransferLifecycle.Proofs.Monitoring.Knowledge
import TransferLifecycle.Proofs.Monitoring.Success
import TransferLifecycle.Proofs.Monitoring.Reporting
import TransferLifecycle.Proofs.Monitoring.Gate
import TransferLifecycle.Proofs.Dispatch.Closing
import TransferLifecycle.Proofs.Dispatch.Passage
import TransferLifecycle.Proofs.Transition.Interleaving
import TransferLifecycle.Proofs.Transition.Turn
import TransferLifecycle.Proofs.Transition.Path
import TransferLifecycle.Proofs.Session.Frames
import TransferLifecycle.Proofs.Session.Stacks
import TransferLifecycle.Proofs.Session.Steps
import TransferLifecycle.Proofs.Session.Holding
import TransferLifecycle.Proofs.Session.Reentry
import TransferLifecycle.Proofs.Pool.Interleaving
import TransferLifecycle.Proofs.Pool.Locking
import TransferLifecycle.Proofs.Pool.Accounts
import TransferLifecycle.Proofs.Pool.Signals
import TransferLifecycle.Proofs.Pool.Progress
import TransferLifecycle.Proofs.Pool.Graceful
import TransferLifecycle.Proofs.Nesting.Machine
import TransferLifecycle.Proofs.Nesting.Stack
import TransferLifecycle.Proofs.Nesting.Outline
import TransferLifecycle.Proofs.Nesting.Order
import TransferLifecycle.Proofs.Nesting.Uniform
import TransferLifecycle.Proofs.Monitoring.Decision
import TransferLifecycle.Proofs.Monitoring.Returning
import TransferLifecycle.Proofs.Dispatch.Queuing
import TransferLifecycle.Proofs.Announcing.Interleaving
import TransferLifecycle.Proofs.Announcing.Record
import TransferLifecycle.Proofs.Announcing.Order
import TransferLifecycle.Proofs.Announcing.Delivery
import TransferLifecycle.Proofs.Announcing.Fidelity
import TransferLifecycle.Proofs.Waiting.Cycle
import TransferLifecycle.Proofs.Waiting.Course
import TransferLifecycle.Proofs.Monitoring.Opening
import TransferLifecycle.Proofs.Monitoring.Release
import TransferLifecycle.Proofs.Monitoring.Pacing
import TransferLifecycle.Proofs.Monitoring.Unhurried
import TransferLifecycle.Proofs.Dispatch.Weighing
import TransferLifecycle.Proofs.Dispatch.Hearing
import TransferLifecycle.Proofs.Recording.Interleaving
import TransferLifecycle.Proofs.Recording.Balance
import TransferLifecycle.Proofs.Interruption.Interleaving
import TransferLifecycle.Proofs.Interruption.Exclusion
import TransferLifecycle.Proofs.Interruption.Heeding
import TransferLifecycle.Proofs.Interruption.Keeping
import TransferLifecycle.Proofs.Interruption.Innocence
import TransferLifecycle.Proofs.Interruption.Account
import TransferLifecycle.Proofs.Fault.Unwrapping
import TransferLifecycle.Proofs.Listing.Interleaving
import TransferLifecycle.Proofs.Listing.Sharing
import TransferLifecycle.Proofs.Listing.Refinement
import TransferLifecycle.Proofs.Transition.Breaking
import TransferLifecycle.Proofs.Transition.Likeness
import TransferLifecycle.Proofs.Transition.Finishing
import TransferLifecycle.Proofs.Transition.Smoothing
import TransferLifecycle.Proofs.Transition.Recovery
import TransferLifecycle.Proofs.Settling.Settlement
import TransferLifecycle.Proofs.Dispatch.Strokes
import TransferLifecycle.Proofs.Dispatch.Wedging
import TransferLifecycle.Proofs.Dispatch.Shutdown
import TransferLifecycle.Proofs.Relaying.Course
import TransferLifecycle.Proofs.Relaying.Delivery
import TransferLifecycle.Proofs.Relaying.Ending
import TransferLifecycle.Proofs.Session.Operations
import TransferLifecycle.Proofs.Session.Beginning
import TransferLifecycle.Proofs.Session.Aside
import TransferLifecycle.Proofs.Session.Mirroring
import TransferLifecycle.Proofs.Session.Separation
import TransferLifecycle.Proofs.Metering.Accuracy
