import GpuSched.AddressSpace
import GpuSched.Memory.Host
import GpuSched.Proofs.AddressSpace.Directories
import GpuSched.Proofs.Buddy.Ledger
import GpuSched.Scheduler.Report
import GpuSched.Scheduler.Session
import GpuSched.Proofs.Scheduler.Isolation
import GpuSched.Proofs.Scheduler.Serialization
import GpuSched.Proofs.Buddy.Decision
import GpuSched.Proofs.Buddy.History
import GpuSched.Proofs.Buddy.Teardown
import GpuSched.Proofs.Buddy.Conservation
import GpuSched.Proofs.Buddy.Availability
import GpuSched.Proofs.Scheduler.Snapshots
import GpuSched.Proofs.Scheduler.DoubleBuffer
import GpuSched.Proofs.Scheduler.Release
import GpuSched.Proofs.Scheduler.Gates
import GpuSched.Proofs.Scheduler.Quiescence
import GpuSched.Proofs.Scheduler.Deferrals
import GpuSched.Proofs.Scheduler.Exposure
import GpuSched.Proofs.Scheduler.FailedUpdates
import GpuSched.Proofs.Scheduler.Answers
import GpuSched.Proofs.Scheduler.Rollback
import GpuSched.Proofs.Scheduler.Escalation
import GpuSched.Proofs.Scheduler.Timeouts
import GpuSched.Proofs.Buddy.Purity
import GpuSched.Proofs.Buddy.Reversal
import GpuSched.Proofs.Buddy.RoundTrip
import GpuSched.Proofs.Scheduler.Discharge
import GpuSched.Proofs.Buddy.LeastTiling
import GpuSched.Proofs.AddressSpace.Sizes
import GpuSched.Proofs.Register.StatusWords
import GpuSched.Proofs.Scheduler.Construction
import GpuSched.Proofs.Scheduler.Timeslices
import GpuSched.Proofs.Bitmap.Contents
import GpuSched.Proofs.Buddy.Sequences
import GpuSched.Proofs.Register.PendingBits
import GpuSched.Proofs.Buddy.Partition
