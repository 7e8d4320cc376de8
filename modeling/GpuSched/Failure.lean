import GpuSched.Numeral
import GpuSched.Target

/-!
# Failures

An operation can end in two ways other than success. It can refuse: an `Error` says why, the
caller sees the reason and may go on. Or it can abort: an `Abort` names an internal check or an
arithmetic limit that did not hold, and nothing after it runs. `Failure` joins the two, so that
code which handles refusals cannot swallow an abort by accident.
-/
namespace GpuSched

open Numeral (hex)

/-- Why an operation refused its request. -/
inductive Error where
  /-- The host could not provide memory. -/
  | io
  | invalidConfig (reason : String)
  | tooLarge (len order maxOrder : Nat)
  | exhausted
  | rangeInUse (base len : Nat)
  | invalidRange (base len : Nat)
  | invalidChannel (id : Nat)
  | invalidGroup (id : Nat)
  | invalidEngine (id : Nat)
  | invalidRunlist (id : Nat)
  | channelBusy (id : Nat)
  | invalidState (reason : String)
  | channelFaulted (id : Nat)
  | engineBusy (id : Nat)
  | waitTimeout
  | runlistUpdateFailed (runlist : Nat)
  | preemptFailed (target : Target)
  | engineIdleFailed (engine : Nat)
  deriving DecidableEq, Repr

/-- The text of a refusal; a failure of the host memory has none of its own. -/
def Error.message : Error → Option String
  | io => none
  | invalidConfig reason => some ("Invalid allocator configuration: " ++ reason)
  | tooLarge len order maxOrder =>
      some ("Allocation of " ++ hex len ++ " bytes needs order " ++ toString order ++
        ", max order is " ++ toString maxOrder)
  | exhausted => some "Address space exhausted"
  | rangeInUse base len =>
      some ("Range " ++ hex base ++ "+" ++ hex len ++ " overlaps a live allocation")
  | invalidRange base len =>
      some ("Range " ++ hex base ++ "+" ++ hex len ++
        " is outside the managed space or not block aligned")
  | invalidChannel id => some ("Invalid channel ID: " ++ toString id)
  | invalidGroup id => some ("Invalid group ID: " ++ toString id)
  | invalidEngine id => some ("Invalid engine ID: " ++ toString id)
  | invalidRunlist id => some ("Invalid runlist ID: " ++ toString id)
  | channelBusy id => some ("Channel " ++ toString id ++ " is already bound")
  | invalidState reason => some ("Invalid state: " ++ reason)
  | channelFaulted id => some ("Channel " ++ toString id ++ " has faulted")
  | engineBusy id => some ("Engine " ++ toString id ++ " is busy")
  | waitTimeout => some "Operation timed out"
  | runlistUpdateFailed runlist =>
      some ("Runlist " ++ toString runlist ++ " update failed after recovery attempt")
  | preemptFailed target =>
      some ("Preempt of " ++ target.label ++ " timed out, recovery was run")
  | engineIdleFailed engine =>
      some ("Engine " ++ toString engine ++ " did not idle, recovery was run")

/-- A check on the blocks of a buddy allocator. -/
inductive BlockCheck where
  /-- No handle is left for a new node. -/
  | arenaFull
  /-- A handle without a node was used. -/
  | staleHandle (id : Nat)
  /-- A node was given back twice. -/
  | doubleRelease (id : Nat)
  /-- A node was given back while it was on a free list. -/
  | listedRelease (id : Nat)
  /-- A block was put on a free list while it was in use or listed already. -/
  | listing (id : Nat)
  /-- A block was taken off a free list it was not on. -/
  | unlinking (id : Nat)
  /-- A free list does not end. -/
  | endlessList (order : Nat)
  /-- A block was split while it was in use, split or listed. -/
  | splitting (id : Nat)
  /-- A block of the smallest size was split. -/
  | splittingLeaf (id : Nat)
  /-- A block was handed out while it was in use, split or listed. -/
  | allocating (id : Nat)
  /-- A block that is not in use was released. -/
  | releasing (id : Nat)
  /-- Halves are joined at more levels than there are orders. -/
  | endlessJoin (id : Nat)
  /-- A half was left over when the allocator was torn down. -/
  | unmergedChild (id : Nat)
  /-- A counter was not zero when the allocator was torn down. -/
  | leftoverCount (order : Nat)
  /-- A node was left over when the allocator was torn down. -/
  | leakedNodes (count : Nat)
  deriving DecidableEq, Repr

/-- The text of a failed check on blocks. -/
def BlockCheck.message : BlockCheck → String
  | arenaFull => "buddy arena overflow"
  | staleHandle id => "buddy arena: stale handle " ++ toString id
  | doubleRelease id => "buddy arena: double release of " ++ toString id
  | listedRelease id => "buddy arena: releasing listed block " ++ toString id
  | listing id => "buddy: listing block " ++ toString id ++ " that is not loose"
  | unlinking id => "buddy: unlinking unlisted block " ++ toString id
  | endlessList order => "buddy: free list of order " ++ toString order ++ " does not end"
  | splitting id => "buddy: splitting block " ++ toString id ++ " that is not loose"
  | splittingLeaf id => "buddy: splitting order-0 block " ++ toString id
  | allocating id => "buddy: allocating block " ++ toString id ++ " that is not loose"
  | releasing id => "buddy: releasing unallocated block " ++ toString id
  | endlessJoin id => "buddy: joining block " ++ toString id ++ " does not end"
  | unmergedChild id => "buddy: unmerged child " ++ toString id
  | leftoverCount order =>
      "buddy: order " ++ toString order ++ " still has allocated or split blocks"
  | leakedNodes count => "buddy: " ++ toString count ++ " leaked blocks"

/-- Why an operation stopped without an answer. -/
inductive Abort where
  /-- A sum, product or difference leaves its word, or a shift amount its width. -/
  | overflow
  /-- A table has no entry of a number that it should have. -/
  | missingEntry (index : Nat)
  | bitOutOfRange (bit size : Nat)
  | readPastEnd
  | writePastEnd
  | referenceUnderflow (channel : Nat)
  | block (check : BlockCheck)
  deriving DecidableEq, Repr

/-- The text of a failed check; arithmetic limits have none. -/
def Abort.message : Abort → Option String
  | overflow => none
  | missingEntry index => some ("no table entry " ++ toString index)
  | bitOutOfRange bit size =>
      some ("bit " ++ toString bit ++ " out of range (" ++ toString size ++ ")")
  | readPastEnd => some "DMA read past end of buffer"
  | writePastEnd => some "DMA write past end of buffer"
  | referenceUnderflow channel =>
      some ("fifo: channel " ++ toString channel ++ " reference underflow")
  | block check => some check.message

/-- The ways in which an operation can end without success. -/
inductive Failure where
  | refused (error : Error)
  | aborted (abort : Abort)
  deriving DecidableEq, Repr

end GpuSched
