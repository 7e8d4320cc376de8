import GpuSched.Proofs.Scheduler.Buffers
import GpuSched.Proofs.Scheduler.Scripts

/-!
# Who hands lists over

Every request comes down to updates of runlists and to steps that leave the buffers of a runlist
where they are and hand it nothing. A relation between schedulers that both of these respect is
respected by every request, so what becomes of a list is settled by what one update does.
-/
namespace GpuSched

open Operation

/-- One of the two buffers of a runlist. -/
inductive Side where
  | current
  | spare

/-- The address that the hardware is told of a buffer: that of its page, in 64 bits. -/
def DmaBuffer.page (buffer : DmaBuffer) : Nat :=
  (buffer.physical - buffer.physical % Register.pageSize) % Checked.limit64

/-- The address that the hardware is told of a buffer of a runlist. -/
def Runlist.page (runlist : Runlist) : Side → Nat
  | .current => runlist.current.page
  | .spare => runlist.spare.page

namespace Scheduler

variable {scheduler before middle after : Scheduler} {runlistId list id : Nat} {runlist : Runlist}
  {α β : Type}

/-- The address of a buffer of a runlist that is there. -/
def page? (scheduler : Scheduler) (runlistId : Nat) (side : Side) : Option Nat :=
  (scheduler.runlists.find? runlistId).map (·.page side)

/-- The buffers of a runlist stay in their places, and it is handed nothing. -/
structure Holds (runlistId : Nat) (before after : Scheduler) : Prop where
  config : after.config = before.config
  clock : after.clock = before.clock
  pages : ∀ side, after.page? runlistId side = before.page? runlistId side
  hardware : Bus.Rests runlistId before.machine.bus after.machine.bus

instance (runlistId : Nat) : IsPreorder Scheduler (Holds runlistId) where
  refl _ := ⟨rfl, rfl, fun _ => rfl, Std.Refl.refl _⟩
  trans _ _ _ one two :=
    ⟨two.config.trans one.config, two.clock.trans one.clock,
      fun side => (two.pages side).trans (one.pages side),
      IsTrans.trans _ _ _ one.hardware two.hardware⟩

/-- Where the buffers stay in their places, the lengths of waits and the clock stay as well. -/
theorem Holds.sameTimes (holds : Holds runlistId before after) : SameTimes before after :=
  ⟨holds.config, holds.clock⟩

/-- Where the buffers stay as they are, they stay in their places. -/
theorem Rests.holds (rests : Rests runlistId before after) : Holds runlistId before after := by
  refine ⟨rests.config, rests.clock, fun side => ?_, rests.hardware⟩
  have same := rests.buffers runlistId
  unfold page?
  cases found : after.runlists.find? runlistId with
  | none =>
    rw [found, Option.map_none, eq_comm, Option.map_eq_none_iff] at same
    rw [same]
  | some changed =>
    rw [found, Option.map_some, eq_comm, Option.map_eq_some_iff] at same
    obtain ⟨runlist, holds, buffers⟩ := same
    have current : runlist.current = changed.current := congrArg (·.1) buffers
    have spare : runlist.spare = changed.spare := congrArg (·.2.1) buffers
    rw [holds]
    cases side with
    | current => exact congrArg (some ·.page) current.symm
    | spare => exact congrArg (some ·.page) spare.symm

/-- What leaves the buffers as they are leaves them in their places. -/
theorem holds_of_rests {operation : Operation Scheduler α}
    (rests : Respects (Rests runlistId) operation) : Respects (Holds runlistId) operation :=
  rests.mono fun _ _ => Rests.holds

/-- Another runlist is replaced. -/
theorem holds_putRunlist_of_ne (apart : list ≠ runlistId) (next : Runlist) :
    Respects (Holds runlistId) (putRunlist list next) := by
  refine respects_modify fun scheduler => ⟨rfl, rfl, fun side => ?_, Std.Refl.refl _⟩
  unfold page?
  dsimp only
  rw [Table.find?_insert, if_neg apart.symm]

/-- A runlist is replaced by one whose buffers are in the same places. -/
theorem holds_putRunlist {next : Runlist} (found : scheduler.runlists.find? list = some runlist)
    (same : ∀ side, next.page side = runlist.page side) :
    Holds runlistId scheduler (putRunlist list next scheduler).2 := by
  by_cases own : list = runlistId
  · refine ⟨rfl, rfl, fun side => ?_, Std.Refl.refl _⟩
    rw [own] at found
    unfold page?
    change ((scheduler.runlists.insert list next).find? runlistId).map _ = _
    rw [Table.find?_insert, if_pos own.symm, found]
    exact congrArg some (same side)
  · exact holds_putRunlist_of_ne own next scheduler

/-- A buffer stays where it is when entries are written into it. -/
theorem physical_writeEntries {buffer written : DmaBuffer} {index : Nat}
    {entries : List RunlistEntry} (writes : writeEntries buffer index entries = .ok written) :
    written.physical = buffer.physical := by
  have word : ∀ {buffer written : DmaBuffer} {index : Nat} {value : UInt32},
      buffer.write index value = .ok written → written.physical = buffer.physical := by
    intro buffer written index value writes
    unfold DmaBuffer.write at writes
    split at writes
    · cases writes
      rfl
    · cases writes
  induction entries generalizing buffer index with
  | nil =>
    cases writes
    rfl
  | cons entry rest ih =>
    obtain ⟨once, first, goesOn⟩ := bind_eq_ok_iff.mp writes
    obtain ⟨twice, second, goesOn⟩ := bind_eq_ok_iff.mp goesOn
    exact (ih goesOn).trans ((word second).trans (word first))

/-- A list is written into the buffer that is there. -/
theorem holds_writeList (list : Nat) : Respects (Holds runlistId) (writeList list) := by
  refine respects_runlist_bind fun scheduler runlist found => ?_
  refine related_bind (respects_get scheduler) fun read middle run => ?_
  cases run
  refine related_lift_bind fun entries _ => related_lift_bind fun spare writes => ?_
  have places : spare.page = runlist.spare.page := by
    unfold DmaBuffer.page
    rw [physical_writeEntries writes]
  refine related_bind (holds_putRunlist found fun side => ?_) fun _ _ _ => Std.Refl.refl _
  cases side with
  | current => rfl
  | spare => exact places

/-- What is handed over is written into the buffer that is there, if it is written at all. -/
theorem holds_prepareList (list : Nat) (suspend : Bool) :
    Respects (Holds runlistId) (if suspend then pure 0 else writeList list) := by
  cases suspend with
  | true => exact respects_pure _
  | false => exact holds_writeList list

/-- Another runlist is updated. -/
theorem holds_updateRunlist_of_ne (apart : list ≠ runlistId) (id : Option Nat) (add wait : Bool) :
    Respects (Holds runlistId) (updateRunlist list id add wait) := by
  have steps : Steps list (Holds runlistId) := {
    idles := fun _ _ idles => idles.toStays.rests.holds
    shifts := fun _ _ shifts => shifts.rests.holds
    faults := fun forced => holds_of_rests (rests_of_drives (drives_handleFaults (some forced)))
    refills := fun before after refills => ?_
    submits := fun scheduler runlist count _ =>
      holds_of_rests (rests_onBus (Device.rests_submitRunlist apart _ _)) scheduler }
  · exact steps.updateRunlist id add wait
  · refine ⟨refills.config, refills.clock, fun side => ?_, ?_⟩
    · unfold page?
      rw [refills.others runlistId apart.symm]
    · rw [refills.machine]
      exact Std.Refl.refl _

/-- A relation follows a runlist if its updates respect it, and everything else that leaves its
buffers in their places and hands it nothing. -/
structure Follows (runlistId : Nat) (related : Scheduler → Scheduler → Prop) : Prop where
  holds : ∀ before after, Holds runlistId before after → related before after
  updates : ∀ (id : Option Nat) (add wait : Bool),
    Respects related (updateRunlist runlistId id add wait)

namespace Follows

variable {related : Scheduler → Scheduler → Prop}

/-- What leaves every buffer as it is. -/
theorem of_rests (follows : Follows runlistId related) {operation : Operation Scheduler α}
    (rests : Respects (Rests runlistId) operation) : Respects related operation :=
  rests.mono fun before after quiet => follows.holds before after quiet.holds

/-- Updates of any runlist. -/
theorem updateRunlist (follows : Follows runlistId related) (list : Nat) (id : Option Nat)
    (add wait : Bool) : Respects related (Scheduler.updateRunlist list id add wait) := by
  by_cases own : list = runlistId
  · rw [own]
    exact follows.updates id add wait
  · exact (holds_updateRunlist_of_ne own id add wait).mono follows.holds

/-- Recovery. -/
theorem recovers (follows : Follows runlistId related) : Script.Recovers related where
  idles before after idles := follows.holds before after idles.toStays.rests.holds
  faults forced := follows.of_rests (rests_of_drives (drives_handleFaults forced))
  removes list id := follows.updateRunlist list (some id) false false

end Follows

end Scheduler

namespace Session

variable {runlistId : Nat} {related : Scheduler → Scheduler → Prop}

/-- Every request of a client respects what follows a runlist. -/
theorem respects_perform [IsPreorder Scheduler related]
    (follows : Scheduler.Follows runlistId related) {request : Request}
    (asks : ∀ event, request ≠ .inject event) : Respects (Along related) (perform request) := by
  refine respects_plan follows.recovers fun α step isFor => ?_
  cases step with
  | update list id add wait => exact follows.updateRunlist list id add wait
  | withdraw list id => exact follows.updateRunlist list (some id) false true
  | switch engine disabled =>
    exact follows.of_rests
      (Scheduler.rests_of_drives (Scheduler.drives_setEngineDisabled engine disabled))
  | resets id group => exact follows.of_rests (Scheduler.rests_runDeferredResets id group)
  | alter operation alters =>
    exact follows.of_rests (alters.mono fun _ _ alters => alters.toStays.rests)
  | event injection => exact absurd isFor (asks injection)

end Session

end GpuSched
