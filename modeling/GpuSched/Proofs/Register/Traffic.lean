import GpuSched.Proofs.Register.Masks
import GpuSched.Proofs.Register.Pickups

/-!
# Accesses beside submissions

What a driver does between two submissions leaves the lists that were handed over and the reports of
the hardware alone, and the record of accesses only grows. Most of it leaves the disable bits of the
runlists alone as well. A reset of a unit stands in the record as a pulse: four accesses of the
register of unit enables in a row, the second of which lowers the bit of the unit and the last of
which raises it.
-/
namespace GpuSched

open Operation

namespace Bus

variable {before middle after bus : Bus} {offset : Nat} {value : UInt32}

/-- What the hardware reports, status words and latched faults, stays as it is. -/
def Reports (before after : Bus) : Prop :=
  ∀ offset, 0x2640 ≤ offset → offset < 0x40108 → after.word offset = before.word offset

/-- No list is handed over and no report changes. -/
structure Stays (before after : Bus) : Prop where
  rests : ∀ runlist, Rests runlist before after
  submissions : after.hardware.submissions = before.hardware.submissions
  reports : Reports before after
  /-- The accesses made before stay in the record, the latest first. -/
  grows : before.accesses <:+ after.accesses

/-- The disable bits of the runlists stay as well. -/
structure Idles (before after : Bus) : Prop extends Stays before after where
  disabled : after.word Register.schedulerDisable = before.word Register.schedulerDisable

/-- The reports of the hardware and the disable bits stay, also where lists are handed over. -/
structure Relays (before after : Bus) : Prop where
  reports : Reports before after
  disabled : after.word Register.schedulerDisable = before.word Register.schedulerDisable
  grows : before.accesses <:+ after.accesses

/-- Reports that stay twice stay. -/
theorem Reports.trans (one : Reports before middle) (two : Reports middle after) :
    Reports before after :=
  fun offset least most => (two offset least most).trans (one offset least most)

instance : IsPreorder Bus Stays where
  refl _ := ⟨fun _ => .refl _ _, rfl, fun _ _ _ => rfl, List.suffix_rfl⟩
  trans _ _ _ one two :=
    ⟨fun runlist => (one.rests runlist).trans (two.rests runlist),
      two.submissions.trans one.submissions, one.reports.trans two.reports,
      one.grows.trans two.grows⟩

instance : IsPreorder Bus Idles where
  refl _ := ⟨Std.Refl.refl _, rfl⟩
  trans _ _ _ one two :=
    ⟨IsTrans.trans _ _ _ one.toStays two.toStays, two.disabled.trans one.disabled⟩

instance : IsPreorder Bus Relays where
  refl _ := ⟨fun _ _ _ => rfl, rfl, List.suffix_rfl⟩
  trans _ _ _ one two :=
    ⟨one.reports.trans two.reports, two.disabled.trans one.disabled, one.grows.trans two.grows⟩

/-- A read. -/
theorem idles_read (offset : Nat) : Respects Idles (Bus.read offset) := by
  intro bus
  refine ⟨⟨fun runlist => rests_read runlist offset bus, ?_, fun other _ _ => ?_, ?_⟩, ?_⟩
  · change (bus.hardware.read offset).2.submissions = _
    unfold Simulation.read
    split
    · rfl
    · split
      · rfl
      · rfl
  · exact Simulation.word_read bus.hardware offset other
  · exact List.suffix_cons _ _
  · exact Simulation.word_read bus.hardware offset _

/-- A read of a register of a bank. -/
theorem idles_readSlot (bank : RegisterBank) (index : Nat) :
    Respects Idles (Bus.readSlot bank index) :=
  (respects_lift _).bind fun offset => idles_read offset

/-- A write that hands nothing over adds nothing to the record of submissions. -/
theorem submissions_write
    (apart : Register.runlistSubmit.index? Register.runlistCount offset = none)
    (sim : Simulation) : (sim.write offset value).submissions = sim.submissions := by
  unfold Simulation.write
  rw [apart]
  dsimp only
  split
  · rfl
  · split
    · rfl
    · split
      · unfold Simulation.enableUnits
        dsimp only
        split
        · rfl
        · rfl
      · split
        · rfl
        · rfl

/-- A write that hands nothing over and reports nothing. -/
theorem stays_write (apart : Register.runlistSubmit.index? Register.runlistCount offset = none)
    (noReport : offset < 0x2640 ∨ 0x40108 ≤ offset) (value : UInt32) :
    Respects Stays (Bus.write offset value) := by
  refine fun bus => ⟨fun runlist => rests_write apart runlist value bus,
    submissions_write apart bus.hardware, fun other least most => ?_, List.suffix_cons _ _⟩
  exact Simulation.word_write_of_ne (by omega)

/-- A write that leaves the disable bits alone as well. -/
theorem idles_write (apart : Register.runlistSubmit.index? Register.runlistCount offset = none)
    (noReport : offset < 0x2640 ∨ 0x40108 ≤ offset) (other : Register.schedulerDisable ≠ offset)
    (value : UInt32) : Respects Idles (Bus.write offset value) :=
  fun bus => ⟨stays_write apart noReport value bus, Simulation.word_write_of_ne other⟩

/-- The banks past the reports. -/
theorem idles_writeSlot {bank : RegisterBank} (past : 0x40108 ≤ bank.base) (index : Nat)
    (value : UInt32) : Respects Idles (Bus.writeSlot bank index value) := by
  intro bus
  unfold Bus.writeSlot
  cases slot : bank.slot index with
  | error failure => exact Std.Refl.refl bus
  | ok offset =>
    obtain ⟨_, rfl⟩ := Checked.fit_eq_ok_iff.mp slot
    have later : 0x40108 ≤ bank.base + index * bank.stride := by omega
    refine idles_write ?_ (.inr later) ?_ value bus
    · refine RegisterBank.index?_eq_none fun other (few : other < 16) here => ?_
      have here : 0x2278 + other * 0x10 = bank.base + index * bank.stride := here
      omega
    · unfold Register.schedulerDisable
      omega

/-- The registers by which a list is handed over. -/
theorem relays_writeSlot {bank : RegisterBank} {index : Nat}
    (place : bank.base + index * bank.stride < Register.schedulerDisable) (value : UInt32) :
    Respects Relays (Bus.writeSlot bank index value) := by
  have before : bank.base + index * bank.stride < 0x2630 := place
  intro bus
  unfold Bus.writeSlot
  cases slot : bank.slot index with
  | error failure => exact Std.Refl.refl bus
  | ok offset =>
    obtain ⟨_, rfl⟩ := Checked.fit_eq_ok_iff.mp slot
    have apart : ∀ other, 0x2630 ≤ other → other ≠ bank.base + index * bank.stride :=
      fun other least => by omega
    exact ⟨fun other least _ => Simulation.word_write_of_ne (apart other (by omega)),
      Simulation.word_write_of_ne (apart _ (by decide)), List.suffix_cons _ _⟩

end Bus

namespace Device

open Bus

variable {bus : Bus}

/-- A list is handed over. -/
theorem relays_submitRunlist {runlist : Nat} (inRange : runlist < Register.runlistCount)
    (base count : Nat) : Respects Relays (submitRunlist runlist base count) := by
  have below : runlist < 16 := inRange
  have low : 0x2270 + runlist * 0x10 < Register.schedulerDisable := by
    unfold Register.schedulerDisable
    omega
  have high : 0x2274 + runlist * 0x10 < Register.schedulerDisable := by
    unfold Register.schedulerDisable
    omega
  have submit : 0x2278 + runlist * 0x10 < Register.schedulerDisable := by
    unfold Register.schedulerDisable
    omega
  unfold submitRunlist
  dsimp only
  split
  · refine (relays_writeSlot low _).bind fun _ => (relays_writeSlot high _).bind fun _ => ?_
    exact relays_writeSlot submit _
  · exact relays_writeSlot submit _

/-- The latched words of a fault are read. -/
theorem idles_faultWords (faultId : Nat) : Respects Idles (faultWords faultId) := by
  refine (idles_readSlot _ _).bind fun inst => (idles_readSlot _ _).bind fun low => ?_
  exact (idles_readSlot _ _).bind fun high => (idles_readSlot _ _).bind fun info =>
    respects_pure _

/-- Faults are acknowledged. -/
theorem idles_clearFaults (mask : UInt32) : Respects Idles (clearFaults mask) :=
  idles_write (by decide) (by decide) (by decide) mask

/-- Scheduling is resumed. -/
theorem idles_resumeAfterFault : Respects Idles resumeAfterFault :=
  (idles_read _).bind fun _ => idles_write (by decide) (by decide) (by decide) _

/-- Interrupts of a PBDMA are acknowledged. -/
theorem idles_clearPbdmaInterrupts (pbdma : Nat) (bits : UInt32) :
    Respects Idles (clearPbdmaInterrupts pbdma bits) :=
  idles_writeSlot (by decide) pbdma bits

/-- PBDMA units are acknowledged. -/
theorem idles_clearPbdmas (mask : UInt32) : Respects Idles (clearPbdmas mask) :=
  idles_write (by decide) (by decide) (by decide) mask

/-- Interrupts are acknowledged. -/
theorem idles_clearInterrupts (bits : UInt32) : Respects Idles (clearInterrupts bits) :=
  idles_write (by decide) (by decide) (by decide) bits

/-- A preempt is requested. -/
theorem idles_issuePreempt (target : Target) : Respects Idles (issuePreempt target) :=
  idles_write (by decide) (by decide) (by decide) _

/-- The pending bit of the preempt request is read. -/
theorem idles_preemptPending : Respects Idles preemptPending :=
  (idles_read _).bind fun _ => respects_pure _

/-- The pending bit of a runlist is read. -/
theorem idles_runlistPending (runlist : Nat) : Respects Idles (runlistPending runlist) :=
  (idles_readSlot _ _).bind fun _ => respects_pure _

/-- A channel is bound. -/
theorem idles_bindChannel (channel physical : Nat) :
    Respects Idles (bindChannel channel physical) :=
  idles_writeSlot (by decide) channel _

/-- A channel is unbound. -/
theorem idles_unbindChannel (channel : Nat) : Respects Idles (unbindChannel channel) :=
  idles_writeSlot (by decide) channel _

/-- A channel is enabled. -/
theorem idles_enableChannel (channel : Nat) : Respects Idles (enableChannel channel) :=
  (idles_readSlot _ channel).bind fun _ => idles_writeSlot (by decide) channel _

/-- A channel is disabled. -/
theorem idles_disableChannel (channel : Nat) : Respects Idles (disableChannel channel) :=
  (idles_readSlot _ channel).bind fun _ => idles_writeSlot (by decide) channel _

/-- The enable bit of a channel is read. -/
theorem idles_channelEnabled (channel : Nat) : Respects Idles (channelEnabled channel) :=
  (idles_readSlot _ channel).bind fun _ => respects_pure _

/-- The disable bits of runlists are changed. -/
theorem stays_setSchedulerDisabled (runlists : UInt32) (disabled : Bool) :
    Respects Stays (setSchedulerDisabled runlists disabled) :=
  ((idles_read _).mono fun _ _ => Idles.toStays).bind fun _ =>
    stays_write (by decide) (by decide) _

/-- What is written to the register of disable bits stays there. -/
theorem write_schedulerDisable (sim : Simulation) (value : UInt32) :
    sim.write Register.schedulerDisable value = sim.setWord Register.schedulerDisable value := by
  have noList : Register.runlistSubmit.index? Register.runlistCount Register.schedulerDisable =
      none := by decide
  have plain : Simulation.clearsOnWrite Register.schedulerDisable = false := by decide
  have noChannel : Simulation.controlsChannel Register.schedulerDisable = false := by decide
  unfold Simulation.write
  rw [noList]
  dsimp only
  rw [if_neg (by decide), plain, noChannel, if_neg (by decide), if_neg (by decide),
    if_neg (by decide)]

/-- The disable bits after some were set or cleared. -/
theorem yields_setSchedulerDisabled (runlists : UInt32) (disabled : Bool) :
    (setSchedulerDisabled runlists disabled).Yields bus
      (fun _ after => after.word Register.schedulerDisable =
        if disabled then bus.word Register.schedulerDisable ||| runlists
        else bus.word Register.schedulerDisable &&& ~~~runlists)
      fun _ _ => False := by
  have plain : bus.hardware.read Register.schedulerDisable =
      (bus.word Register.schedulerDisable, bus.hardware) :=
    Simulation.read_of_plain (by decide) (by decide)
  unfold setSchedulerDisabled Bus.read Bus.write
  simp only [yields_bind, yields_get, yields_set, yields_pure, yields_modify]
  rw [plain]
  dsimp only
  unfold Bus.word
  rw [write_schedulerDisable, Simulation.word_setWord, if_pos rfl]

/-- The accesses of a reset, the latest first. -/
def pulse (mask current seen : UInt32) : List Access :=
  [.write Register.unitEnable (current ||| mask), .read Register.unitEnable seen,
    .write Register.unitEnable (current &&& ~~~mask), .read Register.unitEnable current]

/-- A unit was pulsed through reset in the course of some accesses. -/
def Pulsed (unit : Nat) (accesses : List Access) : Prop :=
  ∃ mask current seen, Checked.bit32 unit = .ok mask ∧ pulse mask current seen <:+: accesses

/-- More accesses hold every pulse. -/
theorem Pulsed.mono {unit : Nat} {accesses wider : List Access} (pulsed : Pulsed unit accesses)
    (within : accesses <:+: wider) : Pulsed unit wider := by
  obtain ⟨mask, current, seen, bit, inside⟩ := pulsed
  exact ⟨mask, current, seen, bit, inside.trans within⟩

/-- A unit is pulsed through reset from one state to another. -/
def Pulses (unit : Nat) (before after : Bus) : Prop :=
  ∃ since, after.accesses = since ++ before.accesses ∧ Pulsed unit since

/-- What is pulsed is pulsed from earlier on. -/
theorem Pulses.earlier {unit : Nat} {before middle after : Bus}
    (grows : before.accesses <:+ middle.accesses) (pulses : Pulses unit middle after) :
    Pulses unit before after := by
  obtain ⟨earlier, first⟩ := grows
  obtain ⟨since, last, pulsed⟩ := pulses
  refine ⟨since ++ earlier, ?_, pulsed.mono ⟨[], earlier, by simp⟩⟩
  rw [last, ← first, List.append_assoc]

/-- What is pulsed stays pulsed. -/
theorem Pulses.later {unit : Nat} {before middle after : Bus}
    (pulses : Pulses unit before middle) (grows : middle.accesses <:+ after.accesses) :
    Pulses unit before after := by
  obtain ⟨since, first, pulsed⟩ := pulses
  obtain ⟨later, last⟩ := grows
  refine ⟨later ++ since, ?_, pulsed.mono ⟨later, [], by simp⟩⟩
  rw [← last, first, List.append_assoc]

/-- A reset leaves lists, reports and disable bits alone. -/
theorem idles_resetUnit (unit : Nat) : Respects Idles (resetUnit unit) := by
  have writes : ∀ value, Respects Idles (Bus.write Register.unitEnable value) :=
    idles_write (by decide) (by decide) (by decide)
  refine (respects_lift _).bind fun mask => (idles_read _).bind fun current => ?_
  exact (writes _).bind fun _ => (idles_read _).bind fun _ => writes _

/-- A unit that is reset is pulsed. -/
theorem yields_resetUnit (unit : Nat) :
    (resetUnit unit).Yields bus
      (fun _ after => Pulses unit bus after) fun _ _ => True := by
  unfold resetUnit
  rw [yields_bind, yields_lift]
  cases bit : Checked.bit32 unit with
  | error failure => trivial
  | ok mask =>
    unfold Bus.read Bus.write
    simp only [yields_bind, yields_get, yields_set, yields_pure, yields_modify]
    exact ⟨pulse mask _ _, rfl, mask, _, _, bit, List.infix_rfl⟩

end Device

end GpuSched
