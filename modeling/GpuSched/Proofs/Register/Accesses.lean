import GpuSched.Proofs.Contract
import GpuSched.Register.Device
import Mathlib.Data.Set.Insert

/-!
# What register accesses change

An access changes the word of the register that it writes and no other. So each operation of the
host interface has a set of registers outside of which it spares every word, and what it reads
there is what was there before. Within the numbers of the configuration no operation fails.
-/
namespace GpuSched

open Operation

namespace RegisterBank

variable {bank : RegisterBank} {count offset index : Nat}

/-- The register that a bank finds at an offset is one of the bank, and it stands there. -/
theorem of_index? (found : bank.index? count offset = some index) :
    index < count ∧ bank.base + index * bank.stride = offset :=
  ⟨List.mem_range.mp (List.mem_of_find?_eq_some found), beq_iff_eq.mp (List.find?_some found :)⟩

/-- A bank finds nothing at an offset where none of its registers stands. -/
theorem index?_eq_none (outside : ∀ index < count, bank.base + index * bank.stride ≠ offset) :
    bank.index? count offset = none := by
  cases found : bank.index? count offset with
  | none => rfl
  | some index =>
    obtain ⟨inRange, place⟩ := of_index? found
    exact absurd place (outside index inRange)

/-- A bank whose registers are apart finds each of them where it stands. -/
theorem index?_slot (apart : 0 < bank.stride) (inRange : index < count) :
    bank.index? count (bank.base + index * bank.stride) = some index := by
  unfold index?
  rw [List.find?_range_eq_some]
  refine ⟨beq_self_eq_true _, List.mem_range.mpr inRange, fun earlier below => ?_⟩
  have before : earlier * bank.stride < index * bank.stride :=
    Nat.mul_lt_mul_of_pos_right below apart
  rw [Bool.not_eq_true', beq_eq_false_iff_ne]
  omega

end RegisterBank

namespace Simulation

variable {sim : Simulation} {offset other : Nat} {value : UInt32}

/-- A read changes no word. -/
theorem word_read (sim : Simulation) (offset other : Nat) :
    (sim.read offset).2.word other = sim.word other := by
  unfold read
  split
  · rfl
  · split
    · rfl
    · rfl

/-- An offset outside the status registers of the runlists is in no slot of theirs. -/
theorem runlistStatus_index?_eq_none (outside : offset < 0x2400 ∨ 0x2480 ≤ offset) :
    Register.runlistStatus.index? Register.runlistCount offset = none := by
  refine RegisterBank.index?_eq_none fun index (inRange : index < 16) place => ?_
  have place : 0x2400 + index * 8 = offset := place
  omega

/-- A read of a register without a pending bit answers its word and changes nothing. -/
theorem read_of_plain (outside : offset < 0x2400 ∨ 0x2480 ≤ offset)
    (apart : offset ≠ Register.preempt) : sim.read offset = (sim.word offset, sim) := by
  unfold read
  rw [runlistStatus_index?_eq_none outside]
  simp only
  rw [if_neg apart]

/-- A write changes the word at its offset alone. -/
theorem word_write_of_ne (apart : other ≠ offset) :
    (sim.write offset value).word other = sim.word other := by
  have aside : ∀ (changed : Simulation) (word : UInt32), changed.words = sim.words →
      (changed.setWord offset word).word other = sim.word other := by
    intro changed word same
    rw [word_setWord, if_neg apart, Simulation.word, same, ← Simulation.word]
  unfold write
  split
  · exact aside sim value rfl
  · split
    · rename_i atPreempt
      subst atPreempt
      exact aside sim _ rfl
    · split
      · exact aside sim _ rfl
      · split
        · rename_i atEnable
          subst atEnable
          unfold enableUnits
          dsimp only
          split
          · exact aside _ _ rfl
          · exact aside _ _ rfl
        · split
          · exact aside sim _ rfl
          · exact aside sim _ rfl

end Simulation

/-- A slot that lies in the register space has its offset. -/
theorem RegisterBank.slot_eq {bank : RegisterBank} {index : Nat} (offset : Nat)
    (place : bank.base + index * bank.stride = offset) (inSpace : offset < 0x100000000) :
    bank.slot index = .ok offset := by
  unfold slot
  rw [place]
  exact Checked.fit_of_lt inSpace

namespace Bus

variable {bus before middle after : Bus} {touched wider : Set Nat}

/-- The word of a register. -/
def word (bus : Bus) (offset : Nat) : UInt32 := bus.hardware.word offset

/-- The words outside of a set of registers are the same. -/
def Spares (touched : Set Nat) (before after : Bus) : Prop :=
  ∀ offset, offset ∉ touched → after.word offset = before.word offset

/-- No access spares everything. -/
theorem Spares.refl (touched : Set Nat) (bus : Bus) : Spares touched bus bus := fun _ _ => rfl

/-- Two steps spare what each of them spares. -/
theorem Spares.trans (one : Spares touched before middle) (two : Spares touched middle after) :
    Spares touched before after := by
  intro offset outside
  rw [two offset outside, one offset outside]

/-- What spares more spares less. -/
theorem Spares.mono (spares : Spares touched before after) (within : touched ⊆ wider) :
    Spares wider before after :=
  fun offset outside => spares offset fun inside => outside (within inside)

/-- An operation of the hardware that answers, spares all but some words, and answers with a
property. -/
def Serves {α : Type} (operation : Operation Bus α) (bus : Bus) (touched : Set Nat)
    (answer : α → Prop) : Prop :=
  operation.Yields bus (fun value changed => answer value ∧ Spares touched bus changed)
    fun _ _ => False

variable {α β : Type} {answer : α → Prop}

/-- An answer that is given at once. -/
theorem serves_pure {value : α} (holds : answer value) :
    Serves (pure value : Operation Bus α) bus touched answer :=
  ⟨holds, .refl touched bus⟩

/-- One operation after another. -/
theorem Serves.bind {operation : Operation Bus α} {next : α → Operation Bus β}
    {result : β → Prop} (first : Serves operation bus touched answer)
    (second : ∀ value changed, answer value → Spares touched bus changed →
      Serves (next value) changed touched result) :
    Serves (operation >>= next) bus touched result := by
  unfold Serves
  rw [yields_bind]
  refine Yields.imp first fun value changed ⟨holds, spares⟩ => ?_
  refine Yields.imp (second value changed holds spares) fun _ _ ⟨holds, later⟩ => ?_
  exact ⟨holds, spares.trans later⟩

/-- A weaker promise. -/
theorem Serves.mono {operation : Operation Bus α} {weaker : α → Prop}
    (serves : Serves operation bus touched answer) (within : touched ⊆ wider)
    (implied : ∀ value, answer value → weaker value) :
    Serves operation bus wider weaker :=
  Yields.imp serves fun value _ ⟨holds, spares⟩ => ⟨implied value holds, spares.mono within⟩

/-- A read touches nothing. -/
theorem serves_read (offset : Nat) : Serves (Bus.read offset) bus ∅ fun _ => True :=
  ⟨trivial, fun other _ => Simulation.word_read bus.hardware offset other⟩

/-- A read of a register without a pending bit answers its word. -/
theorem serves_read_plain {offset : Nat} (outside : offset < 0x2400 ∨ 0x2480 ≤ offset)
    (apart : offset ≠ Register.preempt) :
    Serves (Bus.read offset) bus ∅ (· = bus.word offset) := by
  refine ⟨?_, fun other _ => Simulation.word_read bus.hardware offset other⟩
  change (bus.hardware.read offset).1 = _
  rw [Simulation.read_of_plain outside apart]
  rfl

/-- A write touches the register that it writes. -/
theorem serves_write (offset : Nat) (value : UInt32) :
    Serves (Bus.write offset value) bus {offset} fun _ => True :=
  ⟨trivial, fun _ outside => Simulation.word_write_of_ne outside⟩

/-- The slots of a bank that lie in the register space can be read. -/
theorem readSlot_eq {bank : RegisterBank} {index : Nat} (offset : Nat)
    (place : bank.base + index * bank.stride = offset) (inSpace : offset < 0x100000000) :
    readSlot bank index = read offset := by
  unfold readSlot
  rw [RegisterBank.slot_eq offset place inSpace]
  rfl

/-- The slots of a bank that lie in the register space can be written. -/
theorem writeSlot_eq {bank : RegisterBank} {index : Nat} {value : UInt32} (offset : Nat)
    (place : bank.base + index * bank.stride = offset) (inSpace : offset < 0x100000000) :
    writeSlot bank index value = write offset value := by
  unfold writeSlot
  rw [RegisterBank.slot_eq offset place inSpace]
  rfl

end Bus

namespace Device

open Bus

variable {bus : Bus}

/-- The registers through which lists are handed over. -/
def listRegisters : Set Nat := {offset | 0x2270 ≤ offset ∧ offset < 0x2370}

/-- A list can be handed over to each runlist that has registers. -/
theorem serves_submitRunlist {runlist : Nat} (inRange : runlist < Register.runlistCount)
    (base count : Nat) :
    Serves (submitRunlist runlist base count) bus listRegisters fun _ => True := by
  have below : runlist < 16 := inRange
  have inside : ∀ offset, 0x2270 ≤ offset → offset < 0x2370 → ∀ value (bus : Bus),
      Serves (Bus.write offset value) bus listRegisters fun _ => True := by
    intro offset least most value bus
    refine (serves_write offset value).mono ?_ fun _ => id
    exact Set.singleton_subset_iff.mpr ⟨least, most⟩
  unfold submitRunlist
  dsimp only
  rw [writeSlot_eq (0x2270 + runlist * 0x10) rfl (by omega),
    writeSlot_eq (0x2274 + runlist * 0x10) rfl (by omega),
    writeSlot_eq (0x2278 + runlist * 0x10) rfl (by omega)]
  split
  · refine (inside _ (by omega) (by omega) _ bus).bind fun _ changed _ _ => ?_
    refine (inside _ (by omega) (by omega) _ changed).bind fun _ changed _ _ => ?_
    exact inside _ (by omega) (by omega) _ changed
  · exact inside _ (by omega) (by omega) _ bus

/-- The pending bit of each runlist that has registers can be read. -/
theorem serves_runlistPending {runlist : Nat} (inRange : runlist < Register.runlistCount) :
    Serves (runlistPending runlist) bus ∅ fun _ => True := by
  have below : runlist < 16 := inRange
  unfold runlistPending
  rw [readSlot_eq (0x2400 + runlist * 8) rfl (by omega)]
  exact (serves_read _).bind fun _ _ _ _ => serves_pure trivial

/-- The disable bits of runlists can be changed. -/
theorem serves_setSchedulerDisabled (runlists : UInt32) (disabled : Bool) :
    Serves (setSchedulerDisabled runlists disabled) bus {Register.schedulerDisable}
      fun _ => True :=
  ((serves_read _).mono (Set.empty_subset _) fun _ => id).bind fun _ _ _ _ => serves_write _ _

/-- Scheduling can be resumed. -/
theorem serves_resumeAfterFault :
    Serves resumeAfterFault bus {Register.faultHalt} fun _ => True :=
  ((serves_read _).mono (Set.empty_subset _) fun _ => id).bind fun _ _ _ _ => serves_write _ _

/-- Every unit that has an enable bit can be reset. -/
theorem serves_resetUnit {unit : Nat} (inWord : unit < 32) :
    Serves (resetUnit unit) bus {Register.unitEnable} fun _ => True := by
  have reads : ∀ bus, Serves (Bus.read Register.unitEnable) bus {Register.unitEnable}
      fun _ => True :=
    fun bus => (serves_read _).mono (Set.empty_subset _) fun _ => id
  unfold resetUnit
  rw [Checked.bit32_of_lt inWord]
  refine (serves_pure trivial : Serves (pure _) bus _ fun _ => True).bind fun _ bus _ _ => ?_
  refine (reads bus).bind fun _ bus _ _ => ?_
  refine (serves_write _ _).bind fun _ bus _ _ => ?_
  exact (reads bus).bind fun _ _ _ _ => serves_write _ _

/-- The offset of the status word of an engine. -/
def engineStatusOffset (engine : Nat) : Nat := 0x2640 + engine * 8

/-- The offset of the status word of a PBDMA. -/
def pbdmaStatusOffset (pbdma : Nat) : Nat := 0x3080 + pbdma * 4

/-- The offset of the interrupts of a PBDMA. -/
def pbdmaInterruptOffset (pbdma : Nat) : Nat := 0x40108 + pbdma * 0x2000

/-- The words latched for a fault. -/
def latchedWords (bus : Bus) (faultId : Nat) : FaultWords where
  inst := bus.word (0x2800 + faultId * 16)
  addressLow := bus.word (0x2804 + faultId * 16)
  addressHigh := bus.word (0x2808 + faultId * 16)
  info := bus.word (0x280c + faultId * 16)

/-- The status word of an engine is read as it is. -/
theorem serves_engineStatus {engine : Nat} (inRange : engine < 32) :
    Serves (engineStatus engine) bus ∅ (· = bus.word (engineStatusOffset engine)) := by
  unfold engineStatus
  rw [readSlot_eq (engineStatusOffset engine) rfl (by unfold engineStatusOffset; omega)]
  apply serves_read_plain
  · right
    unfold engineStatusOffset
    omega
  · unfold engineStatusOffset Register.preempt
    omega

/-- The status word of a PBDMA is read as it is. -/
theorem serves_pbdmaStatus {pbdma : Nat} (inRange : pbdma < 32) :
    Serves (pbdmaStatus pbdma) bus ∅ (· = bus.word (pbdmaStatusOffset pbdma)) := by
  unfold pbdmaStatus
  rw [readSlot_eq (pbdmaStatusOffset pbdma) rfl (by unfold pbdmaStatusOffset; omega)]
  apply serves_read_plain
  · right
    unfold pbdmaStatusOffset
    omega
  · unfold pbdmaStatusOffset Register.preempt
    omega

/-- The interrupts of a PBDMA are read as they are. -/
theorem serves_pbdmaInterrupts {pbdma : Nat} (inRange : pbdma < 32) :
    Serves (pbdmaInterrupts pbdma) bus ∅ (· = bus.word (pbdmaInterruptOffset pbdma)) := by
  unfold pbdmaInterrupts
  rw [readSlot_eq (pbdmaInterruptOffset pbdma) rfl (by unfold pbdmaInterruptOffset; omega)]
  apply serves_read_plain
  · right
    unfold pbdmaInterruptOffset
    omega
  · unfold pbdmaInterruptOffset Register.preempt
    omega

/-- The interrupts of a PBDMA can be acknowledged. -/
theorem serves_clearPbdmaInterrupts {pbdma : Nat} (inRange : pbdma < 32) (bits : UInt32) :
    Serves (clearPbdmaInterrupts pbdma bits) bus {pbdmaInterruptOffset pbdma} fun _ => True := by
  unfold clearPbdmaInterrupts
  rw [writeSlot_eq (pbdmaInterruptOffset pbdma) rfl (by unfold pbdmaInterruptOffset; omega)]
  exact serves_write _ _

/-- The latched words of a fault are read as they are. -/
theorem serves_faultWords {faultId : Nat} (inRange : faultId < 32) :
    Serves (faultWords faultId) bus ∅ (· = latchedWords bus faultId) := by
  have plain : ∀ offset, 0x2800 ≤ offset → offset < 0x2a00 → ∀ bus,
      Serves (Bus.read offset) bus ∅ (· = bus.word offset) := by
    intro offset least most bus
    refine serves_read_plain (by omega) ?_
    unfold Register.preempt
    omega
  unfold faultWords
  rw [readSlot_eq (0x2800 + faultId * 16) rfl (by omega),
    readSlot_eq (0x2804 + faultId * 16) rfl (by omega),
    readSlot_eq (0x2808 + faultId * 16) rfl (by omega),
    readSlot_eq (0x280c + faultId * 16) rfl (by omega)]
  refine (plain _ (by omega) (by omega) bus).bind fun inst first instEq spares => ?_
  refine (plain _ (by omega) (by omega) first).bind fun low second lowEq later => ?_
  replace later := spares.trans later
  refine (plain _ (by omega) (by omega) second).bind fun high third highEq last => ?_
  replace last := later.trans last
  refine (plain _ (by omega) (by omega) third).bind fun info fourth infoEq _ => ?_
  apply serves_pure
  rw [instEq, lowEq, highEq, infoEq, spares _ (Set.notMem_empty _), later _ (Set.notMem_empty _),
    last _ (Set.notMem_empty _)]
  rfl

/-- The pending faults are read as they are. -/
theorem serves_pendingFaults :
    Serves pendingFaults bus ∅ (· = bus.word Register.faultPending) :=
  serves_read_plain (by decide) (by decide)

/-- Faults can be acknowledged. -/
theorem serves_clearFaults (mask : UInt32) :
    Serves (clearFaults mask) bus {Register.faultPending} fun _ => True :=
  serves_write _ _

/-- The scheduler error is read as it is. -/
theorem serves_schedulerErrorCode :
    Serves schedulerErrorCode bus ∅ (· = bus.word Register.schedulerError) :=
  serves_read_plain (by decide) (by decide)

/-- The pending PBDMA units are read as they are. -/
theorem serves_pendingPbdmas :
    Serves pendingPbdmas bus ∅ (· = bus.word Register.pbdmaPending) :=
  serves_read_plain (by decide) (by decide)

/-- PBDMA units can be acknowledged. -/
theorem serves_clearPbdmas (mask : UInt32) :
    Serves (clearPbdmas mask) bus {Register.pbdmaPending} fun _ => True :=
  serves_write _ _

/-- Interrupts can be acknowledged. -/
theorem serves_clearInterrupts (bits : UInt32) :
    Serves (clearInterrupts bits) bus {Register.interrupt} fun _ => True :=
  serves_write _ _

end Device

end GpuSched
