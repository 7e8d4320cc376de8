import GpuSched.Proofs.Register.Submissions

/-!
# Registers of a channel

Each channel has a register for its instance block and one for its enable bit. Disabling a channel
clears the bit, whatever else is in the register, and unbinding it clears all of the other one.
-/
namespace GpuSched

open Operation

namespace Simulation

variable {sim : Simulation} {offset : Nat} {value : UInt32}

/-- A register of a channel takes the word that is written, or has its enable bit changed. -/
theorem write_channel (inside : 0x800000 ≤ offset) :
    sim.write offset value = sim.setWord offset
      (if controlsChannel offset then channelWord (sim.word offset) value else value) := by
  refine write_aside (.inr inside) ?_
  unfold RegisterBank.index?
  rw [List.find?_eq_none]
  intro index below found
  have few : index < 16 := List.mem_range.mp below
  have here : 0x2278 + index * 0x10 = offset := beq_iff_eq.mp found
  omega

/-- The bit that disables a channel clears the enable bit. -/
theorem channelWord_clear (word written : UInt32) :
    channelWord word (written ||| Register.channelEnableClear) &&&
      Register.channelEnableBit = 0 := by
  have kept : (written ||| Register.channelEnableClear) &&& Register.channelEnableClear =
      Register.channelEnableClear := by
    apply UInt32.eq_of_toBitVec_eq
    simp only [UInt32.toBitVec_and, UInt32.toBitVec_or]
    ext bit
    simp only [BitVec.getElem_and, BitVec.getElem_or]
    grind
  have cleared : ~~~Register.channelEnableBit &&& Register.channelEnableBit = 0 := by decide
  unfold channelWord
  rw [kept, if_neg (by decide), UInt32.and_assoc, cleared, UInt32.and_zero]

end Simulation

namespace Device

open Bus

variable {bus : Bus} {channel : Nat}

/-- The offset of the instance pointer of a channel. -/
def instanceOffset (channel : Nat) : Nat := 0x800000 + channel * 8

/-- The offset of the control word of a channel. -/
def controlOffset (channel : Nat) : Nat := 0x800004 + channel * 8

/-- A channel that is disabled has its enable bit cleared. -/
theorem disables_channel (inRange : channel < 4096) :
    (disableChannel channel).Yields bus
      (fun _ after => after.word (controlOffset channel) &&& Register.channelEnableBit = 0)
      fun _ _ => False := by
  have controls : Simulation.controlsChannel (controlOffset channel) = true := by
    unfold Simulation.controlsChannel controlOffset Register.channelControl
    simp
  unfold disableChannel
  rw [readSlot_eq (controlOffset channel) rfl (by unfold controlOffset; omega), yields_bind]
  refine Yields.imp (serves_read _) fun held changed _ => ?_
  rw [writeSlot_eq (controlOffset channel) rfl (by unfold controlOffset; omega)]
  unfold Bus.write
  rw [yields_modify]
  unfold Bus.word
  rw [Simulation.write_channel (by unfold controlOffset; omega), Simulation.word_setWord,
    if_pos rfl, if_pos controls]
  exact Simulation.channelWord_clear _ held

/-- A channel that is unbound has no instance block, and its control word stays. -/
theorem unbinds_channel (inRange : channel < 4096) :
    (unbindChannel channel).Yields bus
      (fun _ after => after.word (instanceOffset channel) = 0 ∧
        after.word (controlOffset channel) = bus.word (controlOffset channel))
      fun _ _ => False := by
  have plain : Simulation.controlsChannel (instanceOffset channel) = false := by
    unfold Simulation.controlsChannel instanceOffset Register.channelControl
    simp only [Bool.and_eq_false_iff, decide_eq_false_iff_not]
    omega
  unfold unbindChannel
  rw [writeSlot_eq (instanceOffset channel) rfl (by unfold instanceOffset; omega)]
  unfold Bus.write
  rw [yields_modify]
  unfold Bus.word
  rw [Simulation.write_channel (by unfold instanceOffset; omega), Simulation.word_setWord,
    Simulation.word_setWord, if_pos rfl, plain]
  refine ⟨rfl, if_neg ?_⟩
  unfold controlOffset instanceOffset
  omega

/-- A channel of the register space can be bound to an instance block. -/
theorem serves_bindChannel (inRange : channel < 4096) (physical : Nat) :
    Serves (bindChannel channel physical) bus {instanceOffset channel} fun _ => True := by
  unfold bindChannel
  rw [writeSlot_eq (instanceOffset channel) rfl (by unfold instanceOffset; omega)]
  exact serves_write _ _

/-- A channel of the register space can be enabled. -/
theorem serves_enableChannel (inRange : channel < 4096) :
    Serves (enableChannel channel) bus {controlOffset channel} fun _ => True := by
  have below : controlOffset channel < 0x100000000 := by
    unfold controlOffset
    omega
  unfold enableChannel
  rw [readSlot_eq (controlOffset channel) rfl below]
  refine ((serves_read _).mono (Set.empty_subset _) fun _ => id).bind fun _ _ _ _ => ?_
  rw [writeSlot_eq (controlOffset channel) rfl below]
  exact serves_write _ _

/-- Whether a channel of the register space is enabled can be read. -/
theorem serves_channelEnabled (inRange : channel < 4096) :
    Serves (channelEnabled channel) bus ∅ fun _ => True := by
  unfold channelEnabled
  rw [readSlot_eq (controlOffset channel) rfl (by unfold controlOffset; omega)]
  exact (serves_read _).bind fun _ _ _ _ => serves_pure trivial

end Device

end GpuSched
