import GpuSched.Proofs.Register.Accesses

/-!
# Submitted lists

A list is handed over by two writes for the page of its buffer and one for its length. The hardware
puts the address together again and logs it with the length. The log holds the address without the
bits that lie below a page, and of the length what the field of the register holds.
-/
namespace GpuSched

open Operation

namespace Simulation

variable {sim : Simulation} {runlist offset : Nat} {value : UInt32}

/-- The register that hands a list over belongs to the runlist of the list. -/
theorem runlistSubmit_index?_slot (inRange : runlist < 16) :
    Register.runlistSubmit.index? Register.runlistCount (0x2278 + runlist * 0x10) =
      some runlist :=
  RegisterBank.index?_slot (by decide) inRange

/-- The registers that hold the address of a list hand nothing over. -/
theorem runlistSubmit_index?_eq_none (apart : offset % 0x10 ≠ 8) :
    Register.runlistSubmit.index? Register.runlistCount offset = none := by
  refine RegisterBank.index?_eq_none fun index _ place => ?_
  have place : 0x2278 + index * 0x10 = offset := place
  omega

/-- A register of a list or of a channel takes the word that is written, if no list is handed over;
the word of a channel says how its enable bit changes. -/
theorem write_aside (place : 0x2270 ≤ offset ∧ offset < 0x2370 ∨ 0x800000 ≤ offset)
    (apart : Register.runlistSubmit.index? Register.runlistCount offset = none) :
    sim.write offset value = sim.setWord offset
      (if controlsChannel offset then channelWord (sim.word offset) value else value) := by
  have notPbdma : Register.pbdmaInterrupt.index? Register.pbdmaCount offset = none := by
    refine RegisterBank.index?_eq_none fun index (few : index < 8) here => ?_
    have here : 0x40108 + index * 0x2000 = offset := here
    omega
  have keeps : clearsOnWrite offset = false := by
    unfold clearsOnWrite Register.interrupt Register.faultPending Register.faultHalt
      Register.pbdmaPending
    rw [notPbdma]
    simp only [Option.isSome_none, Bool.or_false, Bool.or_eq_false_iff, decide_eq_false_iff_not]
    omega
  have notPreempt : offset ≠ Register.preempt := by
    unfold Register.preempt
    omega
  have notEnable : offset ≠ Register.unitEnable := by
    unfold Register.unitEnable
    omega
  unfold write
  rw [apart]
  simp only [if_neg notPreempt, keeps, if_neg notEnable, Bool.false_eq_true, if_false]
  split
  · rfl
  · rfl

/-- A register of an address takes the word that is written, and nothing else happens. -/
theorem write_listBase (least : 0x2270 ≤ offset) (most : offset < 0x2370)
    (apart : offset % 0x10 ≠ 8) : sim.write offset value = sim.setWord offset value := by
  have noChannel : controlsChannel offset = false := by
    have outside : ¬0x800004 ≤ offset := by omega
    unfold controlsChannel
    rw [Bool.and_eq_false_iff]
    exact .inl (decide_eq_false outside)
  rw [write_aside (.inl ⟨least, most⟩) (runlistSubmit_index?_eq_none apart), noChannel]
  rfl

/-- A written length hands the list over. -/
theorem write_submit (inRange : runlist < 16) :
    sim.write (0x2278 + runlist * 0x10) value =
      sim.submit runlist (0x2278 + runlist * 0x10) value := by
  unfold write
  rw [runlistSubmit_index?_slot inRange]

/-- A change of one word submits nothing. -/
@[simp] theorem submissions_setWord (sim : Simulation) (offset : Nat) (value : UInt32) :
    (sim.setWord offset value).submissions = sim.submissions := rfl

/-- A submission is logged with the address that the address registers hold. -/
theorem submissions_submit (sim : Simulation) (runlist offset : Nat) (value : UInt32) :
    (sim.submit runlist offset value).submissions =
      ⟨runlist, ((sim.word (0x2274 + runlist * 0x10)).toNat * Checked.limit32 +
          (sim.word (0x2270 + runlist * 0x10)).toNat) * Register.pageSize % Checked.limit64,
        (value &&& Register.entryCountMask).toNat⟩ :: sim.submissions := rfl

/-- The halves of a page number give back as much of the address of the page as 64 bits hold. -/
theorem address_of_halves (page : Nat) :
    ((UInt32.ofNat (page / Checked.limit32)).toNat * Checked.limit32 +
        (UInt32.ofNat page).toNat) * Register.pageSize % Checked.limit64 =
      page * Register.pageSize % Checked.limit64 := by
  unfold Checked.limit32 Checked.limit64 Register.pageSize
  rw [UInt32.toNat_ofNat', UInt32.toNat_ofNat']
  omega

/-- The length field holds a length modulo its width. -/
theorem length_field (count : Nat) :
    (UInt32.ofNat count &&& Register.entryCountMask &&& Register.entryCountMask).toNat =
      count % 0x10000 := by
  rw [UInt32.and_assoc, UInt32.and_self, UInt32.toNat_and, UInt32.toNat_ofNat']
  change count % 2 ^ 32 &&& (2 ^ 16 - 1) = count % 0x10000
  rw [Nat.and_two_pow_sub_one_eq_mod]
  omega

end Simulation

namespace Device

open Bus

variable {bus : Bus}

/-- The page of an address and the length of a list are logged when the list is handed over. The
address registers keep an earlier address where the list is empty. -/
theorem yields_submitRunlist {runlist : Nat} (inRange : runlist < Register.runlistCount)
    (physical count : Nat) :
    (submitRunlist runlist physical count).Yields bus
      (fun _ after => ∃ base,
        after.hardware.submissions =
          ⟨runlist, base, count % 0x10000⟩ :: bus.hardware.submissions ∧
        (count ≠ 0 → base = (physical - physical % Register.pageSize) % Checked.limit64))
      fun _ _ => False := by
  have below : runlist < 16 := inRange
  have pages : physical / Register.pageSize * Register.pageSize =
      physical - physical % Register.pageSize := by
    have split := Nat.div_add_mod' physical Register.pageSize
    omega
  have low : ∀ (sim : Simulation) (value : UInt32), sim.write (0x2270 + runlist * 0x10) value =
      sim.setWord (0x2270 + runlist * 0x10) value :=
    fun _ _ => Simulation.write_listBase (by omega) (by omega) (by omega)
  have high : ∀ (sim : Simulation) (value : UInt32), sim.write (0x2274 + runlist * 0x10) value =
      sim.setWord (0x2274 + runlist * 0x10) value :=
    fun _ _ => Simulation.write_listBase (by omega) (by omega) (by omega)
  unfold submitRunlist
  dsimp only
  rw [writeSlot_eq (0x2270 + runlist * 0x10) rfl (by omega),
    writeSlot_eq (0x2274 + runlist * 0x10) rfl (by omega),
    writeSlot_eq (0x2278 + runlist * 0x10) rfl (by omega)]
  split
  · unfold Bus.write
    simp only [yields_bind, yields_modify]
    rw [low, high, Simulation.write_submit below, Simulation.submissions_submit,
      Simulation.length_field]
    simp only [Simulation.word_setWord, Simulation.submissions_setWord]
    rw [if_pos trivial, if_neg (by omega), if_pos trivial]
    exact ⟨_, rfl, fun _ => pages ▸ Simulation.address_of_halves (physical / Register.pageSize)⟩
  · rename_i empty
    unfold Bus.write
    rw [yields_modify]
    dsimp only
    rw [Simulation.write_submit below, Simulation.submissions_submit, Simulation.length_field]
    exact ⟨_, rfl, fun filled => absurd filled empty⟩

end Device

end GpuSched
