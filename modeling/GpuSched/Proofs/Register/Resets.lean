import GpuSched.Proofs.Register.Traffic

/-!
# Units that are reset

The record of accesses tells which units were reset, how often and in which order: what it holds of
the register of unit enables is one pulse after another, as nothing but a reset accesses that
register. `Bus.Cycles` says so of the accesses from one state to another. It is exact: the units can
be read off the record, so a step cycles one list of units only.
-/
namespace GpuSched

open Operation

/-- The register of an access. -/
def Access.offset : Access → Nat
  | .read offset _ => offset
  | .write offset _ => offset

@[simp] theorem Access.offset_read (offset : Nat) (value : UInt32) :
    (Access.read offset value).offset = offset := rfl

@[simp] theorem Access.offset_write (offset : Nat) (value : UInt32) :
    (Access.write offset value).offset = offset := rfl

namespace Device

/-- Accesses that pulse some units through reset, one after the other, the latest first. -/
inductive Train : List Nat → List Access → Prop where
  | nil : Train [] []
  | cons {units : List Nat} {accesses : List Access} {unit : Nat} {mask : UInt32}
      (current seen : UInt32) (bit : Checked.bit32 unit = .ok mask)
      (earlier : Train units accesses) :
      Train (unit :: units) (pulse mask current seen ++ accesses)

/-- Units are pulsed after others. -/
theorem Train.append {units others : List Nat} {accesses earlier : List Access}
    (later : Train units accesses) (first : Train others earlier) :
    Train (units ++ others) (accesses ++ earlier) := by
  induction later with
  | nil => exact first
  | cons current seen bit _ ih =>
    rw [List.append_assoc]
    exact .cons current seen bit ih

/-- A bit is the bit of one unit. -/
theorem unit_of_bit32 {unit : Nat} {mask : UInt32} (bit : Checked.bit32 unit = .ok mask) :
    Simulation.setBits mask = [unit] := by
  unfold Checked.bit32 at bit
  split at bit
  · rename_i inWord
    cases bit
    have own : ∀ other, other < 32 →
        (((1 : UInt32) <<< UInt32.ofNat unit) &&& ((1 : UInt32) <<< UInt32.ofNat other) != 0) =
          decide (other = unit) := by
      intro other small
      rw [Simulation.and_bit_ne_zero _ small, Simulation.toNat_bit inWord, Nat.testBit_two_pow]
      exact decide_eq_decide.mpr eq_comm
    unfold Simulation.setBits
    rw [List.filter_congr fun other mem => own other (List.mem_range.mp mem)]
    rw [List.filter_eq, List.count_range, if_pos inWord]
    rfl
  · cases bit

/-- The bits of a word that were lowered and raised again can be told from what was written. -/
theorem mask_of_pulse {current mask other : UInt32}
    (lowers : current &&& ~~~mask = current &&& ~~~other)
    (raises : current ||| mask = current ||| other) :
    Simulation.setBits mask = Simulation.setBits other := by
  have low : ∀ bit, bit ∈ Simulation.setBits (current &&& ~~~mask) ↔
      bit ∈ Simulation.setBits (current &&& ~~~other) := fun bit => by rw [lowers]
  have high : ∀ bit, bit ∈ Simulation.setBits (current ||| mask) ↔
      bit ∈ Simulation.setBits (current ||| other) := fun bit => by rw [raises]
  simp only [Simulation.mem_setBits_and_not] at low
  simp only [Simulation.mem_setBits_or] at high
  unfold Simulation.setBits at *
  refine List.filter_congr fun bit inWord => ?_
  rw [Bool.eq_iff_iff]
  have one := low bit
  have two := high bit
  simp only [List.mem_filter, inWord, true_and] at one two
  tauto

/-- Accesses pulse one list of units only. -/
theorem Train.unique {units others : List Nat} {accesses : List Access}
    (train : Train units accesses) (other : Train others accesses) : units = others := by
  induction train generalizing others with
  | nil =>
    cases other
    rfl
  | @cons _ _ unit mask current seen bit _ ih =>
    generalize same : pulse mask current seen ++ _ = whole at other
    cases other with
    | nil => cases same
    | cons _ _ bitOther earlier =>
      unfold Device.pulse at same
      simp only [List.cons_append, List.nil_append, List.cons.injEq, Access.write.injEq,
        Access.read.injEq, true_and] at same
      obtain ⟨raises, rfl, lowers, rfl, rfl⟩ := same
      have bits := mask_of_pulse lowers raises
      rw [unit_of_bit32 bit, unit_of_bit32 bitOther, List.cons.injEq] at bits
      rw [bits.1, ih earlier]

end Device

namespace Bus

variable {units others : List Nat} {before middle after : Bus}

/-- Just these units were reset, the latest first. -/
def Cycles (units : List Nat) (before after : Bus) : Prop :=
  ∃ since, after.accesses = since ++ before.accesses ∧
    Device.Train units (since.filter (·.offset = Register.unitEnable))

/-- Units are reset after others. -/
theorem Cycles.trans (first : Cycles others before middle) (later : Cycles units middle after) :
    Cycles (units ++ others) before after := by
  obtain ⟨earlier, start, trainEarlier⟩ := first
  obtain ⟨since, goesOn, train⟩ := later
  refine ⟨since ++ earlier, by rw [goesOn, start, List.append_assoc], ?_⟩
  rw [List.filter_append]
  exact train.append trainEarlier

instance : IsPreorder Bus (Cycles []) where
  refl _ := ⟨[], rfl, .nil⟩
  trans _ _ _ one two := one.trans two

/-- A step resets one list of units only. -/
theorem Cycles.unique (cycles : Cycles units before after) (other : Cycles others before after) :
    units = others := by
  obtain ⟨since, grows, train⟩ := cycles
  obtain ⟨_, same, trainOther⟩ := other
  rw [grows, List.append_cancel_right_eq] at same
  subst same
  exact train.unique trainOther

/-- Another register is read. -/
theorem cycles_read {offset : Nat} (apart : offset ≠ Register.unitEnable) :
    Respects (Cycles []) (Bus.read offset) := by
  refine fun bus => ⟨[.read offset (bus.hardware.read offset).1], rfl, ?_⟩
  rw [List.filter_cons, Access.offset_read, decide_eq_false apart]
  exact .nil

/-- Another register is written. -/
theorem cycles_write {offset : Nat} (apart : offset ≠ Register.unitEnable) (value : UInt32) :
    Respects (Cycles []) (Bus.write offset value) := by
  refine fun bus => ⟨[.write offset value], rfl, ?_⟩
  rw [List.filter_cons, Access.offset_write, decide_eq_false apart]
  exact .nil

/-- A register of a bank is read. -/
theorem cycles_readSlot {bank : RegisterBank} (past : Register.unitEnable < bank.base)
    (index : Nat) : Respects (Cycles []) (Bus.readSlot bank index) := by
  intro bus
  refine related_lift_bind fun offset slot => cycles_read ?_ bus
  obtain ⟨_, rfl⟩ := Checked.fit_eq_ok_iff.mp slot
  omega

/-- A register of a bank is written. -/
theorem cycles_writeSlot {bank : RegisterBank} (past : Register.unitEnable < bank.base)
    (index : Nat) (value : UInt32) : Respects (Cycles []) (Bus.writeSlot bank index value) := by
  intro bus
  refine related_lift_bind fun offset slot => cycles_write ?_ value bus
  obtain ⟨_, rfl⟩ := Checked.fit_eq_ok_iff.mp slot
  omega

end Bus

namespace Device

open Bus

/-- A list is handed over. -/
theorem cycles_submitRunlist (runlist base count : Nat) :
    Respects (Cycles []) (submitRunlist runlist base count) := by
  have submits : Respects (Cycles [])
      (writeSlot Register.runlistSubmit runlist (UInt32.ofNat count &&& Register.entryCountMask)) :=
    cycles_writeSlot (by decide) runlist _
  unfold submitRunlist
  dsimp only
  split
  · refine (cycles_writeSlot (by decide) runlist _).bind fun _ => ?_
    exact (cycles_writeSlot (by decide) runlist _).bind fun _ => submits
  · exact submits

/-- The pending bit of a runlist is read. -/
theorem cycles_runlistPending (runlist : Nat) : Respects (Cycles []) (runlistPending runlist) :=
  (cycles_readSlot (by decide) runlist).bind fun _ => respects_pure _

/-- A preempt is requested. -/
theorem cycles_issuePreempt (target : Target) : Respects (Cycles []) (issuePreempt target) :=
  cycles_write (by decide) _

/-- The pending bit of the preempt request is read. -/
theorem cycles_preemptPending : Respects (Cycles []) preemptPending :=
  (cycles_read (by decide)).bind fun _ => respects_pure _

/-- The disable bits of runlists are changed. -/
theorem cycles_setSchedulerDisabled (runlists : UInt32) (disabled : Bool) :
    Respects (Cycles []) (setSchedulerDisabled runlists disabled) :=
  (cycles_read (by decide)).bind fun _ => cycles_write (by decide) _

/-- A unit is reset. -/
theorem cycles_resetUnit {unit : Nat} (inWord : unit < 32) (bus : Bus) :
    (resetUnit unit).Yields bus (fun _ after => Cycles [unit] bus after) fun _ _ => False := by
  have bit := Checked.bit32_of_lt inWord
  unfold resetUnit Bus.read Bus.write
  rw [yields_bind, bit, yields_lift_ok]
  simp only [yields_bind, yields_get, yields_set, yields_pure, yields_modify]
  refine ⟨pulse _ _ _, rfl, ?_⟩
  have whole : ∀ mask current seen : UInt32,
      (pulse mask current seen).filter (·.offset = Register.unitEnable) =
        pulse mask current seen ++ [] := fun _ _ _ => rfl
  rw [whole]
  exact .cons _ _ bit .nil

end Device

end GpuSched
