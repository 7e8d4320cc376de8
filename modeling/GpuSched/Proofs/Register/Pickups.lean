import GpuSched.Proofs.Register.Submissions
import GpuSched.Proofs.Respects
import GpuSched.Register.Injection

/-!
# Lists that the hardware has picked up

A list that is handed over is pending until the hardware picks it up. Only a write to the register
of its runlist hands a list over; every other access leaves what was picked up as it is. The one
exception is a hang without end that is set after the submission: the next reset makes it take hold
of the request. Hardware without delays and hangs picks every list up at once.
-/
namespace GpuSched

open Operation

namespace Simulation

variable {sim before middle after : Simulation} {runlist offset : Nat} {value : UInt32}

/-- The lists that a runlist was handed, the latest first. -/
def handed (sim : Simulation) (runlist : Nat) : List Submission :=
  sim.submissions.filter (·.runlist = runlist)

/-- Whether the latest list of a runlist has yet to be picked up. -/
def awaits (sim : Simulation) (runlist : Nat) : Bool :=
  ((sim.runlists.find? runlist).getD {}).read.1

/-- No hang without end waits for a runlist. -/
def Responsive (sim : Simulation) (runlist : Nat) : Prop :=
  sim.runlistHangs.find? runlist ≠ some .forever

/-- Hardware that picks every list of a runlist up at once, and has none left to pick up. -/
structure Prompt (sim : Simulation) (runlist : Nat) : Prop where
  latency : sim.latency = 0
  hang : sim.runlistHangs.find? runlist = none
  pickedUp : sim.awaits runlist = false

/-- A runlist is handed nothing, and no hang is set for it. What was picked up stays so on
responsive hardware. -/
structure Rests (runlist : Nat) (before after : Simulation) : Prop where
  handed : after.handed runlist = before.handed runlist
  latency : after.latency = before.latency
  hangs : ∀ mode, after.runlistHangs.find? runlist = some mode →
    before.runlistHangs.find? runlist = some mode
  pickedUp : before.Responsive runlist → before.awaits runlist = false →
    after.awaits runlist = false

/-- A runlist is handed at least one more list. -/
def Grows (runlist : Nat) (before after : Simulation) : Prop :=
  ∃ latest earlier, after.handed runlist = latest :: earlier ++ before.handed runlist

namespace Rests

/-- Nothing happened. -/
theorem refl (runlist : Nat) (sim : Simulation) : Rests runlist sim sim :=
  ⟨rfl, rfl, fun _ => id, fun _ => id⟩

/-- Responsive hardware stays responsive. -/
theorem responsive (rests : Rests runlist before after) (free : before.Responsive runlist) :
    after.Responsive runlist :=
  fun found => free (rests.hangs _ found)

/-- One rest after another. -/
theorem trans (one : Rests runlist before middle) (two : Rests runlist middle after) :
    Rests runlist before after where
  handed := two.handed.trans one.handed
  latency := two.latency.trans one.latency
  hangs mode := one.hangs mode ∘ two.hangs mode
  pickedUp free picked := two.pickedUp (one.responsive free) (one.pickedUp free picked)

end Rests

namespace Grows

/-- What follows a submission. -/
theorem trans (one : Grows runlist before middle)
    (two : Grows runlist middle after ∨ after.handed runlist = middle.handed runlist) :
    Grows runlist before after := by
  obtain ⟨latest, earlier, first⟩ := one
  rcases two with ⟨last, rest, second⟩ | same
  · refine ⟨last, rest ++ latest :: earlier, ?_⟩
    rw [second, first]
    simp
  · exact ⟨latest, earlier, same.trans first⟩

/-- What a submission follows. -/
theorem of_handed (same : middle.handed runlist = before.handed runlist)
    (grows : Grows runlist middle after) : Grows runlist before after := by
  obtain ⟨latest, earlier, added⟩ := grows
  rw [same] at added
  exact ⟨latest, earlier, added⟩

/-- A runlist that is handed a list was not left alone. -/
theorem handed_ne (grows : Grows runlist before after) :
    after.handed runlist ≠ before.handed runlist := by
  obtain ⟨latest, earlier, added⟩ := grows
  rw [added]
  intro same
  have lengths := congrArg List.length same
  simp only [List.length_append, List.length_cons] at lengths
  omega

end Grows

/-- A word changes nothing about runlists. -/
theorem rests_setWord (runlist offset : Nat) (value : UInt32) (sim : Simulation) :
    Rests runlist sim (sim.setWord offset value) :=
  ⟨rfl, rfl, fun _ => id, fun _ => id⟩

/-- A read sees of a request what the next read sees, once it is not pending. -/
theorem read_eq_of_not_pending {pending : Pending} (done : pending.read.1 = false) :
    pending.read = (false, pending) := by
  unfold Pending.read at done ⊢
  split
  · rw [if_pos ‹_›] at done
    cases done
  · rw [if_neg ‹_›] at done
    split
    · rw [if_pos ‹_›] at done
      cases done
    · rfl

/-- A request that is not pending is not pending after a reset. -/
theorem afterReset_eq_of_not_pending {pending : Pending} (done : pending.read.1 = false) :
    pending.afterReset = pending := by
  unfold Pending.read at done
  unfold Pending.afterReset
  split at done
  · cases done
  · rename_i free
    rw [if_neg fun hangs => free (by rw [hangs]; rfl)]

/-- A read hands nothing over. -/
theorem rests_read (runlist offset : Nat) (sim : Simulation) :
    Rests runlist sim (sim.read offset).2 := by
  unfold read
  split
  · rename_i other _
    refine ⟨rfl, rfl, fun _ => id, fun _ picked => ?_⟩
    unfold awaits at picked ⊢
    dsimp only
    rw [Table.find?_insert]
    split
    · rename_i own
      rw [own] at picked
      rw [Option.getD_some, read_eq_of_not_pending picked]
      exact picked
    · exact picked
  · split
    · exact ⟨rfl, rfl, fun _ => id, fun _ => id⟩
    · exact .refl runlist sim

/-- A list that was picked up is not pending at the next read. -/
theorem awaits_insert_read (done : sim.awaits runlist = false) :
    ({ sim with
        runlists := sim.runlists.insert runlist
          ((sim.runlists.find? runlist).getD {}).read.2 } : Simulation).awaits runlist = false := by
  unfold awaits at done ⊢
  dsimp only
  rw [Table.find?_insert, if_pos rfl, Option.getD_some, read_eq_of_not_pending done]
  exact done

/-- The register of the pending bit belongs to the runlist of the list. -/
theorem runlistStatus_index?_slot (inRange : runlist < Register.runlistCount) :
    Register.runlistStatus.index? Register.runlistCount (0x2400 + runlist * 8) =
      some runlist :=
  RegisterBank.index?_slot (by decide) inRange

/-- A status word is read with the pending bit of the latest list of its runlist. -/
theorem read_status (inRange : runlist < Register.runlistCount) :
    sim.read (0x2400 + runlist * 8) =
      (markPending Register.runlistPendingBit (sim.word (0x2400 + runlist * 8))
          (sim.awaits runlist),
        { sim with
          runlists := sim.runlists.insert runlist
            ((sim.runlists.find? runlist).getD {}).read.2 }) := by
  unfold read
  rw [runlistStatus_index?_slot inRange]
  rfl

/-- The pending bit of a word is the one that was put there. -/
theorem pending_of_markPending {bit : UInt32} (isBit : bit ≠ 0) (word : UInt32) (pending : Bool) :
    (markPending bit word pending &&& bit != 0) = pending := by
  unfold markPending
  cases pending with
  | true =>
    have raised : (word &&& ~~~bit ||| bit) &&& bit = bit := by
      rw [← UInt32.toBitVec_inj]
      ext place inWord
      simp only [UInt32.toBitVec_and, UInt32.toBitVec_or, BitVec.getElem_and, BitVec.getElem_or,
        Bool.and_eq_right_iff_imp, Bool.or_eq_true]
      exact .inr
    rw [if_pos rfl, raised]
    exact bne_iff_ne.mpr isBit
  | false =>
    rw [if_neg (by decide), UInt32.and_assoc, UInt32.not_and_self, UInt32.and_zero]
    rfl

/-- A reset hands nothing over. -/
theorem rests_liftHangs (runlist : Nat) (sim : Simulation) :
    Rests runlist sim sim.liftHangs := by
  have kept : ∀ mode, sim.liftHangs.runlistHangs.find? runlist = some mode →
      sim.runlistHangs.find? runlist = some mode ∧ mode = .forever := by
    intro mode found
    unfold liftHangs at found
    dsimp only at found
    rw [Table.find?_filter, Option.filter_eq_some_iff] at found
    exact ⟨found.1, of_decide_eq_true found.2⟩
  refine ⟨rfl, rfl, fun mode found => (kept mode found).1, fun free picked => ?_⟩
  have none_left : sim.liftHangs.runlistHangs.find? runlist = none := by
    cases found : sim.liftHangs.runlistHangs.find? runlist with
    | none => rfl
    | some mode =>
      obtain ⟨hangs, rfl⟩ := kept mode found
      exact absurd hangs free
  unfold liftHangs at none_left ⊢
  unfold awaits at picked ⊢
  dsimp only at none_left ⊢
  rw [Table.find?_map, none_left]
  cases request : sim.runlists.find? runlist with
  | none => rfl
  | some pending =>
    rw [request] at picked
    have same : pending.afterReset = pending := afterReset_eq_of_not_pending picked
    change pending.afterReset.read.1 = false
    rw [same]
    exact picked

/-- A write that is no submission hands nothing over. -/
theorem rests_write (apart : Register.runlistSubmit.index? Register.runlistCount offset = none)
    (runlist : Nat) (value : UInt32) (sim : Simulation) :
    Rests runlist sim (sim.write offset value) := by
  unfold write
  rw [apart]
  dsimp only
  split
  · exact ⟨rfl, rfl, fun _ => id, fun _ => id⟩
  · split
    · exact rests_setWord runlist _ _ sim
    · split
      · unfold enableUnits
        dsimp only
        split
        · exact ⟨rfl, rfl, fun _ => id, fun _ => id⟩
        · rename_i some_lowered
          let logged : Simulation :=
            { sim with resets := (setBits (sim.word Register.unitEnable &&& ~~~value)).reverse ++
                sim.resets }
          have first : Rests runlist sim logged := ⟨rfl, rfl, fun _ => id, fun _ => id⟩
          exact (first.trans (rests_liftHangs runlist logged)).trans
            (rests_setWord runlist _ _ logged.liftHangs)
      · split
        · exact rests_setWord runlist _ _ sim
        · exact rests_setWord runlist _ _ sim

/-- A submission of one runlist hands nothing to another. -/
theorem rests_submit {other : Nat} (apart : other ≠ runlist) (offset : Nat) (value : UInt32)
    (sim : Simulation) : Rests runlist sim (sim.submit other offset value) := by
  refine ⟨?_, rfl, fun _ => id, fun _ picked => ?_⟩
  · unfold handed
    rw [submissions_submit, List.filter_cons_of_neg (by simpa using apart)]
  · unfold awaits at picked ⊢
    unfold submit
    dsimp only
    rw [Table.find?_insert, if_neg apart.symm]
    exact picked

/-- A write to another register than the one that hands a list over hands nothing over. -/
theorem rests_write_of_ne
    (apart : runlist < Register.runlistCount → offset ≠ 0x2278 + runlist * 0x10) (value : UInt32)
    (sim : Simulation) : Rests runlist sim (sim.write offset value) := by
  cases slot : Register.runlistSubmit.index? Register.runlistCount offset with
  | none => exact rests_write slot runlist value sim
  | some other =>
    have submits : sim.write offset value = sim.submit other offset value := by
      unfold write
      rw [slot]
    obtain ⟨inRange, place⟩ := RegisterBank.of_index? slot
    rw [submits]
    refine rests_submit (fun own => ?_) offset value sim
    rw [own] at inRange place
    exact apart inRange place.symm

namespace Prompt

/-- Prompt hardware is responsive. -/
theorem responsive (prompt : sim.Prompt runlist) : sim.Responsive runlist := by
  unfold Responsive
  rw [prompt.hang]
  exact Option.some_ne_none _ |>.symm

/-- Hardware that is handed nothing stays prompt. -/
theorem rests (prompt : before.Prompt runlist) (rests : Rests runlist before after) :
    after.Prompt runlist := by
  refine ⟨rests.latency.trans prompt.latency, ?_, rests.pickedUp prompt.responsive prompt.pickedUp⟩
  cases found : after.runlistHangs.find? runlist with
  | none => rfl
  | some mode => exact (rests.hangs mode found).symm.trans prompt.hang

/-- Prompt hardware picks a list up as soon as it is handed over. -/
theorem submit (prompt : sim.Prompt runlist) (offset : Nat) (value : UInt32) :
    (sim.submit runlist offset value).Prompt runlist := by
  refine ⟨prompt.latency, prompt.hang, ?_⟩
  unfold awaits Simulation.submit
  dsimp only
  rw [Table.find?_insert, if_pos rfl, prompt.latency, prompt.hang]
  rfl

/-- A write leaves prompt hardware prompt, whether or not it hands a list over. -/
theorem write (prompt : sim.Prompt runlist) (offset : Nat) (value : UInt32) :
    (sim.write offset value).Prompt runlist := by
  cases slot : Register.runlistSubmit.index? Register.runlistCount offset with
  | none => exact prompt.rests (rests_write slot runlist value sim)
  | some other =>
    have submits : sim.write offset value = sim.submit other offset value := by
      unfold Simulation.write
      rw [slot]
    rw [submits]
    by_cases own : other = runlist
    · rw [own]
      exact prompt.submit offset value
    · exact prompt.rests (rests_submit own offset value sim)

end Prompt

/-- An event on the side of the hardware hands nothing over, and leaves requests as they are. -/
theorem inject_eq_ok {event : Injection} (injects : sim.inject event = .ok after) :
    after.submissions = sim.submissions ∧ after.runlists = sim.runlists ∧
      after.preempt = sim.preempt := by
  cases event with
  | word | hangRunlist | hangPreempt | schedulerError =>
    cases injects
    exact ⟨rfl, rfl, rfl⟩
  | engineStatus | pbdmaStatus =>
    obtain ⟨_, _, same⟩ := bind_eq_ok_iff.mp injects
    cases same
    exact ⟨rfl, rfl, rfl⟩
  | fault =>
    obtain ⟨_, _, inst⟩ := bind_eq_ok_iff.mp injects
    obtain ⟨_, _, low⟩ := bind_eq_ok_iff.mp inst
    obtain ⟨_, _, high⟩ := bind_eq_ok_iff.mp low
    obtain ⟨_, _, info⟩ := bind_eq_ok_iff.mp high
    obtain ⟨_, _, same⟩ := bind_eq_ok_iff.mp info
    cases same
    exact ⟨rfl, rfl, rfl⟩
  | pbdmaInterrupt =>
    obtain ⟨_, _, bits⟩ := bind_eq_ok_iff.mp injects
    obtain ⟨_, _, same⟩ := bind_eq_ok_iff.mp bits
    cases same
    exact ⟨rfl, rfl, rfl⟩

end Simulation

namespace Bus

variable {runlist offset : Nat}

/-- A runlist is handed nothing, and what was picked up stays so on responsive hardware. -/
def Rests (runlist : Nat) (before after : Bus) : Prop :=
  Simulation.Rests runlist before.hardware after.hardware

/-- Prompt hardware stays prompt. -/
abbrev StaysPrompt (runlist : Nat) : Bus → Bus → Prop :=
  Kept fun bus => bus.hardware.Prompt runlist

instance (runlist : Nat) : IsPreorder Bus (Rests runlist) where
  refl bus := .refl runlist bus.hardware
  trans _ _ _ := Simulation.Rests.trans

/-- A read hands nothing over. -/
theorem rests_read (runlist offset : Nat) : Respects (Rests runlist) (Bus.read offset) :=
  fun bus => Simulation.rests_read runlist offset bus.hardware

/-- A write that is no submission hands nothing over. -/
theorem rests_write (apart : Register.runlistSubmit.index? Register.runlistCount offset = none)
    (runlist : Nat) (value : UInt32) : Respects (Rests runlist) (Bus.write offset value) :=
  fun bus => Simulation.rests_write apart runlist value bus.hardware

/-- A write of a register of a bank hands nothing over, unless it is the one that does so. -/
theorem rests_writeSlot_of_ne {bank : RegisterBank} {index : Nat}
    (apart : runlist < Register.runlistCount →
      bank.base + index * bank.stride ≠ 0x2278 + runlist * 0x10)
    (value : UInt32) : Respects (Rests runlist) (Bus.writeSlot bank index value) := by
  intro bus
  unfold Bus.writeSlot
  cases slot : bank.slot index with
  | error failure => exact .refl runlist bus.hardware
  | ok offset =>
    obtain ⟨_, rfl⟩ := Checked.fit_eq_ok_iff.mp slot
    exact Simulation.rests_write_of_ne apart value bus.hardware

/-- A write leaves prompt hardware prompt. -/
theorem staysPrompt_writeSlot (runlist : Nat) (bank : RegisterBank) (index : Nat) (value : UInt32) :
    Respects (StaysPrompt runlist) (Bus.writeSlot bank index value) :=
  (respects_lift _).bind fun offset _ prompt => prompt.write offset value

end Bus

namespace Device

open Bus

variable {runlist : Nat}

/-- A list is handed to its own runlist alone. -/
theorem rests_submitRunlist {other : Nat} (apart : other ≠ runlist) (base count : Nat) :
    Respects (Rests runlist) (submitRunlist other base count) := by
  have low : 0x2270 + other * 0x10 ≠ 0x2278 + runlist * 0x10 := by omega
  have high : 0x2274 + other * 0x10 ≠ 0x2278 + runlist * 0x10 := by omega
  have submit : 0x2278 + other * 0x10 ≠ 0x2278 + runlist * 0x10 := by omega
  unfold submitRunlist
  dsimp only
  split
  · refine (rests_writeSlot_of_ne (fun _ => low) _).bind fun _ => ?_
    refine (rests_writeSlot_of_ne (fun _ => high) _).bind fun _ => ?_
    exact rests_writeSlot_of_ne (fun _ => submit) _
  · exact rests_writeSlot_of_ne (fun _ => submit) _

/-- Prompt hardware stays prompt when it is handed a list. -/
theorem staysPrompt_submitRunlist (runlist other base count : Nat) :
    Respects (StaysPrompt runlist) (submitRunlist other base count) := by
  unfold submitRunlist
  dsimp only
  split
  · refine (staysPrompt_writeSlot runlist _ _ _).bind fun _ => ?_
    exact (staysPrompt_writeSlot runlist _ _ _).bind fun _ => staysPrompt_writeSlot runlist _ _ _
  · exact staysPrompt_writeSlot runlist _ _ _

/-- The hardware answers whether it has yet to pick up a list. If it has not, it will not have to
at the next read. -/
theorem yields_runlistPending (inRange : runlist < Register.runlistCount) {bus : Bus} :
    (runlistPending runlist).Yields bus
      (fun answer after => answer = bus.hardware.awaits runlist ∧
        (answer = false → after.hardware.awaits runlist = false))
      fun _ _ => False := by
  have below : runlist < 16 := inRange
  unfold runlistPending
  rw [readSlot_eq (0x2400 + runlist * 8) rfl (by omega), yields_bind]
  unfold Bus.read
  simp only [yields_bind, yields_get, yields_set, yields_pure]
  rw [Simulation.read_status inRange]
  dsimp only
  rw [Simulation.pending_of_markPending (by decide)]
  exact ⟨rfl, Simulation.awaits_insert_read⟩

end Device

end GpuSched
