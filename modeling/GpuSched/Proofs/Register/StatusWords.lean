import GpuSched.Proofs.Register.Fields
import GpuSched.Register.UnitStatus

/-!
# Status words and their records

A status word is packed from seven fields that are apart and leave only bit 29 over. So a word is
told by its record but for that bit, and a record comes back from its word just when each of its
parts has room there. For the codes of contexts this also asks that a code with a name is not
written as an unknown one.
-/
namespace GpuSched

namespace ContextState

/-- The codes that have a name. -/
def namedCodes : List UInt32 :=
  [invalid.encode, valid.encode, load.encode, save.encode, switch.encode]

/-- A state that a status word can hold: one with a name, or a code of three bits without one. -/
def Representable : ContextState → Prop
  | unknown code => code.toNat < 8 ∧ code ∉ namedCodes
  | invalid | valid | load | save | switch => True

/-- A code is read as an unknown one just when it has no name. -/
theorem decode_eq_unknown_iff (code : UInt32) : decode code = unknown code ↔ code ∉ namedCodes := by
  unfold decode namedCodes encode
  simp only [List.mem_cons, List.not_mem_nil, or_false]
  repeat' split
  all_goals simp_all

/-- A code is only ever read as itself. -/
theorem eq_of_decode_eq_unknown {code other : UInt32} (read : decode code = unknown other) :
    code = other := by
  have same := congrArg encode read
  rwa [encode_decode] at same

/-- The states that come back from the three bits they have in a word. -/
theorem decode_encode_iff (state : ContextState) :
    decode (state.encode &&& 0x7) = state ↔ state.Representable := by
  cases state with
  | unknown code =>
    have fits : code &&& 0x7 = code ↔ code.toNat < 8 := WordField.and_mask_eq_self_iff 3 rfl
    change decode (code &&& 0x7) = unknown code ↔ code.toNat < 8 ∧ code ∉ namedCodes
    constructor
    · intro back
      have whole := eq_of_decode_eq_unknown back
      rw [whole] at back
      exact ⟨fits.mp whole, (decode_eq_unknown_iff code).mp back⟩
    · rintro ⟨small, unnamed⟩
      rw [fits.mpr small]
      exact (decode_eq_unknown_iff code).mpr unnamed
  | invalid | valid | load | save | switch => exact iff_of_true (by decide) trivial

end ContextState

namespace UnitStatus

variable {status : UnitStatus} {target : Target} {source : Option Target}

/-- The number of the current context. -/
def idField : WordField := ⟨0xfff, 0⟩

/-- The number of the next context. -/
def nextIdField : WordField := ⟨0xfff, 16⟩

/-- The code of the context state. -/
def contextField : WordField := ⟨0x7, 13⟩

/-- Whether the current context is a group. -/
def groupField : WordField := ⟨1, 12⟩

/-- Whether the next context is a group. -/
def nextGroupField : WordField := ⟨1, 28⟩

/-- Whether the unit has faulted. -/
def faultedField : WordField := ⟨1, 30⟩

/-- Whether the unit is busy. -/
def busyField : WordField := ⟨1, 31⟩

/-- The values of a record with the fields they are written to. -/
def parts (status : UnitStatus) : List (WordField × UInt32) :=
  [(idField, status.id), (nextIdField, status.nextId), (contextField, status.context.encode),
    (groupField, status.idIsGroup.toUInt32), (nextGroupField, status.nextIsGroup.toUInt32),
    (faultedField, status.faulted.toUInt32), (busyField, status.busy.toUInt32)]

/-- The fields of a status word. -/
def fields : List WordField :=
  [idField, nextIdField, contextField, groupField, nextGroupField, faultedField, busyField]

theorem fields_apart : fields.Pairwise WordField.Apart := by decide

theorem fits_of_mem : ∀ field ∈ fields, field.Fits := by decide

/-- The fields leave bit 29 over. -/
theorem cover_fields : WordField.cover fields = ~~~((1 : UInt32) <<< 29) := by decide

/-- Placing the value of a flag sets its bit or leaves it clear. -/
theorem place_flag {field : WordField} (single : field.mask = 1) (condition : Bool) :
    field.place condition.toUInt32 = bitsIf condition field.bits := by
  unfold WordField.place WordField.bits bitsIf
  rw [single]
  cases condition with
  | false => exact UInt32.zero_shiftLeft
  | true => rfl

/-- The word of a record is packed from its values. -/
theorem encode_eq_pack (status : UnitStatus) : status.encode = WordField.pack status.parts := by
  change _ = idField.place status.id ||| (nextIdField.place status.nextId |||
    (contextField.place status.context.encode ||| (groupField.place status.idIsGroup.toUInt32 |||
    (nextGroupField.place status.nextIsGroup.toUInt32 |||
    (faultedField.place status.faulted.toUInt32 |||
    (busyField.place status.busy.toUInt32 ||| 0))))))
  rw [place_flag rfl, place_flag rfl, place_flag rfl, place_flag rfl, UInt32.or_zero]
  simp only [← UInt32.or_assoc]
  unfold encode
  rw [show idField.place status.id = status.id &&& idMask from UInt32.shiftLeft_zero]
  rfl

/-- The number of the current context stands in the lowest bits. -/
theorem and_idMask_eq_read (word : UInt32) : word &&& idMask = idField.read word :=
  congrArg (· &&& idMask) UInt32.shiftRight_zero.symm

/-- The record of a word holds the values of its fields. -/
theorem parts_decode (word : UInt32) :
    (decode word).parts = fields.map fun field => (field, field.read word) := by
  change [(idField, word &&& idMask), (nextIdField, nextIdField.read word),
    (contextField, (ContextState.decode (contextField.read word)).encode),
    (groupField, (word &&& groupField.bits != 0).toUInt32),
    (nextGroupField, (word &&& nextGroupField.bits != 0).toUInt32),
    (faultedField, (word &&& faultedField.bits != 0).toUInt32),
    (busyField, (word &&& busyField.bits != 0).toUInt32)] = _
  rw [ContextState.encode_decode, WordField.toUInt32_flag (by decide) rfl,
    WordField.toUInt32_flag (by decide) rfl, WordField.toUInt32_flag (by decide) rfl,
    WordField.toUInt32_flag (by decide) rfl, and_idMask_eq_read]
  rfl

/-- A word is told by its record but for bit 29. -/
theorem encode_decode (word : UInt32) :
    (decode word).encode = word &&& ~~~((1 : UInt32) <<< 29) := by
  rw [encode_eq_pack, parts_decode, WordField.pack_read, cover_fields]

/-- A record whose parts have room in a word. -/
structure Representable (status : UnitStatus) : Prop where
  id : status.id.toNat < 4096
  nextId : status.nextId.toNat < 4096
  context : status.context.Representable

/-- A value is read back from the word of a record as far as its field goes. -/
theorem read_encode {field : WordField} {value : UInt32} (mem : (field, value) ∈ status.parts) :
    field.read status.encode = value &&& field.mask := by
  rw [encode_eq_pack]
  have known : field ∈ status.parts.map Prod.fst := List.mem_map.mpr ⟨_, mem, rfl⟩
  exact WordField.read_pack (fits_of_mem field known) fields_apart mem

/-- A flag is read back from the word of a record. -/
theorem flag_encode {field : WordField} {flag : Bool} (single : field.mask = 1)
    (mem : (field, flag.toUInt32) ∈ status.parts) : (status.encode &&& field.bits != 0) = flag := by
  have known : field ∈ status.parts.map Prod.fst := List.mem_map.mpr ⟨_, mem, rfl⟩
  rw [WordField.and_bits_ne_zero (fits_of_mem field known), read_encode mem, single]
  cases flag <;> rfl

/-- What the word of a record holds of it. -/
theorem decode_encode (status : UnitStatus) :
    decode status.encode = { status with
      id := status.id &&& idMask
      nextId := status.nextId &&& idMask
      context := .decode (status.context.encode &&& 0x7) } := by
  have id : idField.read status.encode = status.id &&& idMask := read_encode (by simp [parts])
  have nextId : nextIdField.read status.encode = status.nextId &&& idMask :=
    read_encode (by simp [parts])
  have context : contextField.read status.encode = status.context.encode &&& 0x7 :=
    read_encode (by simp [parts])
  have group : (status.encode &&& groupField.bits != 0) = status.idIsGroup :=
    flag_encode rfl (by simp [parts])
  have nextGroup : (status.encode &&& nextGroupField.bits != 0) = status.nextIsGroup :=
    flag_encode rfl (by simp [parts])
  have faulted : (status.encode &&& faultedField.bits != 0) = status.faulted :=
    flag_encode rfl (by simp [parts])
  have busy : (status.encode &&& busyField.bits != 0) = status.busy :=
    flag_encode rfl (by simp [parts])
  change UnitStatus.mk (status.encode &&& idMask) (status.encode &&& groupField.bits != 0)
    (nextIdField.read status.encode) (status.encode &&& nextGroupField.bits != 0)
    (.decode (contextField.read status.encode)) (status.encode &&& faultedField.bits != 0)
    (status.encode &&& busyField.bits != 0) = _
  rw [and_idMask_eq_read, id, nextId, context, group, nextGroup, faulted, busy]

/-- A record comes back from its word just when its parts have room there. -/
theorem decode_encode_iff (status : UnitStatus) :
    decode status.encode = status ↔ status.Representable := by
  have narrow (id : UInt32) : id &&& idMask = id ↔ id.toNat < 4096 :=
    WordField.and_mask_eq_self_iff 12 rfl
  have context := status.context.decode_encode_iff
  rw [decode_encode]
  constructor
  · intro back
    exact ⟨(narrow _).mp (congrArg UnitStatus.id back),
      (narrow _).mp (congrArg UnitStatus.nextId back),
      context.mp (congrArg UnitStatus.context back)⟩
  · intro fits
    rw [(narrow _).mpr fits.id, (narrow _).mpr fits.nextId, context.mpr fits.context]

/-- A number that fits is not cut off in a word. -/
theorem toNat_ofNat_id (fits : target.id < 4096) : (UInt32.ofNat target.id).toNat = target.id :=
  UInt32.toNat_ofNat_of_lt' (fits.trans (by decide))

theorem representable_running (fits : target.id < 4096) : (running target).Representable where
  id := (toNat_ofNat_id fits).trans_lt fits
  nextId := by change (0 : UInt32).toNat < 4096; decide
  context := trivial

theorem representable_switchingTo (fits : target.id < 4096)
    (sourceFits : ∀ outgoing ∈ source, outgoing.id < 4096) :
    (switchingTo source target).Representable := by
  cases source with
  | none =>
    exact ⟨by change (0 : UInt32).toNat < 4096; decide, (toNat_ofNat_id fits).trans_lt fits,
      trivial⟩
  | some outgoing =>
    have small := sourceFits outgoing rfl
    exact ⟨(toNat_ofNat_id small).trans_lt small, (toNat_ofNat_id fits).trans_lt fits, trivial⟩

/-- A number and a kind that were written from a target name the target. -/
theorem ofStatus_ofNat (fits : target.id < 4096) :
    Target.ofStatus (UInt32.ofNat target.id).toNat target.isGroup = target := by
  rw [toNat_ofNat_id fits, Target.ofStatus_id_isGroup]

theorem resident_running (fits : target.id < 4096) : (running target).resident = some target :=
  congrArg some (ofStatus_ofNat fits)

theorem faulting_running (fits : target.id < 4096) : (running target).faulting = some target :=
  congrArg some (ofStatus_ofNat fits)

theorem resident_switchingTo (fits : target.id < 4096) :
    (switchingTo source target).resident = some target := by
  cases source <;> exact congrArg some (ofStatus_ofNat fits)

theorem faulting_switchingTo (fits : target.id < 4096)
    (sourceFits : ∀ outgoing ∈ source, outgoing.id < 4096) :
    (switchingTo source target).faulting = some (source.getD target) := by
  cases source with
  | none => exact congrArg some (ofStatus_ofNat fits)
  | some outgoing => exact congrArg some (ofStatus_ofNat (sourceFits outgoing rfl))

/-- A status word and its record tell each other: the record tells every bit but the one without
meaning, the word every record whose parts have room, and a word of a unit that runs a context or
switches to one names the contexts it was built from. -/
theorem word_tells_record :
    (∀ word : UInt32, (decode word).encode = word &&& ~~~((1 : UInt32) <<< 29)) ∧
      (∀ status : UnitStatus, decode status.encode = status ↔ status.Representable) ∧
      ∀ (source : Option Target) (target : Target), target.id < 4096 →
        (∀ outgoing ∈ source, outgoing.id < 4096) →
        (decode (running target).encode).resident = some target ∧
          (decode (running target).encode).faulting = some target ∧
          (decode (switchingTo source target).encode).resident = some target ∧
          (decode (switchingTo source target).encode).faulting = some (source.getD target) := by
  refine ⟨encode_decode, decode_encode_iff, ?_⟩
  intro source target fits sourceFits
  rw [(decode_encode_iff _).mpr (representable_running fits),
    (decode_encode_iff _).mpr (representable_switchingTo fits sourceFits)]
  exact ⟨resident_running fits, faulting_running fits, resident_switchingTo fits,
    faulting_switchingTo fits sourceFits⟩

/-- A unit that leaves the last channel for a group is told apart by what occupies it and by what
its faults are blamed on. -/
theorem word_tells_switch :
    (decode (switchingTo (some (.channel 4095)) (.group 7)).encode).resident = some (.group 7) ∧
      (decode (switchingTo (some (.channel 4095)) (.group 7)).encode).faulting =
        some (.channel 4095) :=
  (word_tells_record.2.2 (some (.channel 4095)) (.group 7) (by decide) (by decide)).2.2

end UnitStatus

end GpuSched
