import GpuSched.Proofs.Register.Fields
import GpuSched.Runlist.Entry

/-!
# Reading runlist entries back

The fields of an entry take bits of their own in its words, so decoding the words gives the entry
back, but for the bits that have no place: those of the identifier above the twelfth and those of
the scale above the fourth. The other way round, words come back from the entry they describe but
for the bits that describe nothing.
-/
namespace GpuSched

namespace RunlistEntry

/-- The number of a channel or a group. -/
def id : RunlistEntry → UInt32
  | channel id => id
  | group id _ _ => id

/-- The number of a channel, for the entries of channels. -/
def channelId? : RunlistEntry → Option Nat
  | channel id => some id.toNat
  | group _ _ _ => none

/-- The entry with as much of a timeslice as its words hold. -/
def stored : RunlistEntry → RunlistEntry
  | channel id => channel id
  | group id len timeslice => group id len { timeslice with scale := timeslice.scale % 16 }

/-- The number of a channel or a group. -/
def idField : WordField := ⟨0xfff, 0⟩

/-- Whether the entry is the header of a group. -/
def groupField : WordField := ⟨1, 12⟩

/-- The scale of the timeslice of a group. -/
def scaleField : WordField := ⟨0xf, 16⟩

/-- The timeout of the timeslice of a group. -/
def timeoutField : WordField := ⟨0xff, 24⟩

/-- The fields in the first word of a header. -/
def headerFields : List WordField := [idField, groupField, scaleField, timeoutField]

/-- The values in the first word of a header with the fields they are written to. -/
def headerParts (id : UInt32) (timeslice : Timeslice) : List (WordField × UInt32) :=
  [(idField, id), (groupField, 1), (scaleField, timeslice.scale.toUInt32),
    (timeoutField, timeslice.timeout.toUInt32)]

theorem headerFields_apart : headerFields.Pairwise WordField.Apart := by decide

theorem fits_of_mem_headerFields : ∀ field ∈ headerFields, field.Fits := by decide

/-- The bits of the first word that mean something in a header. -/
def headerBits : UInt32 := idMask ||| groupBit ||| scaleField.bits ||| timeoutField.bits

theorem cover_headerFields : WordField.cover headerFields = headerBits := by decide

/-- The identifier stands in the lowest bits. -/
theorem and_idMask_eq_read (word : UInt32) : word &&& idMask = idField.read word :=
  congrArg (· &&& idMask) UInt32.shiftRight_zero.symm

/-- The first word of a header is packed from its values. -/
theorem encode_group (id len : UInt32) (timeslice : Timeslice) :
    (group id len timeslice).encode = ⟨WordField.pack (headerParts id timeslice), len⟩ := by
  change _ = EntryWords.mk (idField.place id ||| (groupField.place 1 |||
    (scaleField.place timeslice.scale.toUInt32 |||
    (timeoutField.place timeslice.timeout.toUInt32 ||| 0)))) len
  rw [UInt32.or_zero, ← UInt32.or_assoc, ← UInt32.or_assoc,
    show idField.place id = id &&& idMask from UInt32.shiftLeft_zero]
  rfl

/-- A value is read back from the words of a header as far as its field goes. -/
theorem read_encode_group {id len : UInt32} {timeslice : Timeslice} {field : WordField}
    {value : UInt32} (mem : (field, value) ∈ headerParts id timeslice) :
    field.read (group id len timeslice).encode.first = value &&& field.mask := by
  rw [encode_group]
  have known : field ∈ (headerParts id timeslice).map Prod.fst := List.mem_map.mpr ⟨_, mem, rfl⟩
  exact WordField.read_pack (fits_of_mem_headerFields field known) headerFields_apart mem

/-- The entry of two words, told by the fields of the first. -/
theorem decode_eq (words : EntryWords) :
    decode words = if groupField.read words.first = 0 then channel (words.first &&& idMask) else
      group (words.first &&& idMask) words.second
        ⟨(scaleField.read words.first).toUInt8, (timeoutField.read words.first).toUInt8⟩ := by
  have clear : words.first &&& groupBit = 0 ↔ groupField.read words.first = 0 :=
    WordField.and_bits_eq_zero_iff (show groupField.Fits by decide)
  unfold decode
  simp only [clear]
  rfl

/-- A value keeps all of its bits under the mask of an identifier just when it is small. -/
theorem and_idMask_eq_self_iff {id : UInt32} : id &&& idMask = id ↔ id.toNat < 4096 :=
  WordField.and_mask_eq_self_iff 12 rfl

/-- The low bits of a byte survive the way through a word. -/
theorem scale_field (scale : UInt8) : (scale.toUInt32 &&& 0xf).toUInt8 = scale % 16 := by
  rw [← UInt8.toNat_inj, UInt32.toNat_toUInt8, UInt32.toNat_and, UInt8.toNat_toUInt32,
    UInt8.toNat_mod]
  change (scale.toNat &&& (2 ^ 4 - 1)) % 2 ^ 8 = scale.toNat % 16
  rw [Nat.and_two_pow_sub_one_eq_mod]
  omega

/-- A byte survives the way through a word. -/
theorem timeout_field (timeout : UInt8) : (timeout.toUInt32 &&& 0xff).toUInt8 = timeout := by
  have small := timeout.toNat_lt
  rw [← UInt8.toNat_inj, UInt32.toNat_toUInt8, UInt32.toNat_and, UInt8.toNat_toUInt32]
  change (timeout.toNat &&& (2 ^ 8 - 1)) % 2 ^ 8 = timeout.toNat
  rw [Nat.and_two_pow_sub_one_eq_mod]
  omega

/-- What a narrow field holds survives the way through a byte. -/
theorem toUInt32_toUInt8_read (field : WordField) (narrow : field.mask.toNat < 256)
    (word : UInt32) : (field.read word).toUInt8.toUInt32 = field.read word := by
  have small : (field.read word).toNat < 256 := by
    unfold WordField.read
    rw [UInt32.toNat_and]
    exact Nat.and_le_right.trans_lt narrow
  rw [← UInt32.toNat_inj, UInt8.toNat_toUInt32, UInt32.toNat_toUInt8]
  exact Nat.mod_eq_of_lt small

theorem decode_encode_channel (id : UInt32) :
    decode (channel id).encode = channel (id &&& idMask) := by
  have plain : groupField.read (id &&& idMask) = 0 := by
    have apart : idMask &&& groupField.bits = 0 := by decide
    rw [← WordField.and_bits_eq_zero_iff (by decide), UInt32.and_assoc, apart, UInt32.and_zero]
  rw [decode_eq]
  change (if groupField.read (id &&& idMask) = 0 then channel (id &&& idMask &&& idMask) else _) = _
  rw [if_pos plain, UInt32.and_assoc, UInt32.and_self]

theorem decode_encode_group (id len : UInt32) (timeslice : Timeslice) :
    decode (group id len timeslice).encode =
      group (id &&& idMask) len { timeslice with scale := timeslice.scale % 16 } := by
  have number : idField.read (group id len timeslice).encode.first = id &&& 0xfff :=
    read_encode_group (by simp [headerParts])
  have header : groupField.read (group id len timeslice).encode.first = 1 &&& 1 :=
    read_encode_group (by simp [headerParts])
  have scale : scaleField.read (group id len timeslice).encode.first =
      timeslice.scale.toUInt32 &&& 0xf := read_encode_group (by simp [headerParts])
  have timeout : timeoutField.read (group id len timeslice).encode.first =
      timeslice.timeout.toUInt32 &&& 0xff := read_encode_group (by simp [headerParts])
  rw [decode_eq, if_neg (by rw [header]; decide), and_idMask_eq_read, number, scale, timeout,
    scale_field, timeout_field]
  rfl

/-- Decoding the words of an entry gives back what they hold of it. -/
theorem decode_encode {entry : RunlistEntry} (fits : entry.id.toNat < 4096) :
    decode entry.encode = entry.stored := by
  cases entry with
  | channel id =>
    rw [decode_encode_channel, show id &&& idMask = id from and_idMask_eq_self_iff.mpr fits]
    rfl
  | group id len timeslice =>
    rw [decode_encode_group, show id &&& idMask = id from and_idMask_eq_self_iff.mpr fits]
    rfl

/-- An entry whose parts have room in its words. -/
def Representable : RunlistEntry → Prop
  | channel id => id.toNat < 4096
  | group id _ timeslice => id.toNat < 4096 ∧ timeslice.scale.toNat < 16

/-- An entry comes back from its words just when its parts have room there. -/
theorem decode_encode_iff (entry : RunlistEntry) :
    decode entry.encode = entry ↔ entry.Representable := by
  cases entry with
  | channel id =>
    rw [decode_encode_channel, channel.injEq]
    exact and_idMask_eq_self_iff
  | group id len timeslice =>
    have scale : timeslice.scale % 16 = timeslice.scale ↔ timeslice.scale.toNat < 16 := by
      rw [← UInt8.toNat_inj, UInt8.toNat_mod]
      exact Nat.mod_eq_iff_lt (by decide)
    rw [decode_encode_group, group.injEq, Timeslice.mk.injEq, and_idMask_eq_self_iff, scale]
    simp only [Representable, and_true, true_and]

end RunlistEntry

/-- The bits of two words that mean something: the identifier of a channel, or the header of a
group and the number of its members. -/
def EntryWords.defined (words : EntryWords) : EntryWords :=
  if words.first &&& RunlistEntry.groupBit = 0 then
    ⟨words.first &&& RunlistEntry.idMask, 0⟩
  else
    ⟨words.first &&& RunlistEntry.headerBits, words.second⟩

namespace RunlistEntry

/-- Words come back from the entry they describe but for the bits without meaning. -/
theorem encode_decode (words : EntryWords) : (decode words).encode = words.defined := by
  have clear : words.first &&& groupBit = 0 ↔ groupField.read words.first = 0 :=
    WordField.and_bits_eq_zero_iff (show groupField.Fits by decide)
  unfold EntryWords.defined
  rw [decode_eq]
  rcases
      WordField.read_single (show groupField.mask = 1 from rfl) words.first with plain | header
  · rw [if_pos plain, if_pos (clear.mpr plain)]
    change EntryWords.mk (words.first &&& idMask &&& idMask) 0 = _
    rw [UInt32.and_assoc, UInt32.and_self]
  · have set : groupField.read words.first ≠ 0 := by
      rw [header]
      decide
    rw [if_neg set, if_neg (mt clear.mp set), encode_group, ← cover_headerFields,
      ← WordField.pack_read, and_idMask_eq_read]
    unfold headerParts
    rw [toUInt32_toUInt8_read scaleField (by decide),
      toUInt32_toUInt8_read timeoutField (by decide), ← header]
    rfl

/-- Words and entries tell each other: an entry comes back from its words just when its parts have
room there, words come back from their entry but for the bits without meaning, and no two entries
with room share their words. -/
theorem words_tell_entry :
    (∀ entry : RunlistEntry, decode entry.encode = entry ↔ entry.Representable) ∧
      (∀ words : EntryWords, (decode words).encode = words.defined) ∧
      ∀ one other : RunlistEntry, one.Representable → other.Representable →
        one.encode = other.encode → one = other := by
  refine ⟨decode_encode_iff, encode_decode, ?_⟩
  intro one other oneFits otherFits same
  calc one = decode one.encode := ((decode_encode_iff one).mpr oneFits).symm
    _ = decode other.encode := congrArg decode same
    _ = other := (decode_encode_iff other).mpr otherFits

/-- The headers of the last group that differ in the highest bit of the scale differ in words. -/
theorem words_tell_scale :
    (group 4095 0 ⟨15, 255⟩).encode ≠ (group 4095 0 ⟨7, 255⟩).encode := by
  intro same
  have alike := words_tell_entry.2.2 _ _ (by exact ⟨by decide, by decide⟩)
    (by exact ⟨by decide, by decide⟩) same
  exact absurd alike (by decide)

end RunlistEntry

end GpuSched
