import Mathlib.Data.Nat.Bitwise

/-!
# Words that are packed from fields

Status words and runlist entries hold several values in one word. A field is a run of bits of a
word, and a word is packed by writing each value into its field. Where the fields are apart, reading
a field gives back as much of its value as fits (`read_pack`), and packing what was read gives back
the bits of the fields (`pack_read`), so the two laws of a layout are known once its fields are.
-/
namespace GpuSched

/-- A run of bits in a word. -/
structure WordField where
  /-- The values that fit, as the mask of their bits. -/
  mask : UInt32
  /-- The place of the lowest bit. -/
  shift : UInt32
  deriving DecidableEq, Repr

namespace WordField

variable {field other : WordField} {word value : UInt32}

/-- The bits of a word that belong to the field. -/
def bits (field : WordField) : UInt32 := field.mask <<< field.shift

/-- The value that a word holds in the field. -/
def read (field : WordField) (word : UInt32) : UInt32 := (word >>> field.shift) &&& field.mask

/-- The word that holds a value in the field and nothing else. -/
def place (field : WordField) (value : UInt32) : UInt32 := (value &&& field.mask) <<< field.shift

/-- All bits of the field are bits of a word. -/
def Fits (field : WordField) : Prop := field.bits >>> field.shift = field.mask

instance : DecidablePred Fits := fun field => inferInstanceAs (Decidable (_ = field.mask))

/-- Two fields share no bit. -/
def Apart (field other : WordField) : Prop := field.bits &&& other.bits = 0

instance : DecidableRel Apart := fun field other =>
  inferInstanceAs (Decidable (field.bits &&& other.bits = 0))

/-- Masking distributes over joining words. -/
theorem and_or (one two three : UInt32) :
    one &&& (two ||| three) = (one &&& two) ||| (one &&& three) := by
  apply UInt32.eq_of_toBitVec_eq
  ext bit
  simp only [UInt32.toBitVec_and, UInt32.toBitVec_or, BitVec.getElem_and, BitVec.getElem_or]
  exact Bool.and_or_distrib_left ..

/-- A value keeps all of its bits under the mask of the lowest ones just when it is small. -/
theorem and_mask_eq_self_iff {mask : UInt32} (width : Nat) (low : mask.toNat = 2 ^ width - 1) :
    value &&& mask = value ↔ value.toNat < 2 ^ width := by
  rw [← UInt32.toNat_inj, UInt32.toNat_and, low, Nat.and_two_pow_sub_one_eq_mod]
  exact Nat.mod_eq_iff_lt (Nat.pow_pos (by decide)).ne'

/-- What a shift there and back leaves of a mask, it leaves of every value under the mask. -/
theorem shift_and_shift (value mask shift : UInt32) :
    ((value <<< shift) >>> shift) &&& ((mask <<< shift) >>> shift) =
      value &&& ((mask <<< shift) >>> shift) := by
  apply UInt32.eq_of_toBitVec_eq
  apply BitVec.eq_of_getLsbD_eq
  intro bit inWord
  simp only [UInt32.toBitVec_and, UInt32.toBitVec_shiftLeft, UInt32.toBitVec_shiftRight,
    BitVec.getLsbD_and, BitVec.getLsbD_shiftLeft', BitVec.ushiftRight_eq',
    BitVec.getLsbD_ushiftRight]
  grind

/-- A word without bits holds zero in every field. -/
@[simp] theorem read_zero : field.read 0 = 0 := by
  unfold read
  rw [UInt32.zero_shiftRight, UInt32.zero_and]

/-- A field of two words that are joined. -/
theorem read_or (one two : UInt32) :
    field.read (one ||| two) = field.read one ||| field.read two := by
  unfold read
  rw [UInt32.shiftRight_or, UInt32.and_comm, and_or, UInt32.and_comm, UInt32.and_comm field.mask]

/-- Placing what was read gives back the bits of the field. -/
theorem place_read : field.place (field.read word) = word &&& field.bits := by
  unfold place read bits
  rw [UInt32.and_assoc, UInt32.and_self]
  apply UInt32.eq_of_toBitVec_eq
  apply BitVec.eq_of_getLsbD_eq
  intro bit inWord
  simp only [UInt32.toBitVec_and, UInt32.toBitVec_shiftLeft, UInt32.toBitVec_shiftRight,
    BitVec.getLsbD_and, BitVec.getLsbD_shiftLeft', BitVec.ushiftRight_eq',
    BitVec.getLsbD_ushiftRight]
  grind

/-- Reading what was placed gives back as much of the value as fits. -/
theorem read_place (fits : field.Fits) : field.read (field.place value) = value &&& field.mask := by
  have whole : (field.mask <<< field.shift) >>> field.shift = field.mask := fits
  have kept := shift_and_shift value field.mask field.shift
  rw [whole] at kept
  unfold read place
  rw [UInt32.shiftLeft_and, UInt32.shiftRight_and, UInt32.and_assoc, whole, UInt32.and_self, kept]

/-- The other bits of a word do not bear on a field. -/
theorem read_and_bits (fits : field.Fits) : field.read (word &&& field.bits) = field.read word := by
  rw [← place_read, read_place fits]
  unfold read
  rw [UInt32.and_assoc, UInt32.and_self]

/-- What is placed in another field is not read. -/
theorem read_place_of_apart (fits : field.Fits) (apart : field.Apart other) :
    field.read (other.place value) = 0 := by
  have inOther : other.place value = (value <<< other.shift) &&& other.bits := by
    unfold place bits
    rw [UInt32.shiftLeft_and]
  rw [← read_and_bits fits, inOther, UInt32.and_assoc, UInt32.and_comm other.bits, apart,
    UInt32.and_zero, read_zero]

/-- The word that holds values in fields and nothing else. -/
def pack (parts : List (WordField × UInt32)) : UInt32 :=
  parts.foldr (fun part word => part.1.place part.2 ||| word) 0

/-- The bits that belong to some fields. -/
def cover (fields : List WordField) : UInt32 :=
  fields.foldr (fun field bits => field.bits ||| bits) 0

/-- A word that is packed from other fields holds zero in the field. -/
theorem read_pack_of_apart (fits : field.Fits) {parts : List (WordField × UInt32)}
    (apart : ∀ other ∈ parts.map Prod.fst, field.Apart other) : field.read (pack parts) = 0 := by
  induction parts with
  | nil => exact read_zero
  | cons part rest ih =>
    have first := apart part.1 List.mem_cons_self
    have later := ih fun other mem => apart other (List.mem_cons_of_mem _ mem)
    change field.read (part.1.place part.2 ||| pack rest) = 0
    rw [read_or, read_place_of_apart fits first, later, UInt32.or_zero]

/-- Each field of a word that is packed from fields apart from each other holds its value. -/
theorem read_pack (fits : field.Fits) {parts : List (WordField × UInt32)}
    (apart : (parts.map Prod.fst).Pairwise Apart) (mem : (field, value) ∈ parts) :
    field.read (pack parts) = value &&& field.mask := by
  induction parts with
  | nil => cases mem
  | cons part rest ih =>
    obtain ⟨first, later⟩ := List.pairwise_cons.mp apart
    change field.read (part.1.place part.2 ||| pack rest) = _
    rw [read_or]
    rcases List.mem_cons.mp mem with rfl | there
    · rw [read_place fits, read_pack_of_apart fits first, UInt32.or_zero]
    · have before := first field (List.mem_map.mpr ⟨_, there, rfl⟩)
      have after : field.Apart part.1 := (UInt32.and_comm ..).trans before
      rw [read_place_of_apart fits after, ih later there, UInt32.zero_or]

/-- Packing what was read of a word gives back the bits of the fields. -/
theorem pack_read (fields : List WordField) (word : UInt32) :
    pack (fields.map fun field => (field, field.read word)) = word &&& cover fields := by
  induction fields with
  | nil => exact UInt32.and_zero.symm
  | cons field rest ih =>
    change field.place (field.read word) ||| pack (rest.map fun field => (field, field.read word)) =
      word &&& (field.bits ||| cover rest)
    rw [place_read, ih, and_or]

/-- A word has no bits of a field just when the field holds zero. -/
theorem and_bits_eq_zero_iff (fits : field.Fits) :
    word &&& field.bits = 0 ↔ field.read word = 0 := by
  constructor
  · intro clear
    rw [← read_and_bits fits, clear, read_zero]
  · intro zero
    rw [← place_read, zero]
    unfold place
    rw [UInt32.zero_and, UInt32.zero_shiftLeft]

/-- A flag of a word is set just when its field does not hold zero. -/
theorem and_bits_ne_zero (fits : field.Fits) :
    (word &&& field.bits != 0) = (field.read word != 0) := by
  rw [Bool.eq_iff_iff, bne_iff_ne, bne_iff_ne, not_iff_not]
  exact and_bits_eq_zero_iff fits

/-- A field of one bit holds zero or one. -/
theorem read_single (single : field.mask = 1) (word : UInt32) :
    field.read word = 0 ∨ field.read word = 1 := by
  have value : (field.read word).toNat = (word >>> field.shift).toNat % 2 := by
    unfold read
    rw [single, UInt32.toNat_and]
    exact Nat.and_one_is_mod _
  rcases Nat.mod_two_eq_zero_or_one (word >>> field.shift).toNat with even | odd
  · exact .inl (UInt32.toNat_inj.mp (value.trans even))
  · exact .inr (UInt32.toNat_inj.mp (value.trans odd))

/-- The value of a flag is read off whether it is set. -/
theorem toUInt32_flag (fits : field.Fits) (single : field.mask = 1) :
    (word &&& field.bits != 0).toUInt32 = field.read word := by
  rw [and_bits_ne_zero fits]
  rcases read_single single word with zero | one
  · rw [zero]
    rfl
  · rw [one]
    rfl

end WordField

end GpuSched
