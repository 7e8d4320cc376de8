import GpuSched.Bitmap
import Mathlib.Data.List.Sort
import Mathlib.Data.Nat.Bitwise

/-!
# Members of a bitmap

A bitmap is known by its members: adding or taking a number away changes the membership of that
number alone, and the list of the members is the ascending list of the numbers below the size that
are members.
-/
namespace GpuSched.Bitmap

variable {map : Bitmap} {bit other : Nat}

/-- The mask of a bit is a power of two. -/
theorem toNat_bitMask {offset : Nat} (inWord : offset < 64) :
    (bitMask offset).toNat = 2 ^ offset := by
  have power : 2 ^ offset < 2 ^ 64 := Nat.pow_lt_pow_right (by decide) inWord
  have small : offset % 2 ^ 64 = offset := Nat.mod_eq_of_lt (by omega)
  rw [bitMask, UInt64.toNat_shiftLeft, UInt64.toNat_ofNat', small, Nat.mod_eq_of_lt inWord]
  rw [show (1 : UInt64).toNat = 1 from rfl, Nat.one_shiftLeft, Nat.mod_eq_of_lt power]

/-- A bit of a word is a bit of its value. -/
theorem wordTest_eq_testBit (word : UInt64) {offset : Nat} (inWord : offset < 64) :
    wordTest word offset = word.toNat.testBit offset := by
  have masked :
      (word &&& bitMask offset).toNat = (word.toNat.testBit offset).toNat * 2 ^ offset := by
    rw [UInt64.toNat_and, toNat_bitMask inWord, Nat.and_two_pow]
  rw [wordTest, Bool.eq_iff_iff, bne_iff_ne, ne_eq, ← UInt64.toNat_inj, masked]
  cases word.toNat.testBit offset with
  | false => simp
  | true => simp

/-- Setting a bit of a word changes that bit alone. -/
theorem wordTest_set (word : UInt64) {offset place : Nat} (inWord : offset < 64)
    (placed : place < 64) :
    wordTest (word ||| bitMask offset) place =
      (wordTest word place || decide (place = offset)) := by
  rw [wordTest_eq_testBit _ placed, wordTest_eq_testBit _ placed, UInt64.toNat_or,
    Nat.testBit_or, toNat_bitMask inWord, Nat.testBit_two_pow, decide_eq_decide.mpr eq_comm]

/-- Clearing a bit of a word changes that bit alone. -/
theorem wordTest_clear (word : UInt64) {offset place : Nat} (inWord : offset < 64)
    (placed : place < 64) :
    wordTest (word &&& ~~~ bitMask offset) place =
      (wordTest word place && !decide (place = offset)) := by
  have inverse : (~~~ bitMask offset).toNat.testBit place = !decide (place = offset) := by
    have mask : (bitMask offset).toNat.testBit place = decide (place = offset) := by
      rw [toNat_bitMask inWord, Nat.testBit_two_pow, decide_eq_decide.mpr eq_comm]
    rw [← mask, ← UInt64.toNat_toBitVec, ← UInt64.toNat_toBitVec, UInt64.toBitVec_not,
      BitVec.testBit_toNat, BitVec.testBit_toNat, BitVec.getLsbD_not]
    simp [placed]
  rw [wordTest_eq_testBit _ placed, wordTest_eq_testBit _ placed, UInt64.toNat_and,
    Nat.testBit_and, inverse]

/-- Every member lies below the size. -/
def Bounded (map : Bitmap) : Prop := ∀ bit, map.member bit = true → bit < map.size

/-- The bitmap with a number added. -/
def including (map : Bitmap) (bit : Nat) : Bitmap :=
  map.withWord bit (map.wordOf bit ||| bitMask (bit % 64))

/-- The bitmap with a number taken away. -/
def excluding (map : Bitmap) (bit : Nat) : Bitmap :=
  map.withWord bit (map.wordOf bit &&& ~~~ bitMask (bit % 64))

/-- A number below the size has a word. -/
theorem word_lt_of_lt (below : bit < map.size) : bit / 64 < map.words.size := by
  rw [map.words_size]
  omega

/-- A replaced word is found under the bits that it holds. -/
theorem wordOf_withWord (word : UInt64) (below : bit < map.size) :
    (map.withWord bit word).wordOf other =
      if other / 64 = bit / 64 then word else map.wordOf other := by
  have inArray := word_lt_of_lt below
  unfold wordOf withWord
  simp only [Array.getD_eq_getD_getElem?, Array.getElem?_setIfInBounds]
  by_cases same : bit / 64 = other / 64
  · rw [if_pos same, if_pos same.symm, if_pos (same ▸ inArray)]
    rfl
  · rw [if_neg same, if_neg (Ne.symm same)]

/-- A word that differs from the old one in one bit changes the membership of one number. -/
theorem member_withWord (below : bit < map.size) {word : UInt64} (value : Bool)
    (test : ∀ place < 64, wordTest word place =
      if place = bit % 64 then value else wordTest (map.wordOf bit) place) :
    (map.withWord bit word).member other = if other = bit then value else map.member other := by
  unfold member
  rw [wordOf_withWord _ below]
  split
  · rename_i same
    have sameWord : map.wordOf bit = map.wordOf other := by rw [wordOf, wordOf, same]
    have place : other % 64 = bit % 64 ↔ other = bit := by omega
    rw [test _ (Nat.mod_lt _ (by decide)), sameWord]
    simp only [place]
  · have apart : other ≠ bit := by
      rintro rfl
      contradiction
    rw [if_neg apart]

/-- Adding a number makes it a member. -/
theorem member_including (below : bit < map.size) :
    (map.including bit).member other = (map.member other || decide (other = bit)) := by
  refine (member_withWord below true fun place placed => ?_).trans ?_
  · rw [wordTest_set _ (Nat.mod_lt _ (by decide)) placed]
    split <;> simp_all
  · split <;> simp_all

/-- Taking a number away makes it no member. -/
theorem member_excluding (below : bit < map.size) :
    (map.excluding bit).member other = (map.member other && !decide (other = bit)) := by
  refine (member_withWord below false fun place placed => ?_).trans ?_
  · rw [wordTest_clear _ (Nat.mod_lt _ (by decide)) placed]
    split <;> simp_all
  · split <;> simp_all

/-- A new bitmap has no member. -/
@[simp] theorem member_empty (size bit : Nat) : (empty size).member bit = false := by
  have zero : (empty size).wordOf bit = 0 := by
    simp only [wordOf, empty, Array.getD_eq_getD_getElem?, Array.getElem?_replicate]
    split <;> rfl
  rw [member, zero]
  simp [wordTest]

/-- A new bitmap is bounded. -/
theorem bounded_empty (size : Nat) : (empty size).Bounded := by
  intro bit isMember
  rw [member_empty] at isMember
  cases isMember

/-- Adding a number below the size keeps a bitmap bounded. -/
theorem Bounded.including (bounded : map.Bounded) (below : bit < map.size) :
    (map.including bit).Bounded := by
  intro other isMember
  rw [member_including below, Bool.or_eq_true, decide_eq_true_iff] at isMember
  rcases isMember with old | rfl
  · exact bounded other old
  · exact below

/-- Taking a number away keeps a bitmap bounded. -/
theorem Bounded.excluding (bounded : map.Bounded) (below : bit < map.size) :
    (map.excluding bit).Bounded := by
  intro other isMember
  rw [member_excluding below, Bool.and_eq_true] at isMember
  exact bounded other isMember.1

/-- The bitmap with a number added or taken away. -/
def changing (map : Bitmap) (bit : Nat) (add : Bool) : Bitmap :=
  if add then map.including bit else map.excluding bit

/-- The size stays. -/
@[simp] theorem size_changing (add : Bool) : (map.changing bit add).size = map.size := by
  cases add <;> rfl

/-- Adding or taking away changes the membership of one number. -/
theorem member_changing (below : bit < map.size) (add : Bool) :
    (map.changing bit add).member other = if other = bit then add else map.member other := by
  unfold changing
  cases add with
  | true =>
    rw [if_pos rfl, member_including below]
    by_cases own : other = bit <;> simp [own]
  | false =>
    rw [if_neg (by decide), member_excluding below]
    by_cases own : other = bit <;> simp [own]

/-- A bitmap stays bounded when a number below the size is added or taken away. -/
theorem Bounded.changing (bounded : map.Bounded) (below : bit < map.size) (add : Bool) :
    (map.changing bit add).Bounded := by
  cases add with
  | true => exact bounded.including below
  | false => exact bounded.excluding below

/-- A number below the size can be tested. -/
theorem test_of_lt (below : bit < map.size) : map.test bit = .ok (map.member bit) := by
  rw [test, if_pos below]

/-- A number below the size can be added. -/
theorem testAndSet_of_lt (below : bit < map.size) :
    map.testAndSet bit = .ok (map.member bit, map.including bit) := by
  rw [testAndSet, test_of_lt below]
  rfl

/-- A number below the size can be taken away. -/
theorem testAndClear_of_lt (below : bit < map.size) :
    map.testAndClear bit = .ok (map.member bit, map.excluding bit) := by
  rw [testAndClear, test_of_lt below]
  rfl

/-- The set bits of a word are those that are tested. -/
theorem mem_wordOnes {word : UInt64} {offset : Nat} :
    offset ∈ wordOnes word ↔ offset < 64 ∧ wordTest word offset = true := by
  rw [wordOnes, List.mem_filter, List.mem_range]

/-- The set bits of a word are listed in ascending order. -/
theorem wordOnes_ascending (word : UInt64) : (wordOnes word).Pairwise (· < ·) :=
  List.pairwise_lt_range.filter _

/-- The list of the members has just the members. -/
theorem mem_ones : bit ∈ map.ones ↔ map.member bit = true := by
  unfold ones
  simp only [List.mem_flatMap, List.mem_map, mem_wordOnes, Prod.exists]
  constructor
  · rintro ⟨word, index, found, offset, ⟨inWord, set⟩, rfl⟩
    have place : (index * 64 + offset) / 64 = index := by omega
    have rest : (index * 64 + offset) % 64 = offset := by omega
    rw [List.mk_mem_zipIdx_iff_getElem?, Array.getElem?_toList] at found
    rw [member, wordOf, place, rest, Array.getD_eq_getD_getElem?, found]
    exact set
  · intro isMember
    have set : wordTest (map.wordOf bit) (bit % 64) = true := isMember
    rw [wordOf, Array.getD_eq_getD_getElem?] at set
    cases found : map.words[bit / 64]? with
    | none =>
      rw [found] at set
      simp [wordTest] at set
    | some word =>
      rw [found] at set
      refine ⟨word, bit / 64, ?_, bit % 64, ⟨Nat.mod_lt _ (by decide), set⟩, by omega⟩
      rw [List.mk_mem_zipIdx_iff_getElem?, Array.getElem?_toList]
      exact found

/-- The list of the members is ascending. -/
theorem ones_ascending : map.ones.Pairwise (· < ·) := by
  unfold ones
  rw [List.pairwise_flatMap]
  constructor
  · rintro ⟨word, index⟩ _
    rw [List.pairwise_map]
    exact (wordOnes_ascending word).imp fun less => by omega
  · have indices : map.words.toList.zipIdx.Pairwise (fun left right => left.2 < right.2) := by
      rw [← List.pairwise_map (f := Prod.snd) (R := (· < ·)), List.zipIdx_map_snd]
      exact List.pairwise_lt_range' ..
    refine indices.imp fun {left right} less first inFirst second inSecond => ?_
    obtain ⟨low, lowSet, rfl⟩ := List.mem_map.mp inFirst
    obtain ⟨high, _, rfl⟩ := List.mem_map.mp inSecond
    have inWord := (mem_wordOnes.mp lowSet).1
    omega

/-- The members of a bounded bitmap are listed in ascending order. -/
theorem Bounded.ones_eq (bounded : map.Bounded) :
    map.ones = (List.range map.size).filter map.member := by
  have sorted : ((List.range map.size).filter map.member).Pairwise (· < ·) :=
    List.pairwise_lt_range.filter _
  refine List.Perm.eq_of_pairwise' ones_ascending sorted ?_
  rw [List.perm_ext_iff_of_nodup (ones_ascending.imp Nat.ne_of_lt) (sorted.imp Nat.ne_of_lt)]
  intro bit
  rw [mem_ones, List.mem_filter, List.mem_range]
  exact ⟨fun isMember => ⟨bounded bit isMember, isMember⟩, And.right⟩

end GpuSched.Bitmap
