import GpuSched.Proofs.Bitmap
import GpuSched.Proofs.Contract
import Mathlib.Data.Finset.Card
import Mathlib.Data.Finset.Insert
import Mathlib.Data.Finset.Erase

/-!
# Bitmaps as finite sets

Whatever numbers are asked for, added and taken away, a bitmap holds a finite set of numbers below
its size. Each call answers whether its number was in the set before it, the listing of the members
goes through the set in ascending order, and the count is the cardinality of the set. The bits of a
word can be listed by clearing the lowest set bit until none is left; the word becomes smaller each
time, so this comes to an end, and it finds the bits in the order in which they are listed.
-/
namespace GpuSched.Bitmap

open Operation (bind_eq_ok_iff pure_eq_ok_iff)

/-- The number of the lowest set bit of a word, and 64 if no bit is set. -/
def lowestBit (word : UInt64) : Nat := ((List.range 64).find? (wordTest word)).getD 64

/-- A word without its lowest set bit. -/
def clearLowest (word : UInt64) : UInt64 := word &&& (word - 1)

/-- A number less one has the bits above its lowest set bit, and those below it. -/
theorem testBit_and_sub_one {number lowest place : Nat} (set : number.testBit lowest = true)
    (least : ∀ lower < lowest, number.testBit lower = false) :
    (number &&& (number - 1)).testBit place =
      (number.testBit place && !decide (place = lowest)) := by
  have positive : 0 < 2 ^ lowest := Nat.two_pow_pos lowest
  have double : 2 ^ (lowest + 1) = 2 ^ lowest * 2 := Nat.pow_succ 2 lowest
  have rest : number % 2 ^ (lowest + 1) = 2 ^ lowest := by
    apply Nat.eq_of_testBit_eq
    intro bit
    rw [Nat.testBit_mod_two_pow, Nat.testBit_two_pow]
    rcases Nat.lt_trichotomy bit lowest with below | same | above
    · rw [least bit below]
      simp [Nat.ne_of_gt below]
    · rw [same, set]
      simp
    · simp [Nat.ne_of_lt above, Nat.not_lt.mpr above]
  have whole : number = 2 ^ (lowest + 1) * (number / 2 ^ (lowest + 1)) + 2 ^ lowest := by
    conv_lhs => rw [← Nat.div_add_mod number (2 ^ (lowest + 1)), rest]
  have less : number - 1 =
      2 ^ (lowest + 1) * (number / 2 ^ (lowest + 1)) + (2 ^ lowest - 1) := by
    omega
  have bits : number.testBit place =
      if place < lowest + 1 then (2 ^ lowest).testBit place
      else (number / 2 ^ (lowest + 1)).testBit (place - (lowest + 1)) := by
    conv_lhs => rw [whole]
    exact Nat.testBit_two_pow_mul_add _ (by omega) _
  have bits_less : (number - 1).testBit place =
      if place < lowest + 1 then (2 ^ lowest - 1).testBit place
      else (number / 2 ^ (lowest + 1)).testBit (place - (lowest + 1)) := by
    rw [less]
    exact Nat.testBit_two_pow_mul_add _ (by omega) _
  rw [Nat.testBit_and, bits_less, bits, Nat.testBit_two_pow, Nat.testBit_two_pow_sub_one]
  by_cases low : place < lowest + 1
  · rw [if_pos low, if_pos low]
    by_cases same : place = lowest
    · simp [same]
    · simp [Ne.symm same]
  · have apart : place ≠ lowest := by omega
    rw [if_neg low, if_neg low]
    simp [apart]

/-- A word without its lowest bit is smaller, as long as it has one. -/
theorem clearLowest_lt {word : UInt64} (nonzero : word ≠ 0) :
    (clearLowest word).toNat < word.toNat := by
  have positive : 0 < word.toNat := by
    apply Nat.pos_of_ne_zero
    rwa [ne_eq, ← UInt64.toNat_inj] at nonzero
  have one_le : (1 : UInt64) ≤ word := UInt64.le_iff_toNat_le.mpr positive
  calc
    (clearLowest word).toNat ≤ (word - 1).toNat := by
      rw [clearLowest, UInt64.toNat_and]
      exact Nat.and_le_right
    _ = word.toNat - 1 := UInt64.toNat_sub_of_le _ _ one_le
    _ < word.toNat := Nat.sub_lt positive Nat.one_pos

/-- The set bits of a word, found by clearing the lowest one until none is left. -/
def lowestFirst (word : UInt64) : List Nat :=
  if word = 0 then [] else lowestBit word :: lowestFirst (clearLowest word)
termination_by word.toNat
decreasing_by exact clearLowest_lt ‹_›

/-- A word that is not zero has a lowest set bit. -/
theorem lowestBit_spec {word : UInt64} (nonzero : word ≠ 0) :
    lowestBit word < 64 ∧ wordTest word (lowestBit word) = true ∧
      ∀ lower < lowestBit word, wordTest word lower = false := by
  unfold lowestBit
  cases first : (List.range 64).find? (wordTest word) with
  | none =>
    have clear : ∀ bit < 64, wordTest word bit = false := by
      intro bit inWord
      simpa using List.find?_eq_none.mp first bit (List.mem_range.mpr inWord)
    refine absurd ?_ nonzero
    apply UInt64.toNat_inj.mp
    apply Nat.eq_of_testBit_eq
    intro bit
    by_cases inWord : bit < 64
    · rw [← wordTest_eq_testBit word inWord, clear bit inWord]
      simp
    · have small : word.toNat < 2 ^ bit :=
        word.toNat_lt.trans_le (Nat.pow_le_pow_right (by decide) (Nat.not_lt.mp inWord))
      rw [Nat.testBit_lt_two_pow small]
      simp
  | some bit =>
    obtain ⟨set, inWord, earlier⟩ := List.find?_range_eq_some.mp first
    rw [Option.getD_some]
    refine ⟨List.mem_range.mp inWord, set, fun lower below => ?_⟩
    simpa using earlier lower below

/-- Clearing the lowest bit clears that bit alone. -/
theorem wordTest_clearLowest {word : UInt64} (nonzero : word ≠ 0) {place : Nat}
    (placed : place < 64) :
    wordTest (clearLowest word) place =
      (wordTest word place && !decide (place = lowestBit word)) := by
  obtain ⟨inWord, set, least⟩ := lowestBit_spec nonzero
  have positive : 0 < word.toNat := by
    apply Nat.pos_of_ne_zero
    rwa [ne_eq, ← UInt64.toNat_inj] at nonzero
  have one_le : (1 : UInt64) ≤ word := UInt64.le_iff_toNat_le.mpr positive
  have less : (word - 1).toNat = word.toNat - 1 := UInt64.toNat_sub_of_le _ _ one_le
  rw [wordTest_eq_testBit _ placed, wordTest_eq_testBit _ placed, clearLowest, UInt64.toNat_and,
    less]
  apply testBit_and_sub_one
  · rwa [← wordTest_eq_testBit word inWord]
  · intro lower below
    rw [← wordTest_eq_testBit word (by omega)]
    exact least lower below

/-- The lowest bit is listed first, and then those of the word without it. -/
theorem wordOnes_of_ne_zero {word : UInt64} (nonzero : word ≠ 0) :
    wordOnes word = lowestBit word :: wordOnes (clearLowest word) := by
  obtain ⟨inWord, set, least⟩ := lowestBit_spec nonzero
  have member : ∀ bit, bit ∈ wordOnes word ↔
      bit ∈ lowestBit word :: wordOnes (clearLowest word) := by
    intro bit
    rw [List.mem_cons, mem_wordOnes, mem_wordOnes]
    by_cases same : bit = lowestBit word
    · simp [same, inWord, set]
    · by_cases placed : bit < 64
      · simp [same, placed, wordTest_clearLowest nonzero placed]
      · simp [same, placed]
  have sorted : (lowestBit word :: wordOnes (clearLowest word)).Pairwise (· < ·) := by
    refine List.pairwise_cons.mpr ⟨fun bit mem => ?_, wordOnes_ascending _⟩
    obtain ⟨placed, left⟩ := mem_wordOnes.mp mem
    rw [wordTest_clearLowest nonzero placed, Bool.and_eq_true, Bool.not_eq_true',
      decide_eq_false_iff_not] at left
    by_contra not_above
    have below : bit < lowestBit word := by omega
    rw [least bit below] at left
    exact Bool.false_ne_true left.1
  refine List.Perm.eq_of_pairwise' (wordOnes_ascending word) sorted ?_
  rw [List.perm_ext_iff_of_nodup ((wordOnes_ascending word).imp Nat.ne_of_lt)
    (sorted.imp Nat.ne_of_lt)]
  exact member

/-- Clearing the lowest bit again and again finds the set bits in ascending order. -/
theorem lowestFirst_eq (word : UInt64) : lowestFirst word = wordOnes word := by
  fun_induction lowestFirst word with
  | case1 => decide
  | case2 word nonzero ih => rw [ih, wordOnes_of_ne_zero nonzero]

/-- The members of a bitmap, word by word and from the lowest bit of each word upward. -/
def scan (map : Bitmap) : List Nat :=
  map.words.toList.zipIdx.flatMap fun (word, index) =>
    (lowestFirst word).map (fun offset => index * 64 + offset)

/-- The members are listed as they are found. -/
theorem scan_eq_ones (map : Bitmap) : map.scan = map.ones := by
  unfold scan ones
  simp only [lowestFirst_eq]

/-- The count is the length of the list of the members. -/
theorem count_eq_length (map : Bitmap) : map.count = map.ones.length := by
  calc
    map.count = (map.words.toList.map fun word => (wordOnes word).length).sum := by
      rw [count, List.sum, List.foldr_map]
    _ = (map.words.toList.zipIdx.map fun entry => (wordOnes entry.1).length).sum := by
      conv_lhs => rw [← List.zipIdx_map_fst 0 map.words.toList, List.map_map]
      rfl
    _ = map.ones.length := by
      rw [ones, List.length_flatMap]
      simp only [List.length_map]

/-- A word has no set bits just when it is zero. -/
theorem wordOnes_eq_nil_iff {word : UInt64} : wordOnes word = [] ↔ word = 0 := by
  constructor
  · intro none_set
    by_contra nonzero
    rw [wordOnes_of_ne_zero nonzero] at none_set
    cases none_set
  · rintro rfl
    decide

/-- A bitmap is empty just when nothing is listed. -/
theorem isEmpty_iff (map : Bitmap) : map.isEmpty = true ↔ map.ones = [] := by
  have words : map.isEmpty = true ↔ ∀ word ∈ map.words.toList, word = 0 := by
    rw [isEmpty, ← Array.all_toList, List.all_eq_true]
    simp
  rw [words, ones, List.flatMap_eq_nil_iff]
  constructor
  · rintro zero ⟨word, index⟩ mem
    have found : word ∈ map.words.toList := List.fst_mem_of_mem_zipIdx mem
    rw [zero word found]
    rfl
  · intro nothing word mem
    obtain ⟨index, inside, rfl⟩ := List.mem_iff_getElem.mp mem
    have entry : (map.words.toList[index], index) ∈ map.words.toList.zipIdx := by
      rw [List.mk_mem_zipIdx_iff_getElem?]
      exact List.getElem?_eq_getElem inside
    have none_set := nothing _ entry
    rwa [List.map_eq_nil_iff, wordOnes_eq_nil_iff] at none_set

/-- A call that asks for a number, adds it or takes it away. -/
inductive Call where
  | test (bit : Nat)
  | testAndSet (bit : Nat)
  | testAndClear (bit : Nat)
  deriving DecidableEq, Repr

namespace Call

/-- The number that a call is about. -/
def bit : Call → Nat
  | test bit | testAndSet bit | testAndClear bit => bit

/-- The set after a call. -/
def settle (members : Finset Nat) : Call → Finset Nat
  | test _ => members
  | testAndSet bit => insert bit members
  | testAndClear bit => members.erase bit

end Call

/-- Carry out a call; the answer is whether its number was a member before. -/
def perform (map : Bitmap) : Call → Except Failure (Bool × Bitmap)
  | .test bit => do return (← map.test bit, map)
  | .testAndSet bit => map.testAndSet bit
  | .testAndClear bit => map.testAndClear bit

/-- Carry out some calls one after another and answer all of them. -/
def performAll (map : Bitmap) : List Call → Except Failure (List Bool × Bitmap)
  | [] => .ok ([], map)
  | call :: calls => do
      let (before, map) ← map.perform call
      let (answers, map) ← map.performAll calls
      return (before :: answers, map)

/-- The set after some calls. -/
def contents (members : Finset Nat) (calls : List Call) : Finset Nat :=
  calls.foldl Call.settle members

/-- Whether the number of each call was in the set before it. -/
def memberships (members : Finset Nat) : List Call → List Bool
  | [] => []
  | call :: calls => decide (call.bit ∈ members) :: memberships (call.settle members) calls

/-- A bitmap holds a set of numbers below a bound, which is its size. -/
structure Holds (map : Bitmap) (bound : Nat) (members : Finset Nat) : Prop where
  size : map.size = bound
  below : ∀ bit ∈ members, bit < bound
  member : ∀ bit, map.member bit = decide (bit ∈ members)

section Calls

variable {map : Bitmap} {bound : Nat} {members : Finset Nat}

/-- A new bitmap holds the empty set. -/
theorem holds_empty (bound : Nat) : (empty bound).Holds bound ∅ where
  size := rfl
  below bit mem := absurd mem (Finset.notMem_empty bit)
  member bit := by
    rw [member_empty]
    rfl

/-- A call about a number below the size answers whether it was in the set, and the bitmap holds the
set after the call. -/
theorem Holds.perform (holds : map.Holds bound members) (call : Call) (inRange : call.bit < bound) :
    ∃ after, map.perform call = .ok (decide (call.bit ∈ members), after) ∧
      after.Holds bound (call.settle members) := by
  have within : call.bit < map.size := holds.size ▸ inRange
  rw [← holds.member]
  cases call with
  | test bit =>
    have below : bit < map.size := within
    refine ⟨map, ?_, holds⟩
    rw [Bitmap.perform, test_of_lt below]
    rfl
  | testAndSet bit =>
    have below : bit < map.size := within
    refine ⟨map.including bit, testAndSet_of_lt below, holds.size, ?_, ?_⟩
    · intro other mem
      rcases Finset.mem_insert.mp mem with rfl | old
      · exact inRange
      · exact holds.below other old
    · intro other
      rw [member_including below, holds.member, Call.settle, ← Bool.decide_or, decide_eq_decide,
        Finset.mem_insert, or_comm]
  | testAndClear bit =>
    have below : bit < map.size := within
    refine ⟨map.excluding bit, testAndClear_of_lt below, holds.size, ?_, ?_⟩
    · intro other mem
      exact holds.below other (Finset.mem_of_mem_erase mem)
    · intro other
      rw [member_excluding below, holds.member, Call.settle, ← decide_not, ← Bool.decide_and,
        decide_eq_decide, Finset.mem_erase, and_comm]

/-- Calls about numbers below the size are answered as the set says, and the bitmap holds the set
after them. -/
theorem Holds.performAll (holds : map.Holds bound members) (calls : List Call)
    (inRange : ∀ call ∈ calls, call.bit < bound) :
    ∃ after, map.performAll calls = .ok (memberships members calls, after) ∧
      after.Holds bound (contents members calls) := by
  induction calls generalizing map members with
  | nil => exact ⟨map, rfl, holds⟩
  | cons call calls ih =>
    obtain ⟨middle, first, held⟩ := holds.perform call (inRange call List.mem_cons_self)
    obtain ⟨after, rest, kept⟩ :=
      ih held fun other mem => inRange other (List.mem_cons_of_mem call mem)
    refine ⟨after, ?_, kept⟩
    rw [Bitmap.performAll, first]
    simp only [bind, Except.bind]
    rw [rest]
    rfl

/-- A bitmap lists the set that it holds. -/
theorem Holds.mem_ones (holds : map.Holds bound members) (bit : Nat) :
    bit ∈ map.ones ↔ bit ∈ members := by
  rw [Bitmap.mem_ones, holds.member, decide_eq_true_iff]

/-- The count of a bitmap is the cardinality of the set that it holds. -/
theorem Holds.count (holds : map.Holds bound members) : map.count = members.card := by
  have nodup : map.ones.Nodup := ones_ascending.imp Nat.ne_of_lt
  have listed : map.ones.toFinset = members := by
    ext bit
    rw [List.mem_toFinset, holds.mem_ones]
  rw [count_eq_length, ← List.toFinset_card_of_nodup nodup, listed]

/-- A bitmap is empty just when the set that it holds is. -/
theorem Holds.isEmpty (holds : map.Holds bound members) :
    map.isEmpty = true ↔ members = ∅ := by
  rw [isEmpty_iff, List.eq_nil_iff_forall_not_mem, Finset.eq_empty_iff_forall_notMem]
  exact forall_congr' fun bit => not_congr (holds.mem_ones bit)

end Calls

/-- A bitmap is a finite set of numbers below its size: a run of calls about such numbers answers
each time whether the number was in the set, and leaves a bitmap that lists the set in ascending
order, as it is found by clearing lowest bits, counts it and tells whether it is empty. -/
theorem runs_as_set (size : Nat) (calls : List Call) (inRange : ∀ call ∈ calls, call.bit < size) :
    ∃ map, (empty size).performAll calls = .ok (memberships ∅ calls, map) ∧
      map.size = size ∧ (∀ bit ∈ contents ∅ calls, bit < size) ∧
      (∀ bit < size, map.test bit = .ok (decide (bit ∈ contents ∅ calls))) ∧
      (∀ bit, bit ∈ map.ones ↔ bit ∈ contents ∅ calls) ∧ map.ones.Pairwise (· < ·) ∧
      map.scan = map.ones ∧ map.count = (contents ∅ calls).card ∧
      (map.isEmpty = true ↔ contents ∅ calls = ∅) := by
  obtain ⟨map, run, holds⟩ := (holds_empty size).performAll calls inRange
  refine ⟨map, run, holds.size, holds.below, fun bit below => ?_, holds.mem_ones, ones_ascending,
    map.scan_eq_ones, holds.count, holds.isEmpty⟩
  rw [test_of_lt (holds.size ▸ below), holds.member]

/-- Numbers in the last and in the first of three words. -/
theorem runs_as_set_across_words :
    (∀ call ∈ [Call.testAndSet 129, .testAndSet 129, .testAndSet 3, .test 64, .testAndClear 3],
      call.bit < 130) ∧
    ∃ map, (empty 130).performAll
        [.testAndSet 129, .testAndSet 129, .testAndSet 3, .test 64, .testAndClear 3] =
          .ok ([false, true, false, false, true], map) ∧
      (∀ bit, bit ∈ map.ones ↔ bit = 129) ∧ map.count = 1 ∧ map.isEmpty = false := by
  have inRange : ∀ call ∈ [Call.testAndSet 129, .testAndSet 129, .testAndSet 3, .test 64,
      .testAndClear 3], call.bit < 130 := by decide
  obtain ⟨map, run, -, -, -, members, -, -, count, isEmpty⟩ := runs_as_set 130 _ inRange
  have left : contents ∅ [.testAndSet 129, .testAndSet 129, .testAndSet 3, .test 64,
      .testAndClear 3] = {129} := by decide
  rw [left] at members count isEmpty
  refine ⟨inRange, map, run, fun bit => ?_, count, ?_⟩
  · rw [members, Finset.mem_singleton]
  · rw [Bool.eq_false_iff, ne_eq, isEmpty]
    exact Finset.singleton_ne_empty 129

end GpuSched.Bitmap
