import GpuSched.Failure

/-!
# Bitmaps

A bitmap is a set of numbers below a fixed size, packed into 64-bit words. Bit `bit` is bit
`bit % 64` of word `bit / 64`. Every access checks its bit against the size.
-/
namespace GpuSched

/-- A set of numbers below `size`. -/
structure Bitmap where
  /-- The bound of the numbers. -/
  size : Nat
  /-- The members, 64 to a word. -/
  words : Array UInt64
  /-- There are just enough words for `size` bits. -/
  words_size : words.size = (size + 63) / 64

namespace Bitmap

/-- The word in which only one bit is set. -/
def bitMask (offset : Nat) : UInt64 := 1 <<< UInt64.ofNat offset

/-- Whether a bit of a word is set. -/
def wordTest (word : UInt64) (offset : Nat) : Bool := word &&& bitMask offset != 0

/-- The set bits of a word, ascending. -/
def wordOnes (word : UInt64) : List Nat := (List.range 64).filter (wordTest word)

/-- The set without members. -/
def empty (size : Nat) : Bitmap :=
  ⟨size, Array.replicate ((size + 63) / 64) 0, by simp⟩

instance : Inhabited Bitmap := ⟨empty 0⟩

/-- The word that holds a bit. -/
def wordOf (map : Bitmap) (bit : Nat) : UInt64 := map.words.getD (bit / 64) 0

/-- Whether a number is a member, without the bound. -/
def member (map : Bitmap) (bit : Nat) : Bool := wordTest (map.wordOf bit) (bit % 64)

/-- The bitmap with the word that holds a bit replaced. -/
def withWord (map : Bitmap) (bit : Nat) (word : UInt64) : Bitmap :=
  ⟨map.size, map.words.setIfInBounds (bit / 64) word, by simpa using map.words_size⟩

/-- Whether a number below the size is a member. -/
def test (map : Bitmap) (bit : Nat) : Except Failure Bool :=
  if bit < map.size then .ok (map.member bit)
  else .error (.aborted (.bitOutOfRange bit map.size))

/-- Add a number; the answer is whether it was a member before. -/
def testAndSet (map : Bitmap) (bit : Nat) : Except Failure (Bool × Bitmap) := do
  let before ← map.test bit
  return (before, map.withWord bit (map.wordOf bit ||| bitMask (bit % 64)))

/-- Take a number away; the answer is whether it was a member before. -/
def testAndClear (map : Bitmap) (bit : Nat) : Except Failure (Bool × Bitmap) := do
  let before ← map.test bit
  return (before, map.withWord bit (map.wordOf bit &&& ~~~ bitMask (bit % 64)))

/-- The members, ascending. -/
def ones (map : Bitmap) : List Nat :=
  map.words.toList.zipIdx.flatMap fun (word, index) =>
    (wordOnes word).map (fun offset => index * 64 + offset)

/-- The number of members. -/
def count (map : Bitmap) : Nat :=
  map.words.toList.foldr (fun word total => (wordOnes word).length + total) 0

/-- Whether there is no member. -/
def isEmpty (map : Bitmap) : Bool := map.words.all (· == 0)

end Bitmap

end GpuSched
