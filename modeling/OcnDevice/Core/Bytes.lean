import Mathlib

/-!
# Words made of bytes

A word is put together from four bytes by appending them, the highest first (`word`).  Code in C
shifts the bytes to their places and joins them with bitwise or; `joinBytes_eq` and
`littleEndian_eq` say that this is the same.
-/

namespace Bytes

/-- `htonl`, which turns the bytes of a word round. -/
def htonl (addr : BitVec 32) : BitVec 32 :=
  addr.extractLsb' 0 8 ++ addr.extractLsb' 8 8 ++ addr.extractLsb' 16 8 ++ addr.extractLsb' 24 8

/-- Four bytes in the order of the network, as a word of this machine. -/
def word (b0 b1 b2 b3 : BitVec 8) : BitVec 32 := b0 ++ b1 ++ b2 ++ b3

/-- The word that holds four bytes one after another in memory. -/
def inMemory (b0 b1 b2 b3 : BitVec 8) : BitVec 32 := b3 ++ b2 ++ b1 ++ b0

lemma htonl_inMemory (b0 b1 b2 b3 : BitVec 8) :
    htonl (inMemory b0 b1 b2 b3) = word b0 b1 b2 b3 := by
  have h0 : (inMemory b0 b1 b2 b3).extractLsb' 0 8 = b0 := BitVec.extractLsb'_append_eq_right
  have h1 : (inMemory b0 b1 b2 b3).extractLsb' 8 8 = b1 := by
    rw [inMemory, BitVec.extractLsb'_append_eq_of_le (by omega), BitVec.extractLsb'_append_eq_right]
  have h2 : (inMemory b0 b1 b2 b3).extractLsb' 16 8 = b2 := by
    rw [inMemory, BitVec.extractLsb'_append_eq_of_le (by omega),
      BitVec.extractLsb'_append_eq_of_le (by omega), BitVec.extractLsb'_append_eq_right]
  have h3 : (inMemory b0 b1 b2 b3).extractLsb' 24 8 = b3 := by
    rw [inMemory, BitVec.extractLsb'_append_eq_of_le (by omega),
      BitVec.extractLsb'_append_eq_of_le (by omega), BitVec.extractLsb'_append_eq_of_le (by omega)]
    exact BitVec.extractLsb'_eq_self
  rw [htonl, h0, h1, h2, h3, word]

/-- Four bytes that are shifted to their places, the highest first. -/
def joinBytes (b0 b1 b2 b3 : BitVec 8) : BitVec 32 :=
  b0.setWidth 32 <<< 24 ||| b1.setWidth 32 <<< 16 ||| b2.setWidth 32 <<< 8 ||| b3.setWidth 32

lemma joinBytes_eq (b0 b1 b2 b3 : BitVec 8) : joinBytes b0 b1 b2 b3 = word b0 b1 b2 b3 := by
  have hhigh : ∀ (b : BitVec 8) (j : ℕ), 8 ≤ j → b.getLsbD j = false :=
    fun b j hj => BitVec.getLsbD_of_ge b j hj
  refine BitVec.eq_of_getLsbD_eq fun i hi => ?_
  simp only [joinBytes, word, BitVec.getLsbD_or, BitVec.getLsbD_shiftLeft, BitVec.getLsbD_setWidth,
    BitVec.getLsbD_append]
  grind

/-- Four bytes that are shifted to their places, the lowest first. -/
def littleEndian (b0 b1 b2 b3 : BitVec 8) : BitVec 32 :=
  b0.setWidth 32 ||| b1.setWidth 32 <<< 8 ||| b2.setWidth 32 <<< 16 ||| b3.setWidth 32 <<< 24

lemma littleEndian_eq (b0 b1 b2 b3 : BitVec 8) : littleEndian b0 b1 b2 b3 = word b3 b2 b1 b0 := by
  rw [← joinBytes_eq, littleEndian, joinBytes, BitVec.or_comm _ (b3.setWidth 32 <<< 24),
    BitVec.or_comm _ (b2.setWidth 32 <<< 16), BitVec.or_comm _ (b1.setWidth 32 <<< 8),
    BitVec.or_assoc, BitVec.or_assoc]

end Bytes
