import Mathlib.Data.Nat.Digits.Lemmas

namespace BudBreeding.Data

/-! Numbers in fields of a fixed width, which can be packed without separators. -/

/-- The bytes of a number, the most significant one first. -/
def bigEndian (width value : Nat) : List UInt8 :=
  ((Nat.digitsAppend 256 width value).map UInt8.ofNat).reverse

section BigEndian

variable {width value other : Nat}

theorem length_bigEndian (fits : value < 256 ^ width) :
    (bigEndian width value).length = width := by
  rw [bigEndian, List.length_reverse, List.length_map,
    Nat.length_digitsAppend (by decide) width fits]

theorem toNat_bigEndian (width value : Nat) :
    (bigEndian width value).reverse.map UInt8.toNat = Nat.digitsAppend 256 width value := by
  rw [bigEndian, List.reverse_reverse, List.map_map]
  calc
    (Nat.digitsAppend 256 width value).map (UInt8.toNat ∘ UInt8.ofNat)
      = (Nat.digitsAppend 256 width value).map id := by
        apply List.map_congr_left
        intro digit member
        exact UInt8.toNat_ofNat_of_lt'
          (Nat.lt_of_mem_digitsAppend (by decide) width digit member)
    _ = Nat.digitsAppend 256 width value := List.map_id _

theorem bigEndian_inj (fits : value < 256 ^ width) (fitsToo : other < 256 ^ width)
    (same : bigEndian width value = bigEndian width other) : value = other := by
  have digits : Nat.digitsAppend 256 width value = Nat.digitsAppend 256 width other := by
    rw [← toNat_bigEndian, ← toNat_bigEndian, same]
  exact (Nat.bijOn_digitsAppend (by decide) width).injOn fits fitsToo digits

end BigEndian

end BudBreeding.Data
