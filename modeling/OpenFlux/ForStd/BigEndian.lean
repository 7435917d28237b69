import Mathlib.Data.List.Basic

/-!
# Big-endian integers and the sums of the Internet checksum

Network headers are sequences of 16- and 32-bit integers, most significant byte first, and
the Internet checksum adds up their 16-bit words.  The carries above 16 bits are folded
back in a loop; `foldCarries_lt` says that two rounds of it are enough for a 32-bit sum.
-/

namespace BigEndian

/-! ## Integers -/

/-- The two bytes of an integer. -/
def write16 (x : UInt16) : List UInt8 := [UInt8.ofNat (x.toNat / 256), x.toUInt8]

/-- The four bytes of an integer. -/
def write32 (x : UInt32) : List UInt8 :=
  [UInt8.ofNat (x.toNat / 16777216), UInt8.ofNat (x.toNat / 65536),
    UInt8.ofNat (x.toNat / 256), x.toUInt8]

/-- The integer of two bytes. -/
def read16 (a b : UInt8) : UInt16 := UInt16.ofNat (256 * a.toNat + b.toNat)

/-- The integer of four bytes. -/
def read32 (a b c d : UInt8) : UInt32 :=
  UInt32.ofNat (16777216 * a.toNat + 65536 * b.toNat + 256 * c.toNat + d.toNat)

@[simp]
theorem length_write16 (x : UInt16) : (write16 x).length = 2 := rfl

@[simp]
theorem length_write32 (x : UInt32) : (write32 x).length = 4 := rfl

/-- An integer is read back from its bytes. -/
@[simp]
theorem read16_write16 (x : UInt16) :
    read16 (UInt8.ofNat (x.toNat / 256)) x.toUInt8 = x := by
  have hx := x.toNat_lt
  apply UInt16.toNat_inj.mp
  simp only [read16, UInt16.toNat_ofNat', UInt8.toNat_ofNat', UInt16.toNat_toUInt8]
  omega

/-- The same for 32 bits. -/
@[simp]
theorem read32_write32 (x : UInt32) :
    read32 (UInt8.ofNat (x.toNat / 16777216)) (UInt8.ofNat (x.toNat / 65536))
      (UInt8.ofNat (x.toNat / 256)) x.toUInt8 = x := by
  have hx := x.toNat_lt
  apply UInt32.toNat_inj.mp
  simp only [read32, UInt32.toNat_ofNat', UInt8.toNat_ofNat', UInt32.toNat_toUInt8]
  omega

/-! ## Sums of words -/

/-- The sum of the 16-bit words; a last odd byte is left out. -/
def wordSum : List UInt8 → Nat
  | a :: b :: rest => (read16 a b).toNat + wordSum rest
  | _ => 0

/-- A word adds less than `2 ^ 16`. -/
theorem wordSum_le (bytes : List UInt8) : wordSum bytes ≤ 65535 * (bytes.length / 2) := by
  induction bytes using wordSum.induct with
  | case1 a b rest ih =>
    have hword := (read16 a b).toNat_lt
    simp only [wordSum, List.length_cons]
    omega
  | case2 bytes h =>
    -- fewer than two bytes are left
    rw [wordSum]
    · omega
    · exact h

/-! ## Folding the carries -/

/-- The loop `while (t >> 16) t = (t & 0xFFFF) + (t >> 16)`, for at most `fuel` rounds. -/
def foldCarries : (fuel : Nat) → Nat → Nat
  | 0, t => t
  | fuel + 1, t => if t / 65536 = 0 then t else foldCarries fuel (t % 65536 + t / 65536)

/-- Two rounds leave no carry of a 32-bit sum. -/
theorem foldCarries_lt {t : Nat} (h : t < 4294967296) : foldCarries 2 t < 65536 := by
  rw [foldCarries]
  split
  · omega
  · rw [foldCarries]
    split
    · omega
    · rw [foldCarries]
      omega

end BigEndian
