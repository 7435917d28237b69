import OpenFlux.ForStd.BigEndian

/-!
# One's-complement sums

The Internet checksum is the complement of a sum in which the carry out of the highest bit
is added back in at the lowest.  Zero has two forms in this arithmetic, 0 and 65535: a sum of
words is 0 only if all of them are, and 65535 in every other case that is zero modulo 65535.
`reduce` is that choice, and the link between sums with end-around carry and sums of natural
numbers whose carries are folded at the end.

## Key results

- `sum_eq_reduce`, `foldCarries_eq_reduce`: both ways to sum give `reduce`
- `reduce_add_complement`: a sum and its complement add up to all ones
- `reduce_add_eq_allOnes_iff`: which words complete a sum to all ones
-/

namespace OnesComplement

open BigEndian

/-- The word without zero bits. -/
def allOnes : Nat := 65535

/-- The sum of two words, with its carry added back in. -/
def add (a b : Nat) : Nat := (a + b) % 65536 + (a + b) / 65536

/-- The sum of the words of `bytes`; a last odd byte is padded with a zero byte. -/
def sum : List UInt8 → Nat
  | [] => 0
  | [a] => (read16 a 0).toNat
  | a :: b :: rest => add (read16 a b).toNat (sum rest)

/-- What end-around carries leave of a sum of words. -/
def reduce (t : Nat) : Nat := if t = 0 then 0 else (t - 1) % 65535 + 1

/-- A reduced sum is a word. -/
theorem reduce_le (t : Nat) : reduce t ≤ 65535 := by
  unfold reduce
  split <;> omega

/-- A reduced sum is not 0 unless the sum is. -/
theorem reduce_pos {t : Nat} (h : 0 < t) : 0 < reduce t := by
  unfold reduce
  rw [if_neg (by omega)]
  omega

/-- Adding a word with its carry. -/
theorem add_reduce {a t : Nat} (ha : a ≤ 65535) : add a (reduce t) = reduce (a + t) := by
  unfold add reduce
  split
  · rename_i ht
    subst ht
    split <;> omega
  · rw [if_neg (by omega)]
    omega

/-- Folding the carries of a 32-bit sum at the end is the same as adding each one back. -/
theorem foldCarries_eq_reduce {t : Nat} (h : t < 4294967296) : foldCarries 2 t = reduce t := by
  have hlt := foldCarries_lt h
  -- a round keeps the value modulo 65535, and it keeps it positive
  have hround : ∀ fuel t, foldCarries fuel t % 65535 = t % 65535 ∧
      (foldCarries fuel t = 0 ↔ t = 0) := by
    intro fuel
    induction fuel with
    | zero => simp [foldCarries]
    | succ fuel ih =>
      intro t
      rw [foldCarries]
      split
      · simp
      · rw [(ih _).1, (ih _).2]
        omega
  obtain ⟨hmod, hzero⟩ := hround 2 t
  unfold reduce
  split
  · rename_i ht
    exact hzero.mpr ht
  · rename_i ht
    have hpos := mt hzero.mp ht
    omega

/-! ## Sums of bytes -/

/-- The sum of the words without end-around carries. -/
def paddedSum : List UInt8 → Nat
  | [] => 0
  | [a] => (read16 a 0).toNat
  | a :: b :: rest => (read16 a b).toNat + paddedSum rest

/-- The sum with end-around carries is the reduced sum. -/
theorem sum_eq_reduce (bytes : List UInt8) : sum bytes = reduce (paddedSum bytes) := by
  induction bytes using sum.induct with
  | case1 => rfl
  | case2 a =>
    have hword := (read16 a 0).toNat_lt
    rw [sum, paddedSum]
    generalize (read16 a 0).toNat = word at hword
    unfold reduce
    split <;> omega
  | case3 a b rest ih =>
    have hword := (read16 a b).toNat_lt
    simp only [sum, paddedSum]
    rw [ih, add_reduce (by omega)]

/-- A part of even length can be summed on its own. -/
theorem paddedSum_append {front : List UInt8} (h : front.length % 2 = 0)
    (rest : List UInt8) : paddedSum (front ++ rest) = paddedSum front + paddedSum rest := by
  induction front using sum.induct with
  | case1 => simp [paddedSum]
  | case2 a => simp at h
  | case3 a b front ih =>
    simp only [List.length_cons] at h
    simp only [List.cons_append, paddedSum]
    rw [ih (by omega), Nat.add_assoc]

/-- Nothing is padded at an even length. -/
theorem paddedSum_eq_wordSum {bytes : List UInt8} (h : bytes.length % 2 = 0) :
    paddedSum bytes = wordSum bytes := by
  induction bytes using sum.induct with
  | case1 => rfl
  | case2 a => simp at h
  | case3 a b rest ih =>
    simp only [List.length_cons] at h
    simp only [paddedSum, wordSum]
    rw [ih (by omega)]

/-! ## Complements -/

/-- The complement of a word. -/
theorem toNat_complement {t : Nat} (h : t ≤ 65535) :
    (~~~ UInt16.ofNat t).toNat = 65535 - t := by
  rw [UInt16.toNat_not, UInt16.toNat_ofNat_of_lt']
  · rfl
  · exact Nat.lt_succ_of_le h

/-- A sum and its complement are all ones. -/
theorem reduce_add_complement (t : Nat) : reduce (t + (65535 - reduce t)) = allOnes := by
  unfold reduce allOnes
  rw [if_neg]
  · split <;> omega
  · split <;> omega

/-- A word other than 65535 completes a sum to all ones only if it is the complement of the
    sum. -/
theorem reduce_add_eq_allOnes_iff {t c : Nat} (ht : 0 < t) (hlt : c < 65535) :
    reduce (t + c) = allOnes ↔ c = 65535 - reduce t := by
  unfold reduce allOnes
  rw [if_neg (by omega), if_neg (by omega)]
  omega

end OnesComplement
