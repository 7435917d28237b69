import Mathlib.Algebra.Ring.Nat
import Mathlib.Data.List.Basic

/-!
# Byte-addressed memory

A memory holds a byte at every address.  `load` and `store` move blocks of bytes; what a block
holds after a store is `load_store` inside of it and `load_store_of_disjoint` outside.
Integers lie in memory with the least significant byte first.
-/

namespace ByteMemory

/-- Every address holds a byte. -/
abbrev Memory := Nat → UInt8

/-- The `n` bytes from address `a`. -/
def load (m : Memory) : Nat → Nat → List UInt8
  | _, 0 => []
  | a, n + 1 => m a :: load m (a + 1) n

/-- Write the bytes from address `a` on. -/
def store (m : Memory) (a : Nat) (bs : List UInt8) : Memory := fun x =>
  if a ≤ x then bs[x - a]?.getD (m x) else m x

variable {m m' : Memory} {a c n k : Nat} {bs : List UInt8}

@[simp]
theorem length_load (m : Memory) (a n : Nat) : (load m a n).length = n := by
  induction n generalizing a with
  | zero => rfl
  | succ n ih => simp [load, ih]

/-- Only the bytes that are read matter. -/
theorem load_congr (h : ∀ x, a ≤ x → x < a + n → m x = m' x) : load m a n = load m' a n := by
  induction n generalizing a with
  | zero => rfl
  | succ n ih =>
    rw [load, load, h a (by omega) (by omega), ih fun x hx hx' => h x (by omega) (by omega)]

/-- A block and the block behind it. -/
theorem load_add (m : Memory) (a n k : Nat) :
    load m a (n + k) = load m a n ++ load m (a + n) k := by
  induction n generalizing a with
  | zero => simp [load]
  | succ n ih =>
    rw [show n + 1 + k = n + k + 1 by omega, load, load, ih, show a + 1 + n = a + (n + 1) by omega]
    rfl

/-- The beginning of a block. -/
theorem take_load (m : Memory) (a : Nat) (h : k ≤ n) : (load m a n).take k = load m a k := by
  obtain ⟨j, rfl⟩ := Nat.exists_eq_add_of_le h
  rw [load_add, List.take_left' (length_load m a k)]

/-- A block is loaded in two parts. -/
theorem load_append {xs ys : List UInt8} (hxs : load m a xs.length = xs)
    (hys : load m (a + xs.length) ys.length = ys) : load m a (xs ++ ys).length = xs ++ ys := by
  rw [List.length_append, load_add, hxs, hys]

/-- Nothing is written before the address. -/
theorem store_of_lt {x : Nat} (h : x < a) : store m a bs x = m x := by
  rw [store, if_neg (by omega)]

/-- Nothing is written behind the bytes. -/
theorem store_of_ge {x : Nat} (h : a + bs.length ≤ x) : store m a bs x = m x := by
  rw [store, List.getElem?_eq_none (by omega)]
  simp

/-- A block beside the written bytes is not touched. -/
theorem load_store_of_disjoint (h : c + n ≤ a ∨ a + bs.length ≤ c) :
    load (store m a bs) c n = load m c n := by
  apply load_congr
  intro x hx hx'
  obtain h | h := h
  · exact store_of_lt (by omega)
  · exact store_of_ge (by omega)

/-- What was written is read back. -/
theorem load_store (m : Memory) (a : Nat) (bs : List UInt8) :
    load (store m a bs) a bs.length = bs := by
  induction bs generalizing m a with
  | nil => rfl
  | cons b bs ih =>
    -- the first byte does not matter for the rest
    have hrest : load (store m a (b :: bs)) (a + 1) bs.length =
        load (store m (a + 1) bs) (a + 1) bs.length := by
      apply load_congr
      intro x hx hx'
      simp only [store, if_pos (show a ≤ x by omega), if_pos hx,
        show x - a = x - (a + 1) + 1 by omega, List.getElem?_cons_succ]
    rw [List.length_cons, load, hrest, ih]
    simp [store]

/-! ## Integers -/

/-- The `k` least significant bytes, least significant first. -/
def toLE : Nat → Nat → List UInt8
  | 0, _ => []
  | k + 1, n => UInt8.ofNat n :: toLE k (n / 256)

/-- The integer whose bytes these are. -/
def ofLE : List UInt8 → Nat
  | [] => 0
  | b :: bs => b.toNat + 256 * ofLE bs

@[simp]
theorem length_toLE (k n : Nat) : (toLE k n).length = k := by
  induction k generalizing n with
  | zero => rfl
  | succ k ih => simp [toLE, ih]

/-- An integer that fits is read back. -/
theorem ofLE_toLE (h : n < 256 ^ k) : ofLE (toLE k n) = n := by
  induction k generalizing n with
  | zero => simp_all [toLE, ofLE]
  | succ k ih =>
    rw [toLE, ofLE, ih (by rw [Nat.pow_succ] at h; omega), UInt8.toNat_ofNat']
    omega

/-- The bytes of any integer are written back. -/
theorem toLE_ofLE (bs : List UInt8) : toLE bs.length (ofLE bs) = bs := by
  induction bs with
  | nil => rfl
  | cons b bs ih =>
    have hb := b.toNat_lt
    rw [List.length_cons, toLE, ofLE, show (b.toNat + 256 * ofLE bs) / 256 = ofLE bs by omega, ih]
    congr 1
    apply UInt8.toNat_inj.mp
    rw [UInt8.toNat_ofNat']
    omega

end ByteMemory
