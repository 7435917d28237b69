import OpenFlux.Model.ChunkBuffer2

/-!
# The packet ring is a queue

`Ring o q` says that `o` holds the packets `q`.  They lie one behind the other, or go on at
block 0 behind the packet that ends at `wrap`.  That packet was begun where a packet of any
allowed length would have fit, so the packets at block 0, which end before it, always leave
room for one when it is gone (`Wrapped.room`).

## Key results

- `Ring.init`, `Ring.submitPacket`, `Ring.consumePacket`: no assertion fails, and the packets
  come out as they went in
- `Ring.write`: what is written for the next packet does not touch the others
- `Ring.inputAvail_of_length`: there is room for a packet while the ring holds fewer than `num`
-/

namespace OpenFlux

open ByteMemory

namespace ChunkBuffer2

variable {o : ChunkBuffer2} {m m' : Memory} {q q₁ q₂ : List (List UInt8)} {p data : List UInt8}
  {size wrap start used mtu i n : Nat}

/-! ## Packets in memory -/

/-- The blocks of a packet of `n` bytes, with its length. -/
def cellsOf (n : Nat) : Nat := 1 + bdivideUp n blockSize

/-- A packet takes a block for its length at least. -/
theorem cellsOf_pos : 0 < cellsOf n := by
  unfold cellsOf
  omega

/-- The blocks of a packet have room for its length and its bytes. -/
theorem le_cellsOf : 4 + n ≤ 4 * cellsOf n := by
  unfold cellsOf bdivideUp blockSize
  split <;> omega

/-- A packet fits into `k` blocks behind its length exactly if it has at most `4 * k` bytes. -/
theorem cellsOf_le {k : Nat} : cellsOf n ≤ k + 1 ↔ n ≤ 4 * k := by
  unfold cellsOf bdivideUp blockSize
  split <;> omega

/-- The blocks of some packets. -/
def cells (q : List (List UInt8)) : Nat := (q.map fun p => cellsOf p.length).sum

@[simp]
theorem cells_nil : cells [] = 0 := rfl

@[simp]
theorem cells_cons : cells (p :: q) = cellsOf p.length + cells q := rfl

@[simp]
theorem cells_append : cells (q₁ ++ q₂) = cells q₁ + cells q₂ := by
  simp [cells]

/-- The packets lie in memory from block `i` on. -/
def Stored (m : Memory) : Nat → List (List UInt8) → Prop
  | _, [] => True
  | i, p :: q => load m (4 * i) 4 = toLE 4 p.length ∧ load m (4 * (i + 1)) p.length = p ∧
      Stored m (i + cellsOf p.length) q

/-- Packets in two parts, the second one behind the blocks of the first. -/
theorem stored_append :
    Stored m i (q₁ ++ q₂) ↔ Stored m i q₁ ∧ Stored m (i + cells q₁) q₂ := by
  induction q₁ generalizing i with
  | nil => simp [Stored]
  | cons p q₁ ih => simp [Stored, ih, and_assoc, Nat.add_assoc]

/-- One packet: its length, and its bytes behind that. -/
theorem stored_singleton : Stored m i [p] ↔
    load m (4 * i) 4 = toLE 4 p.length ∧ load m (4 * (i + 1)) p.length = p := by
  simp [Stored]

/-- Only the memory of the packets matters. -/
theorem Stored.congr (h : Stored m i q)
    (hm : ∀ x, 4 * i ≤ x → x < 4 * (i + cells q) → m' x = m x) : Stored m' i q := by
  induction q generalizing i with
  | nil => trivial
  | cons p q ih =>
    obtain ⟨hlen, hdata, hrest⟩ := h
    have hle := @le_cellsOf p.length
    rw [cells_cons] at hm
    -- the length, the bytes, and by induction the packets behind
    refine ⟨?_, ?_, ih hrest fun x hx hx' => hm x (by omega) (by omega)⟩
    · rw [← hlen]
      exact load_congr fun x hx hx' => hm x (by omega) (by omega)
    · calc load m' (4 * (i + 1)) p.length
          = load m (4 * (i + 1)) p.length :=
            load_congr fun x hx hx' => hm x (by omega) (by omega)
        _ = p := hdata

/-- Writing before or behind the packets does not touch them. -/
theorem Stored.store {a : Nat} {bs : List UInt8} (h : Stored m i q)
    (hdisjoint : 4 * (i + cells q) ≤ a ∨ a + bs.length ≤ 4 * i) :
    Stored (store m a bs) i q := by
  apply h.congr
  intro x hx hx'
  obtain hlt | hge := hdisjoint
  · exact store_of_lt (by omega)
  · exact store_of_ge (by omega)

/-- A packet is appended by writing its length in front of its bytes. -/
theorem Stored.append (h : Stored m i q)
    (hdata : load m (4 * (i + cells q + 1)) data.length = data) :
    Stored (ByteMemory.store m (4 * (i + cells q)) (toLE 4 data.length)) i (q ++ [data]) := by
  rw [stored_append, stored_singleton]
  refine ⟨h.store (.inl (Nat.le_refl _)), ?_, ?_⟩
  · have hload := load_store m (4 * (i + cells q)) (toLE 4 data.length)
    rwa [length_toLE] at hload
  · rw [load_store_of_disjoint (.inr (by rw [length_toLE]; omega))]
    exact hdata

/-! ## The ring -/

/-- The packets lie one behind the other. -/
structure Straight (m : Memory) (size wrap start used mtu : Nat) (q : List (List UInt8)) :
    Prop where
  wrap_eq : wrap = size
  used_eq : used = cells q
  room : start + used + 1 + mtu ≤ size
  stored : Stored m start q

/-- `p` ends at `wrap`, and the packets `q₂` are at block 0. -/
structure Wrapped (m : Memory) (size wrap start used mtu : Nat) (q₁ : List (List UInt8))
    (p : List UInt8) (q₂ : List (List UInt8)) : Prop where
  wrap_eq : wrap = start + cells (q₁ ++ [p])
  used_eq : used = cells (q₁ ++ [p]) + cells q₂
  wrap_le : wrap ≤ size
  size_le : size ≤ wrap + mtu
  room : start + cells q₁ + 1 + mtu ≤ size
  free : cells q₂ ≤ start
  first : Stored m start (q₁ ++ [p])
  second : Stored m 0 q₂

/-- How the packets can lie in the array. -/
def Layout (o : ChunkBuffer2) (q : List (List UInt8)) : Prop :=
  Straight o.buffer o.size o.wrap o.start o.used o.mtu q ∨
  ∃ q₁ p q₂, q = q₁ ++ p :: q₂ ∧
    Wrapped o.buffer o.size o.wrap o.start o.used o.mtu q₁ p q₂

/-- The buffer holds the packets `q`, and its fields for input and output are up to date. -/
structure Ring (o : ChunkBuffer2) (q : List (List UInt8)) : Prop where
  layout : Layout o q
  small : 4 * o.size ≤ intMax
  input : o.updateInput = o
  outputDest : o.outputDest = q.head?.map fun _ => 4 * (o.start + 1)
  outputAvail : o.outputAvail = (q.head?.map fun p => (p.length : Int)).getD (-1)

/-! ### Where the data ends -/

/-- `end` is computed without a wrap if the packets lie one behind the other. -/
theorem straight_lt (h : Straight o.buffer o.size o.wrap o.start o.used o.mtu q) :
    ¬ o.used ≥ o.wrap - o.start := by
  have hwrap := h.wrap_eq
  have hroom := h.room
  omega

/-- With the packets one behind the other `end` is where they end. -/
theorem endPos_straight (h : Straight o.buffer o.size o.wrap o.start o.used o.mtu q) :
    o.endPos = o.start + cells q := by
  rw [endPos, if_neg (straight_lt h), h.used_eq]

/-- The rest of the array is free. -/
theorem free_straight (h : Straight o.buffer o.size o.wrap o.start o.used o.mtu q) :
    o.free = (o.size : Int) - (o.start + cells q : Nat) := by
  rw [free, if_neg (straight_lt h), endPos_straight h]

/-- With packets at block 0, `end` is computed by the other branch. -/
theorem wrapped_ge (h : Wrapped o.buffer o.size o.wrap o.start o.used o.mtu q₁ p q₂) :
    o.used ≥ o.wrap - o.start := by
  have hwrap := h.wrap_eq
  have hused := h.used_eq
  omega

/-- With packets at block 0, `end` is where those packets end. -/
theorem endPos_wrapped (h : Wrapped o.buffer o.size o.wrap o.start o.used o.mtu q₁ p q₂) :
    o.endPos = cells q₂ := by
  have hwrap := h.wrap_eq
  have hused := h.used_eq
  rw [endPos, if_pos (wrapped_ge h)]
  omega

/-- What is between them and the first packet is free. -/
theorem free_wrapped (h : Wrapped o.buffer o.size o.wrap o.start o.used o.mtu q₁ p q₂) :
    o.free = (o.start : Int) - cells q₂ := by
  rw [free, if_pos (wrapped_ge h), endPos_wrapped h]

/-- There is always room for a packet of any allowed length behind the data, once the packets
    in the way are gone. -/
theorem Layout.room (h : Layout o q) : o.endPos + 1 + o.mtu ≤ o.size := by
  obtain h | ⟨q₁, p, q₂, -, h⟩ := h
  · have hroom := h.room
    have hused := h.used_eq
    rw [endPos_straight h]
    omega
  · -- the packets at block 0 end before `start`, and from there on a packet had room once
    have hroom := h.room
    have hfree := h.free
    rw [endPos_wrapped h]
    omega

/-- The free blocks are blocks of the array. -/
theorem Layout.free_le (h : Layout o q) : o.endPos + o.free ≤ o.size := by
  obtain h | ⟨q₁, p, q₂, -, h⟩ := h
  · rw [endPos_straight h, free_straight h]
    omega
  · have hwrap := h.wrap_eq
    have hle := h.wrap_le
    rw [endPos_wrapped h, free_wrapped h]
    omega

/-- `_ChunkBuffer2_assert_buffer` -/
theorem Layout.assertBuffer (h : Layout o q) : o.AssertBuffer := by
  unfold AssertBuffer
  obtain h | ⟨q₁, p, q₂, -, h⟩ := h
  · have hwrap := h.wrap_eq
    have hroom := h.room
    omega
  · have hwrap := h.wrap_eq
    have hused := h.used_eq
    have hle := h.wrap_le
    have hfree := h.free
    -- `wrap` is behind `start`, as there is a packet between them
    have hpos : 0 < cells (q₁ ++ [p]) := by
      rw [cells_append, cells_cons]
      have := @cellsOf_pos p.length
      omega
    omega

/-! ### Input and output -/

/-- `_ChunkBuffer2_update_input` on a ring. -/
theorem Layout.updateInput (h : Layout o q) :
    o.updateInput = { o with
      inputDest := if 0 < o.free then some (4 * (o.endPos + 1)) else none
      inputAvail := if 0 < o.free then (o.free - 1) * 4 else -1 } := by
  have hroom := h.room
  rw [ChunkBuffer2.updateInput, if_neg (by omega)]
  split
  · rfl
  · rfl

/-- `input_dest` is behind a block for the length. -/
theorem Ring.inputDest (h : Ring o q) :
    o.inputDest = if 0 < o.free then some (4 * (o.endPos + 1)) else none := by
  have hinput := h.input
  rw [h.layout.updateInput] at hinput
  exact (congrArg ChunkBuffer2.inputDest hinput).symm

/-- `input_avail` is what the free blocks have left behind the one for the length. -/
theorem Ring.inputAvail (h : Ring o q) :
    o.inputAvail = if 0 < o.free then (o.free - 1) * 4 else -1 := by
  have hinput := h.input
  rw [h.layout.updateInput] at hinput
  exact (congrArg ChunkBuffer2.inputAvail hinput).symm

/-- The first packet. -/
theorem Layout.head (h : Layout o (p :: q)) :
    load o.buffer (4 * o.start) 4 = toLE 4 p.length ∧
    load o.buffer (4 * (o.start + 1)) p.length = p ∧
    cellsOf p.length ≤ o.used ∧ cellsOf p.length ≤ o.wrap - o.start := by
  obtain h | ⟨q₁, p', q₂, heq, h⟩ := h
  · obtain ⟨hlen, hdata, -⟩ := h.stored
    have hused := h.used_eq
    have hwrap := h.wrap_eq
    have hroom := h.room
    rw [cells_cons] at hused
    exact ⟨hlen, hdata, by omega, by omega⟩
  · -- the first packet is the one that ends at `wrap`, or one before that
    obtain ⟨r, hr⟩ : ∃ r, q₁ ++ [p'] = p :: r := by
      cases q₁ with
      | nil => exact ⟨[], by rw [List.cons.inj heq |>.1]; rfl⟩
      | cons x q₁ => exact ⟨q₁ ++ [p'], by rw [List.cons.inj heq |>.1]; rfl⟩
    have hfirst := h.first
    have hused := h.used_eq
    have hwrap := h.wrap_eq
    rw [hr] at hfirst hused hwrap
    rw [cells_cons] at hused hwrap
    obtain ⟨hlen, hdata, -⟩ := hfirst
    exact ⟨hlen, hdata, by omega, by omega⟩

/-- `used` counts the blocks of all packets. -/
theorem Layout.used_eq (h : Layout o q) : o.used = cells q := by
  obtain h | ⟨q₁, p, q₂, rfl, h⟩ := h
  · exact h.used_eq
  · rw [h.used_eq, ← cells_append]
    simp

/-- No more blocks are used than the array has. -/
theorem Layout.used_le (h : Layout o q) : o.used ≤ o.size := by
  have hassert := h.assertBuffer
  unfold AssertBuffer at hassert
  omega

/-- The length of a packet fits into its four bytes, and into an `int`. -/
theorem Layout.length_lt (h : Layout o (p :: q)) (hsmall : 4 * o.size ≤ intMax) :
    p.length < 256 ^ 4 ∧ p.length ≤ intMax := by
  have hle := @le_cellsOf p.length
  have hused := h.used_eq
  have husedle := h.used_le
  rw [cells_cons] at hused
  unfold intMax at *
  omega

/-- The code reads the length of the first packet back. -/
theorem Layout.len_start (h : Layout o (p :: q)) (hsmall : 4 * o.size ≤ intMax) :
    o.len o.start = p.length := by
  rw [len]
  show ofLE (load o.buffer (4 * o.start) 4) = _
  rw [h.head.1, ofLE_toLE (h.length_lt hsmall).1]

/-- `_ChunkBuffer2_update_output` on a ring. -/
theorem Layout.updateOutput (h : Layout o q) (hsmall : 4 * o.size ≤ intMax) :
    o.updateOutput = some { o with
      outputDest := q.head?.map fun _ => 4 * (o.start + 1)
      outputAvail := (q.head?.map fun p => (p.length : Int)).getD (-1) } := by
  have hused := h.used_eq
  cases q with
  | nil =>
    rw [ChunkBuffer2.updateOutput, if_neg (by rw [hused]; simp)]
    rfl
  | cons p q =>
    obtain ⟨-, -, hcells, hwrap⟩ := h.head
    have hpos := @cellsOf_pos p.length
    rw [ChunkBuffer2.updateOutput, if_pos (by omega), h.len_start hsmall]
    -- the assertions about the length that was read
    unfold cellsOf at hcells hwrap
    dsimp only
    rw [asserting_pos (h.length_lt hsmall).2, asserting_pos (by omega), asserting_pos (by omega)]
    rfl

/-- `_ChunkBuffer2_assert_io` -/
theorem Ring.assertIo (h : Ring o q) : o.AssertIo := by
  have hroom := h.layout.room
  have hused := h.layout.used_eq
  unfold AssertIo
  refine ⟨?_, ?_⟩
  · -- the fields for input, then those for output
    rw [if_neg (by omega), h.inputDest, h.inputAvail]
    split
    · exact ⟨rfl, rfl⟩
    · exact ⟨rfl, rfl⟩
  · rw [h.outputDest, h.outputAvail]
    cases q with
    | nil =>
      rw [if_neg (by rw [hused]; simp)]
      exact ⟨rfl, rfl⟩
    | cons p q =>
      obtain ⟨-, -, hcells, hwrap⟩ := h.layout.head
      have hpos := @cellsOf_pos p.length
      rw [if_pos (by omega), h.layout.len_start h.small]
      unfold cellsOf at hcells hwrap
      exact ⟨(h.layout.length_lt h.small).2, by omega, by omega, rfl, rfl⟩

/-- The buffer with its fields for input and output up to date. -/
def refreshed (o : ChunkBuffer2) (q : List (List UInt8)) : ChunkBuffer2 :=
  { o with
    inputDest := if 0 < o.free then some (4 * (o.endPos + 1)) else none
    inputAvail := if 0 < o.free then (o.free - 1) * 4 else -1
    outputDest := q.head?.map fun _ => 4 * (o.start + 1)
    outputAvail := (q.head?.map fun p => (p.length : Int)).getD (-1) }

@[simp]
theorem refreshed_size : (o.refreshed q).size = o.size := rfl

@[simp]
theorem refreshed_mtu : (o.refreshed q).mtu = o.mtu := rfl

@[simp]
theorem refreshed_buffer : (o.refreshed q).buffer = o.buffer := rfl

@[simp]
theorem refreshed_endPos : (o.refreshed q).endPos = o.endPos := rfl

@[simp]
theorem refreshed_free : (o.refreshed q).free = o.free := rfl

/-- With its fields up to date, an array with the packets in it is a ring. -/
theorem Layout.ring (h : Layout o q) (hsmall : 4 * o.size ≤ intMax) : Ring (o.refreshed q) q where
  layout := h
  small := hsmall
  input := by
    have h' : Layout (o.refreshed q) q := h
    rw [h'.updateInput]
    rfl
  outputDest := rfl
  outputAvail := rfl

/-- The two functions at the end of an operation bring the fields up to date. -/
theorem Layout.refresh (h : Layout o q) (hsmall : 4 * o.size ≤ intMax) :
    o.updateInput.updateOutput = some (o.refreshed q) := by
  have h' : Layout o.updateInput q := by
    rw [h.updateInput]
    exact h
  have hsmall' : 4 * o.updateInput.size ≤ intMax := by
    rw [h.updateInput]
    exact hsmall
  rw [h'.updateOutput hsmall', h.updateInput]
  rfl

/-! ## The operations -/

/-- A new buffer is an empty ring. -/
theorem Ring.init (buffer : Memory) {blocks mtu : Nat} (hblocks : cellsOf mtu ≤ blocks)
    (hsmall : 4 * blocks ≤ intMax) :
    ∃ o, ChunkBuffer2.init buffer blocks mtu = some o ∧ Ring o [] ∧ o.size = blocks ∧
      o.mtu = bdivideUp mtu blockSize := by
  unfold ChunkBuffer2.init
  extract_lets o
  -- an empty buffer lies straight
  have hlayout : Layout o [] := .inl
    { wrap_eq := rfl
      used_eq := rfl
      room := by
        unfold cellsOf at hblocks
        show 0 + 0 + 1 + bdivideUp mtu blockSize ≤ blocks
        omega
      stored := trivial }
  have hring := hlayout.ring hsmall
  have hpos := @cellsOf_pos mtu
  rw [asserting_pos (by omega), asserting_pos hlayout.assertBuffer, hlayout.refresh hsmall,
    Option.bind_some, asserting_pos hring.assertIo]
  exact ⟨_, rfl, hring, rfl, rfl⟩

/-- What `ChunkBuffer2_SubmitPacket` leaves alone when it appends a packet. -/
theorem appended_fields (o : ChunkBuffer2) (len : Nat) :
    (o.appended len).size = o.size ∧ (o.appended len).mtu = o.mtu ∧
    (o.appended len).start = o.start ∧ (o.appended len).used = o.used + cellsOf len ∧
    (o.appended len).outputDest = o.outputDest ∧
    (o.appended len).outputAvail = o.outputAvail := by
  unfold appended
  dsimp only
  split
  · exact ⟨rfl, rfl, rfl, rfl, rfl, rfl⟩
  · exact ⟨rfl, rfl, rfl, rfl, rfl, rfl⟩

/-- The appended packet is the last one. -/
theorem Layout.appended (h : Layout o q)
    (hdata : load o.buffer (4 * (o.endPos + 1)) data.length = data)
    (hfits : (cellsOf data.length : Int) ≤ o.free) :
    Layout (o.appended data.length) (q ++ [data]) := by
  have hpos := @cellsOf_pos data.length
  unfold ChunkBuffer2.appended
  dsimp only
  obtain h | ⟨q₁, p, q₂, rfl, h⟩ := h
  · have hwrap := h.wrap_eq
    have hused := h.used_eq
    have hroom := h.room
    have hcells : cells (q ++ [data]) = cells q + cellsOf data.length := by simp
    rw [free_straight h] at hfits
    rw [endPos_straight h] at hdata ⊢
    have hstored := h.stored.append hdata
    split
    · -- the end of the array is near, so the next packet goes to block 0
      rename_i hcond
      unfold cellsOf at *
      exact .inr ⟨q, data, [], rfl,
        { wrap_eq := by dsimp only; omega
          used_eq := by dsimp only [cells_nil]; omega
          wrap_le := by dsimp only; omega
          size_le := by dsimp only; omega
          room := by dsimp only; omega
          free := Nat.zero_le _
          first := hstored
          second := trivial }⟩
    · -- there is still room for a packet behind this one
      rename_i hcond
      unfold cellsOf at *
      exact .inl
        { wrap_eq := hwrap
          used_eq := by dsimp only; omega
          room := by dsimp only; omega
          stored := hstored }
  · have hwrap := h.wrap_eq
    have hused := h.used_eq
    have hfree := h.free
    -- the packet goes behind those at block 0
    have hcells : cells (q₂ ++ [data]) = cells q₂ + cellsOf data.length := by simp
    rw [free_wrapped h] at hfits
    rw [endPos_wrapped h] at hdata ⊢
    have hsecond := h.second.append (by rw [Nat.zero_add]; exact hdata)
    rw [Nat.zero_add] at hsecond
    unfold cellsOf at *
    rw [if_neg (by omega)]
    exact .inr ⟨q₁, p, q₂ ++ [data], by simp,
      { wrap_eq := hwrap
        used_eq := by dsimp only; omega
        wrap_le := h.wrap_le
        size_le := h.size_le
        room := h.room
        free := by dsimp only; omega
        first := h.first.store (.inr (by rw [length_toLE]; unfold blockSize; omega))
        second := hsecond }⟩

/-- A packet that was written to `input_dest` is put behind the others. -/
theorem Ring.submitPacket {d : Nat} (h : Ring o q) (hd : o.inputDest = some d)
    (hdata : load o.buffer d data.length = data) (hlen : (data.length : Int) ≤ o.inputAvail) :
    ∃ o', o.submitPacket data.length = some o' ∧ Ring o' (q ++ [data]) ∧ o'.size = o.size ∧
      o'.mtu = o.mtu ∧ (q ≠ [] → o'.outputDest = o.outputDest) := by
  have hfree : 0 < o.free := by
    by_contra hfree
    rw [h.inputDest, if_neg hfree] at hd
    cases hd
  rw [h.inputDest, if_pos hfree] at hd
  obtain rfl := Option.some.inj hd
  -- `input_avail` is a whole number of blocks
  have hfits : (cellsOf data.length : Int) ≤ o.free := by
    rw [h.inputAvail, if_pos hfree] at hlen
    have hcells := @cellsOf_le data.length (o.free - 1).toNat
    omega
  have hle := h.layout.free_le
  have hlayout := h.layout.appended hdata hfits
  obtain ⟨hsize, hmtu, hstart, hused, hdest, havail⟩ := appended_fields o data.length
  have hsmall := h.small
  rw [← hsize] at hsmall
  have hring := hlayout.ring hsmall
  -- the new packet does not run into the first one
  have hspace : o.used < o.wrap - o.start ∨ o.endPos + cellsOf data.length ≤ o.start := by
    obtain hstraight | ⟨q₁, p, q₂, -, hwrapped⟩ := h.layout
    · exact .inl (Nat.lt_of_not_ge (straight_lt hstraight))
    · rw [free_wrapped hwrapped] at hfits
      rw [endPos_wrapped hwrapped]
      exact .inr (by omega)
  unfold cellsOf at hfits hspace hused
  refine ⟨(o.appended data.length).refreshed (q ++ [data]), ?_, hring, hsize, hmtu, ?_⟩
  rotate_left
  · -- the first packet stays where it is
    intro hne
    obtain ⟨p, q, rfl⟩ := List.exists_cons_of_ne_nil hne
    rw [h.outputDest, hring.outputDest]
    show some (4 * ((o.appended data.length).start + 1)) = some (4 * (o.start + 1))
    rw [hstart]
  -- now through the code, assertion by assertion
  unfold ChunkBuffer2.submitPacket
  rw [asserting_pos ⟨by rw [h.inputDest, if_pos hfree]; rfl, hlen, h.layout.assertBuffer,
    h.assertIo⟩]
  dsimp only
  have hrefresh : (if (o.appended data.length).updateInput.used =
          1 + bdivideUp data.length blockSize
        then (o.appended data.length).updateInput.updateOutput
        else some (o.appended data.length).updateInput) =
      some ((o.appended data.length).refreshed (q ++ [data])) := by
    have hfull := h.layout.used_eq
    rw [show (o.appended data.length).updateInput.used = o.used + cellsOf data.length by
      rw [hlayout.updateInput]
      exact hused]
    cases q with
    | nil =>
      rw [cells_nil] at hfull
      rw [if_pos (by unfold cellsOf; omega)]
      exact hlayout.refresh hsmall
    | cons p q =>
      have hpos := @cellsOf_pos p.length
      rw [cells_cons] at hfull
      rw [if_neg (by unfold cellsOf; omega), hlayout.updateInput]
      -- the first packet is as before
      rw [refreshed, hdest, havail, h.outputDest, h.outputAvail, hstart]
      rfl
  rw [asserting_pos (by omega), asserting_pos (by omega), asserting_pos hlayout.assertBuffer,
    hrefresh, Option.bind_some, asserting_pos hring.assertIo]

/-- What `ChunkBuffer2_ConsumePacket` leaves alone when it removes a packet. -/
theorem consumed_fields (o : ChunkBuffer2) :
    o.consumed.size = o.size ∧ o.consumed.mtu = o.mtu ∧ o.consumed.buffer = o.buffer ∧
    o.consumed.inputDest = o.inputDest ∧ o.consumed.inputAvail = o.inputAvail := by
  unfold consumed
  dsimp only
  split
  · exact ⟨rfl, rfl, rfl, rfl, rfl⟩
  · exact ⟨rfl, rfl, rfl, rfl, rfl⟩

/-- A packet that does not end at `wrap` is skipped. -/
theorem consumed_eq (hlen : o.len o.start = n) (hne : o.start + cellsOf n ≠ o.wrap) :
    o.consumed = { o with start := o.start + cellsOf n, used := o.used - cellsOf n } := by
  unfold consumed
  rw [hlen]
  exact if_neg hne

/-- Behind a packet that ends at `wrap` the buffer goes on at block 0. -/
theorem consumed_eq_of_last (hlen : o.len o.start = n) (heq : o.start + cellsOf n = o.wrap) :
    o.consumed = { o with start := 0, wrap := o.size, used := o.used - cellsOf n } := by
  unfold consumed
  rw [hlen]
  exact if_pos heq

/-- Packets one behind the other stay so. -/
theorem Straight.consumed (h : Straight o.buffer o.size o.wrap o.start o.used o.mtu (p :: q))
    (hlen : o.len o.start = p.length) :
    Straight o.consumed.buffer o.consumed.size o.consumed.wrap o.consumed.start o.consumed.used
      o.consumed.mtu q ∧ o.consumed.start = o.start + cellsOf p.length := by
  have hwrap := h.wrap_eq
  have hused := h.used_eq
  have hroom := h.room
  rw [cells_cons] at hused
  rw [consumed_eq hlen (by omega)]
  exact ⟨{ wrap_eq := hwrap
           used_eq := by dsimp only; omega
           room := by dsimp only; omega
           stored := h.stored.2.2 }, rfl⟩

/-- The packet that ends at `wrap` is consumed: the others are at block 0. -/
theorem Wrapped.consumed_last (h : Wrapped o.buffer o.size o.wrap o.start o.used o.mtu [] p q)
    (hlen : o.len o.start = p.length) :
    Straight o.consumed.buffer o.consumed.size o.consumed.wrap o.consumed.start o.consumed.used
      o.consumed.mtu q ∧ o.consumed.start = 0 := by
  have hwrap := h.wrap_eq
  have hused := h.used_eq
  have hroom := h.room
  have hfree := h.free
  have hcells : cells ([] ++ [p]) = cellsOf p.length := by simp
  rw [cells_nil] at hroom
  -- `start` reaches `wrap`, and goes to the beginning
  rw [consumed_eq_of_last hlen (by omega)]
  exact ⟨{ wrap_eq := rfl
           used_eq := by dsimp only; omega
           room := by dsimp only; omega
           stored := h.second }, rfl⟩

/-- A packet before the one that ends at `wrap` is consumed. -/
theorem Wrapped.consumed {p' : List UInt8}
    (h : Wrapped o.buffer o.size o.wrap o.start o.used o.mtu (p :: q₁) p' q₂)
    (hlen : o.len o.start = p.length) :
    Wrapped o.consumed.buffer o.consumed.size o.consumed.wrap o.consumed.start o.consumed.used
      o.consumed.mtu q₁ p' q₂ ∧ o.consumed.start = o.start + cellsOf p.length := by
  have hwrap := h.wrap_eq
  have hused := h.used_eq
  have hroom := h.room
  have hfree := h.free
  have hpos := @cellsOf_pos p'.length
  have hcells : cells (p :: q₁ ++ [p']) = cellsOf p.length + cells (q₁ ++ [p']) := rfl
  have hlast : cells (q₁ ++ [p']) = cells q₁ + cellsOf p'.length := by simp
  rw [cells_cons] at hroom
  -- `start` does not reach `wrap`: the packet `p'` is still before it
  rw [consumed_eq hlen (by omega)]
  exact ⟨{ wrap_eq := by dsimp only; omega
           used_eq := by dsimp only; omega
           wrap_le := h.wrap_le
           size_le := h.size_le
           room := by dsimp only; omega
           free := by dsimp only; omega
           first := h.first.2.2
           second := h.second }, rfl⟩

/-- What the first packet leaves behind: the data ends where it did, and there is no less
    room. -/
theorem Layout.consumed (h : Layout o (p :: q)) (hsmall : 4 * o.size ≤ intMax) :
    Layout o.consumed q ∧ o.consumed.endPos = o.endPos ∧ o.free ≤ o.consumed.free ∧
      (¬ o.used ≥ o.wrap - o.start → o.consumed.free = o.free) := by
  have hlen := h.len_start hsmall
  obtain ⟨hsize, -⟩ := consumed_fields o
  obtain h | ⟨q₁, p', q₂, heq, h⟩ := h
  · obtain ⟨h', hstart⟩ := h.consumed hlen
    rw [endPos_straight h', endPos_straight h, free_straight h', free_straight h, hstart, hsize,
      cells_cons, Nat.add_assoc]
    exact ⟨.inl h', rfl, Int.le_refl _, fun _ => rfl⟩
  · cases q₁ with
    | nil =>
      -- the packet ends at `wrap`
      obtain ⟨rfl, rfl⟩ := List.cons.inj heq
      obtain ⟨h', hstart⟩ := h.consumed_last hlen
      have hle := h.wrap_le
      have hwrap := h.wrap_eq
      rw [endPos_straight h', endPos_wrapped h, free_straight h', free_wrapped h, hstart, hsize]
      exact ⟨.inl h', by omega, by omega, fun hlt => absurd (wrapped_ge h) hlt⟩
    | cons x q₁ =>
      -- there are others before that
      obtain ⟨rfl, rfl⟩ := List.cons.inj heq
      obtain ⟨h', hstart⟩ := h.consumed hlen
      rw [endPos_wrapped h', endPos_wrapped h, free_wrapped h', free_wrapped h, hstart]
      exact ⟨.inr ⟨q₁, p', q₂, rfl, h'⟩, rfl, by omega, fun hlt => absurd (wrapped_ge h) hlt⟩

/-- The first packet is removed.  A place for input stays where it is. -/
theorem Ring.consumePacket (h : Ring o (p :: q)) :
    ∃ o', o.consumePacket = some o' ∧ Ring o' q ∧ o'.size = o.size ∧ o'.mtu = o.mtu ∧
      o'.buffer = o.buffer ∧ o.inputAvail ≤ o'.inputAvail ∧
      ∀ d, o.inputDest = some d → o'.inputDest = some d := by
  obtain ⟨hlayout, hend, hfree, hsame⟩ := h.layout.consumed h.small
  obtain ⟨hsize, hmtu, hbuffer, hdest, havail⟩ := consumed_fields o
  have hsmall := h.small
  rw [← hsize] at hsmall
  have hring := hlayout.ring hsmall
  obtain ⟨-, -, hcells, hwrap⟩ := h.layout.head
  have hlen := h.layout.len_start h.small
  unfold cellsOf at hcells hwrap
  refine ⟨o.consumed.refreshed q, ?_, hring, by simp [hsize], by simp [hmtu], by simp [hbuffer],
    ?_, ?_⟩
  · have hrefresh : (if decide (o.used ≥ o.wrap - o.start) = true then o.consumed.updateInput
        else o.consumed).updateOutput = some (o.consumed.refreshed q) := by
      -- the fields for input are only computed again if the free blocks are before `start`
      by_cases hwrapped : o.used ≥ o.wrap - o.start
      · rw [if_pos (by simpa using hwrapped)]
        exact hlayout.refresh hsmall
      · rw [if_neg (by simpa using hwrapped), hlayout.updateOutput hsmall, refreshed, hend,
          hsame hwrapped, hdest, havail, h.inputDest, h.inputAvail]
    unfold ChunkBuffer2.consumePacket
    rw [asserting_pos ⟨by rw [h.outputDest]; rfl, h.layout.assertBuffer, h.assertIo⟩, hlen]
    dsimp only
    rw [asserting_pos (by omega), asserting_pos (by omega), asserting_pos hlayout.assertBuffer,
      hrefresh, Option.bind_some, asserting_pos hring.assertIo]
  · -- no less room
    rw [h.inputAvail, hring.inputAvail, refreshed_free]
    split <;> split <;> omega
  · -- at the same place
    intro d hd
    rw [h.inputDest] at hd
    rw [hring.inputDest, refreshed_free, refreshed_endPos, hend]
    split at hd
    · rw [if_pos (by omega)]
      exact hd
    · cases hd

/-! ## The user's side -/

/-- What is written to `input_dest` does not touch the packets. -/
theorem Ring.write {d a : Nat} {bs : List UInt8} (h : Ring o q) (hd : o.inputDest = some d)
    (ha : d ≤ a) (hbs : ((a + bs.length : Nat) : Int) ≤ d + o.inputAvail) :
    Ring { o with buffer := store o.buffer a bs } q := by
  -- there is a place for input only with a free block
  have hfree : 0 < o.free := by
    by_contra hfree
    rw [h.inputDest, if_neg hfree] at hd
    cases hd
  rw [h.inputDest, if_pos hfree] at hd
  rw [h.inputAvail, if_pos hfree] at hbs
  obtain rfl := Option.some.inj hd
  have hlayout : Layout { o with buffer := store o.buffer a bs } q := by
    obtain hs | ⟨q₁, p, q₂, rfl, hw⟩ := h.layout
    · rw [endPos_straight hs] at ha
      exact .inl { hs with stored := hs.stored.store (.inl (by omega)) }
    · -- the free blocks are between the packets at block 0 and the others
      have hwrap := hw.wrap_eq
      rw [endPos_wrapped hw] at ha hbs
      rw [free_wrapped hw] at hbs
      exact .inr ⟨q₁, p, q₂, rfl, { hw with
        first := hw.first.store (.inr (by omega))
        second := hw.second.store (.inl (by omega)) }⟩
  have hinput : { o with buffer := store o.buffer a bs }.updateInput =
      { o with buffer := store o.buffer a bs } := by
    rw [hlayout.updateInput]
    show { o with
      buffer := store o.buffer a bs
      inputDest := if 0 < o.free then some (4 * (o.endPos + 1)) else none
      inputAvail := if 0 < o.free then (o.free - 1) * 4 else -1 } = _
    rw [← h.inputDest, ← h.inputAvail]
  exact ⟨hlayout, h.small, hinput, h.outputDest, h.outputAvail⟩

/-- The first packet can be read at `output_dest`. -/
theorem Ring.output (h : Ring o (p :: q)) :
    ∃ d, o.outputDest = some d ∧ o.outputAvail = p.length ∧ load o.buffer d p.length = p :=
  ⟨_, h.outputDest, h.outputAvail, h.layout.head.2.1⟩

/-- `ChunkBuffer2_calc_blocks` does not overflow. -/
theorem calcBlocks_eq {chunkLen num : Nat} (h : cellsOf chunkLen * (num + 1) ≤ intMax) :
    calcBlocks chunkLen num = some (cellsOf chunkLen * (num + 1)) := by
  have hnum : num + 1 ≤ cellsOf chunkLen * (num + 1) := Nat.le_mul_of_pos_left _ cellsOf_pos
  have hcells : cellsOf chunkLen ≤ cellsOf chunkLen * (num + 1) :=
    Nat.le_mul_of_pos_right _ (by omega)
  have hdiv : cellsOf chunkLen ≤ intMax / (num + 1) :=
    (Nat.le_div_iff_mul_le (by omega)).mpr h
  unfold cellsOf at *
  unfold calcBlocks
  dsimp only
  rw [if_neg (by omega), if_neg (by omega), if_neg (by omega)]

/-- Packets of at most `k` blocks each. -/
theorem cells_le {k : Nat} (h : ∀ p ∈ q, cellsOf p.length ≤ k) : cells q ≤ q.length * k := by
  induction q with
  | nil => simp
  | cons p q ih =>
    have hp := h p List.mem_cons_self
    have hq := ih fun x hx => h x (List.mem_cons_of_mem _ hx)
    rw [cells_cons, List.length_cons, Nat.succ_mul]
    omega

/-- A ring made for `num` packets has room for one more while it holds fewer. -/
theorem Ring.inputAvail_of_length {num : Nat} (h : Ring o q)
    (hsize : (o.mtu + 1) * (num + 1) ≤ o.size) (hmtu : ∀ p ∈ q, cellsOf p.length ≤ o.mtu + 1)
    (hlength : q.length < num) : 4 * (o.mtu : Int) ≤ o.inputAvail := by
  have hcells := cells_le hmtu
  have hfree : (o.mtu : Int) + 1 ≤ o.free := by
    obtain hs | ⟨q₁, p, q₂, rfl, hw⟩ := h.layout
    · have hroom := hs.room
      have hused := hs.used_eq
      rw [free_straight hs]
      omega
    · -- the blocks behind `wrap` are lost, but they are no more than one packet has
      have hwrap := hw.wrap_eq
      have hsize' := hw.size_le
      have hmul : (q₁ ++ p :: q₂).length * (o.mtu + 1) + 2 * (o.mtu + 1) ≤
          (o.mtu + 1) * (num + 1) := by
        rw [← Nat.add_mul, Nat.mul_comm]
        exact Nat.mul_le_mul_left _ (by omega)
      have hsum : cells (q₁ ++ p :: q₂) = cells (q₁ ++ [p]) + cells q₂ := by simp; omega
      rw [free_wrapped hw]
      omega
  rw [h.inputAvail, if_pos (by omega)]
  omega

end ChunkBuffer2

end OpenFlux
