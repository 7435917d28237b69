import Mathlib.Data.List.DropRight

/-!
# Go's `strings.TrimSpace`

A Go string is a sequence of bytes, and `strings.TrimSpace` decodes runes from both of its
ends as long as they are white space.  Bytes that do not decode are no space and end the
loop.  (The fast path for ASCII in the Go source computes the same.)

On the UTF-8 bytes of a text this is the same as trimming the characters of the text:
`trimSpace_utf8`.  From the left that is the round trip of one character; from the right it
also takes that exactly the first byte of a character looks like one.
-/

/-! ## Trimming lists -/

namespace List

variable {α : Type*} {p : α → Bool} {m a b : List α}

/-- Drop the elements with `p` from both ends. -/
def trimBy (p : α → Bool) (l : List α) : List α := (l.dropWhile p).rdropWhile p

/-- An end that is dropped as a whole. -/
theorem rdropWhile_append_of_pos (hb : ∀ x ∈ b, p x) :
    (m ++ b).rdropWhile p = m.rdropWhile p := by
  have hb' : ∀ x ∈ b.reverse, p x := by simpa using hb
  rw [rdropWhile, reverse_append, dropWhile_append_of_pos hb', rdropWhile]

/-- What both ends lose is lost, whatever is in the middle. -/
theorem trimBy_append_append (ha : ∀ x ∈ a, p x) (hb : ∀ x ∈ b, p x) :
    (a ++ (m ++ b)).trimBy p = m.trimBy p := by
  rw [trimBy, dropWhile_append_of_pos ha, dropWhile_append]
  split
  · -- the middle goes too, and then the right end is dropped from the left
    rename_i hempty
    rw [dropWhile_eq_nil_iff.mpr hb, trimBy, isEmpty_iff.mp hempty]
  · exact rdropWhile_append_of_pos hb

/-- The three parts of a list that is trimmed. -/
theorem eq_append_trimBy (p : α → Bool) (l : List α) :
    l = l.takeWhile p ++ (l.trimBy p ++ (l.dropWhile p).rtakeWhile p) := by
  rw [trimBy, rdropWhile_append_rtakeWhile, takeWhile_append_dropWhile]

/-- Trimming keeps every element without `p`. -/
theorem countP_trimBy {q : α → Bool} (h : ∀ x, q x → ¬ p x) (l : List α) :
    (l.trimBy p).countP q = l.countP q := by
  -- what is taken from an end has `p`, so it has no element with `q`
  have hleft : (l.takeWhile p).countP q = 0 := by
    rw [countP_eq_zero]
    exact fun x hx hq => h x hq (mem_takeWhile_imp hx)
  have hright : ((l.dropWhile p).rtakeWhile p).countP q = 0 := by
    rw [countP_eq_zero]
    exact fun x hx hq => h x hq (mem_rtakeWhile_imp hx)
  conv_rhs => rw [eq_append_trimBy p l]
  rw [countP_append, countP_append, hleft, hright]
  omega

end List

namespace GoStrings

/-! ## Runes -/

/-- `unicode.IsSpace`. -/
def isSpace (c : Char) : Bool :=
  let n := c.toNat
  (0x09 ≤ n && n ≤ 0x0D) || n == 0x20 || n == 0x85 || n == 0xA0 || n == 0x1680 ||
    (0x2000 ≤ n && n ≤ 0x200A) || n == 0x2028 || n == 0x2029 || n == 0x202F ||
    n == 0x205F || n == 0x3000

/-- `utf8.RuneStart`: the byte is not `10xxxxxx`. -/
def runeStart (b : UInt8) : Bool := b.toNat / 64 ≠ 2

/-- `utf8.DecodeRune`; `none` is an encoding error. -/
def decodeRune (bytes : List UInt8) : Option Char := bytes.toByteArray.utf8DecodeChar? 0

/-- `utf8.DecodeLastRune`: the last byte that can start a rune has to start one that ends with
    the string. -/
def decodeLastRune (bytes : List UInt8) : Option Char :=
  let width := (bytes.reverse.takeWhile (!runeStart ·)).length + 1
  (decodeRune (bytes.drop (bytes.length - width))).filter (·.utf8Size = width)

/-! ## Trimming strings -/

/-- `strings.TrimLeftFunc(s, unicode.IsSpace)`, for at most `fuel` runes. -/
def trimLeft : (fuel : Nat) → List UInt8 → List UInt8
  | 0, bytes => bytes
  | fuel + 1, bytes =>
    match decodeRune bytes with
    | some c => if isSpace c then trimLeft fuel (bytes.drop c.utf8Size) else bytes
    | none => bytes

/-- `strings.TrimRightFunc(s, unicode.IsSpace)`, for at most `fuel` runes. -/
def trimRight : (fuel : Nat) → List UInt8 → List UInt8
  | 0, bytes => bytes
  | fuel + 1, bytes =>
    match decodeLastRune bytes with
    | some c => if isSpace c then trimRight fuel (bytes.take (bytes.length - c.utf8Size)) else bytes
    | none => bytes

/-- `strings.TrimSpace`. -/
def trimSpace (bytes : List UInt8) : List UInt8 :=
  let bytes := trimLeft bytes.length bytes
  trimRight bytes.length bytes

/-! ## Encoded text -/

/-- The UTF-8 bytes of a text. -/
def utf8 (cs : List Char) : List UInt8 := cs.flatMap String.utf8EncodeChar

@[simp]
theorem utf8_nil : utf8 [] = [] := rfl

/-- The bytes of a text begin with those of its first character. -/
theorem utf8_cons (c : Char) (cs : List Char) :
    utf8 (c :: cs) = String.utf8EncodeChar c ++ utf8 cs := rfl

/-- The bytes of two texts one behind the other. -/
theorem utf8_append (cs ds : List Char) : utf8 (cs ++ ds) = utf8 cs ++ utf8 ds :=
  List.flatMap_append

/-- The length of a string in bytes. -/
theorem length_utf8_toList (s : String) : (utf8 s.toList).length = s.utf8ByteSize := by
  rw [← String.size_toByteArray, ← String.utf8Encode_toList, List.utf8Encode,
    List.size_toByteArray, utf8]

/-- A character has a byte at least. -/
theorem length_le_utf8 (cs : List Char) : cs.length ≤ (utf8 cs).length := by
  induction cs with
  | nil => exact Nat.le_refl 0
  | cons c cs ih =>
    have hpos := c.utf8Size_pos
    rw [utf8_cons, List.length_append, String.length_utf8EncodeChar, List.length_cons]
    omega

/-- A character is decoded from the front of its bytes. -/
theorem decodeRune_append (c : Char) (rest : List UInt8) :
    decodeRune (String.utf8EncodeChar c ++ rest) = some c := by
  rw [decodeRune, List.toByteArray_append]
  exact ByteArray.utf8DecodeChar?_utf8EncodeChar_append

/-- Different texts have different bytes. -/
theorem utf8_injective : Function.Injective utf8 := by
  intro cs
  induction cs with
  | nil =>
    intro ds h
    have hlen := length_le_utf8 ds
    rw [← h, utf8_nil, List.length_nil, Nat.le_zero, List.length_eq_zero_iff] at hlen
    exact hlen.symm
  | cons c cs ih =>
    intro ds h
    cases ds with
    | nil =>
      have hlen := length_le_utf8 (c :: cs)
      rw [h] at hlen
      cases hlen
    | cons d ds =>
      rw [utf8_cons, utf8_cons] at h
      -- the first character is what decoding the bytes gives
      have hdecode := congrArg decodeRune h
      rw [decodeRune_append, decodeRune_append] at hdecode
      obtain rfl := Option.some.inj hdecode
      rw [ih (List.append_cancel_left h)]

/-- The bytes of a character: only the first one can start a rune. -/
theorem exists_utf8EncodeChar (c : Char) : ∃ first rest,
    String.utf8EncodeChar c = first :: rest ∧ runeStart first ∧ ∀ b ∈ rest, !runeStart b := by
  fun_cases String.utf8EncodeChar c
  all_goals refine ⟨_, _, rfl, ?_, ?_⟩
  all_goals simp [runeStart]
  all_goals omega

/-- There is nothing to decode in no bytes. -/
theorem decodeRune_nil : decodeRune [] = none := by
  decide

/-- The same from the end. -/
theorem decodeLastRune_nil : decodeLastRune [] = none := by
  simp [decodeLastRune, decodeRune_nil]

/-- A character is decoded from the end of the string. -/
theorem decodeLastRune_append (front : List UInt8) (c : Char) :
    decodeLastRune (front ++ String.utf8EncodeChar c) = some c := by
  obtain ⟨first, rest, henc, hfirst, hrest⟩ := exists_utf8EncodeChar c
  have hsize : c.utf8Size = rest.length + 1 := by
    rw [← String.length_utf8EncodeChar, henc, List.length_cons]
  -- going back, the first byte of the last character is the first that can start a rune
  have hback : (front ++ String.utf8EncodeChar c).reverse.takeWhile (!runeStart ·) =
      rest.reverse := by
    have hrest' : ∀ b ∈ rest.reverse, !runeStart b := by simpa using hrest
    rw [henc, List.reverse_append, List.reverse_cons, List.append_assoc,
      List.takeWhile_append_of_pos hrest']
    simp [hfirst]
  have hwidth : (front ++ String.utf8EncodeChar c).length - (rest.length + 1) =
      front.length := by
    rw [List.length_append, String.length_utf8EncodeChar, hsize]
    omega
  have hdecode := decodeRune_append c []
  rw [List.append_nil] at hdecode
  rw [decodeLastRune, hback, List.length_reverse, hwidth, List.drop_left, hdecode]
  simp [hsize]

/-- The loop from the left drops white space characters. -/
theorem trimLeft_utf8 {fuel : Nat} {cs : List Char} (h : cs.length ≤ fuel) :
    trimLeft fuel (utf8 cs) = utf8 (cs.dropWhile isSpace) := by
  induction cs generalizing fuel with
  | nil => cases fuel <;> simp [trimLeft, decodeRune_nil]
  | cons c cs ih =>
    cases fuel with
    | zero => simp at h
    | succ fuel =>
      rw [utf8_cons, trimLeft, decodeRune_append]
      dsimp only
      split
      · -- the character goes with all of its bytes
        rename_i hspace
        rw [List.drop_left' (String.length_utf8EncodeChar c), ih (Nat.le_of_succ_le_succ h),
          List.dropWhile_cons_of_pos hspace]
      · rename_i hspace
        rw [List.dropWhile_cons_of_neg hspace, utf8_cons]

/-- The loop from the right drops the spaces at the end. -/
theorem trimRight_utf8 {fuel : Nat} {cs : List Char} (h : cs.length ≤ fuel) :
    trimRight fuel (utf8 cs) = utf8 (cs.reverse.dropWhile isSpace).reverse := by
  -- from the last character on, as the loop goes
  induction cs using List.reverseRecOn generalizing fuel with
  | nil => cases fuel <;> simp [trimRight, decodeLastRune_nil]
  | append_singleton cs c ih =>
    cases fuel with
    | zero => simp at h
    | succ fuel =>
      have hlast : utf8 (cs ++ [c]) = utf8 cs ++ String.utf8EncodeChar c := by
        rw [utf8_append, utf8_cons, utf8_nil, List.append_nil]
      rw [List.reverse_append, List.reverse_singleton, List.singleton_append, hlast, trimRight,
        decodeLastRune_append]
      dsimp only
      split
      · rename_i hspace
        have hcs : cs.length ≤ fuel := by
          rw [List.length_append, List.length_singleton] at h
          omega
        rw [List.length_append, String.length_utf8EncodeChar, Nat.add_sub_cancel,
          List.take_left, ih hcs, List.dropWhile_cons_of_pos hspace]
      · rename_i hspace
        rw [List.dropWhile_cons_of_neg hspace, List.reverse_cons, List.reverse_reverse, hlast]

/-- Trimming a text makes it no longer. -/
theorem length_utf8_trimBy_le (p : Char → Bool) (cs : List Char) :
    (utf8 (cs.trimBy p)).length ≤ (utf8 cs).length := by
  conv_rhs => rw [List.eq_append_trimBy p cs]
  rw [utf8_append, utf8_append, List.length_append, List.length_append]
  omega

/-- On the bytes of a text, `strings.TrimSpace` trims characters. -/
theorem trimSpace_utf8 (cs : List Char) : trimSpace (utf8 cs) = utf8 (cs.trimBy isSpace) := by
  rw [trimSpace, trimLeft_utf8 (length_le_utf8 cs)]
  exact trimRight_utf8 (length_le_utf8 _)

end GoStrings
