import OpenFlux.ForStd.GoStrings
import OpenFlux.Model.EncryptionKey

/-!
# Do the app and OpenFlux agree on the key?

The app trims the key with Kotlin's `trim` and stores its UTF-8 bytes, and OpenFlux trims what
it reads with Go's `strings.TrimSpace`.  A peer that is given the same text trims it with
`strings.TrimSpace` alone.  The two notions of white space differ in five characters: the
separators U+001C to U+001F are white space for Kotlin only, and the control U+0085 for Go
only.

## Key results

- `isSpace_iff`: the difference
- `secret_eq_iff`: both sides use the same secret exactly where `trim` removes no separator
- `key_agreed_iff`: and then `isValid` is the length check of OpenFlux, except for a key that
  U+0085 at an end lifts to 16 bytes
- `key_not_agreed`: a key for each of the two kinds
-/

namespace OpenFlux.EncryptionKey

open GoStrings

/-- The bytes that `writeKey` stores. -/
def keyFileBytes (key : String) : List UInt8 := utf8 (normalize key).toList

/-- What OpenFlux uses as its secret when it reads a file with these bytes. -/
def secret (bytes : List UInt8) : List UInt8 := trimSpace bytes

/-- The secret of a peer that is given the text itself. -/
def peerSecret (text : String) : List UInt8 := secret (utf8 text.toList)

/-- U+001C to U+001F: white space for Kotlin only. -/
def isSeparator (c : Char) : Bool := 0x1C ≤ c.toNat && c.toNat ≤ 0x1F

/-- U+0085: white space for Go only. -/
def nextLine : Char := Char.ofNat 0x85

/-- White space for Go: what Kotlin has without the separators, and U+0085. -/
theorem isSpace_iff (c : Char) :
    isSpace c = true ↔ (isWhitespace c = true ∧ isSeparator c = false) ∨ c = nextLine := by
  have hnext : c = nextLine ↔ c.toNat = 0x85 := by
    rw [← Char.toNat_inj]
    rfl
  rw [hnext]
  simp only [isSpace, isWhitespace, isSeparator, Bool.or_eq_true, Bool.and_eq_true,
    decide_eq_true_eq, beq_iff_eq, Bool.and_eq_false_iff, decide_eq_false_iff_not]
  omega

/-- Kotlin's `trim` removes no separator from `raw`. -/
structure KeepsSeparators (raw : String) : Prop where
  leading : ∀ c ∈ raw.toList.takeWhile isWhitespace, isSeparator c = false
  trailing : ∀ c ∈ (raw.toList.dropWhile isWhitespace).rtakeWhile isWhitespace,
    isSeparator c = false

/-- `trim` removes no separator, and what it leaves stays at 16 bytes, if it has them, without
    the white space of Go at its ends. -/
structure TrimsAlike (raw : String) : Prop extends KeepsSeparators raw where
  length : minBytes ≤ (keyFileBytes raw).length →
    minBytes ≤ (utf8 ((normalize raw).toList.trimBy isSpace)).length

/-- `normalize` cuts white space off both ends. -/
theorem toList_normalize (raw : String) :
    (normalize raw).toList = raw.toList.trimBy isWhitespace := by
  rw [normalize, trim, String.toList_ofList]
  rfl

/-- The peer's secret, in characters. -/
theorem peerSecret_eq (text : String) : peerSecret text = utf8 (text.toList.trimBy isSpace) :=
  trimSpace_utf8 text.toList

/-- The secret behind the key file, in characters. -/
theorem secret_keyFileBytes (key : String) :
    secret (keyFileBytes key) = utf8 ((normalize key).toList.trimBy isSpace) :=
  trimSpace_utf8 (normalize key).toList

/-! ## The secrets -/

section Agrees

variable {raw : String}

/-- Go trims no separator. -/
theorem not_isSpace_of_isSeparator {c : Char} (h : isSeparator c = true) : ¬ isSpace c := by
  intro hspace
  obtain ⟨-, hsep⟩ | rfl := (isSpace_iff c).mp hspace
  · rw [h] at hsep
    cases hsep
  · cases h

/-- What `trim` takes from the ends, `strings.TrimSpace` takes too. -/
theorem KeepsSeparators.trimBy_normalize (h : KeepsSeparators raw) :
    (normalize raw).toList.trimBy isSpace = raw.toList.trimBy isSpace := by
  have hspace {c : Char} (hwhite : isWhitespace c = true) (hsep : isSeparator c = false) :
      isSpace c = true := (isSpace_iff c).mpr (.inl ⟨hwhite, hsep⟩)
  -- whatever the app trims the helper would trim too
  have hleading : ∀ c ∈ raw.toList.takeWhile isWhitespace, isSpace c := by
    intro c hc
    exact hspace (List.mem_takeWhile_imp hc) (h.leading c hc)
  have htrailing : ∀ c ∈ (raw.toList.dropWhile isWhitespace).rtakeWhile isWhitespace,
      isSpace c := by
    intro c hc
    exact hspace (List.mem_rtakeWhile_imp hc) (h.trailing c hc)
  calc (normalize raw).toList.trimBy isSpace
      = (raw.toList.trimBy isWhitespace).trimBy isSpace := by rw [toList_normalize]
    _ = (raw.toList.takeWhile isWhitespace ++ (raw.toList.trimBy isWhitespace ++
          (raw.toList.dropWhile isWhitespace).rtakeWhile isWhitespace)).trimBy isSpace := by
        rw [List.trimBy_append_append hleading htrailing]
    _ = raw.toList.trimBy isSpace := by rw [← List.eq_append_trimBy]

/-- `strings.TrimSpace` takes no separator, so a separator that `trim` takes makes a
    difference. -/
theorem KeepsSeparators.of_trimBy
    (h : (normalize raw).toList.trimBy isSpace = raw.toList.trimBy isSpace) :
    KeepsSeparators raw := by
  -- count the separators of the parts that `trim` cuts `raw` into
  have hcount : (raw.toList.trimBy isWhitespace).countP isSeparator =
      raw.toList.countP isSeparator := by
    have hsep : ∀ c, isSeparator c → ¬ isSpace c := fun c => not_isSpace_of_isSeparator
    rw [← List.countP_trimBy hsep, ← toList_normalize, h, List.countP_trimBy hsep]
  have hparts := congrArg (List.countP isSeparator) (List.eq_append_trimBy isWhitespace raw.toList)
  rw [List.countP_append, List.countP_append] at hparts
  constructor
  · have hzero : (raw.toList.takeWhile isWhitespace).countP isSeparator = 0 := by omega
    intro c hc
    exact Bool.eq_false_iff.mpr (List.countP_eq_zero.mp hzero c hc)
  · have hzero : ((raw.toList.dropWhile isWhitespace).rtakeWhile isWhitespace).countP
        isSeparator = 0 := by omega
    intro c hc
    exact Bool.eq_false_iff.mpr (List.countP_eq_zero.mp hzero c hc)

/-- The stored key and the text give the same secret exactly where `trim` removes no
    separator. -/
theorem secret_eq_iff : secret (keyFileBytes raw) = peerSecret raw ↔ KeepsSeparators raw := by
  rw [secret_keyFileBytes, peerSecret_eq, utf8_injective.eq_iff]
  exact ⟨.of_trimBy, fun h => h.trimBy_normalize⟩

/-- `isValid` counts the bytes that are stored. -/
theorem isValid_iff : isValid raw = true ↔ minBytes ≤ (keyFileBytes raw).length := by
  rw [isValid, decide_eq_true_iff, keyFileBytes, length_utf8_toList]

end Agrees

/-- The stored key and the text give the same secret and `isValid` says that OpenFlux accepts
    its length, for exactly the keys with `TrimsAlike`. -/
theorem key_agreed_iff (raw : String) :
    (secret (keyFileBytes raw) = peerSecret raw ∧
      (isValid raw = true ↔ 16 ≤ (peerSecret raw).length)) ↔ TrimsAlike raw := by
  have hle := length_utf8_trimBy_le isSpace (normalize raw).toList
  constructor
  · -- a key that `isValid` accepts is long enough for the peer, and so for OpenFlux
    rintro ⟨hsame, hvalid⟩
    refine ⟨secret_eq_iff.mp hsame, fun hlength => ?_⟩
    rw [← secret_keyFileBytes, hsame]
    exact hvalid.mp (isValid_iff.mpr hlength)
  · intro h
    have hsame := secret_eq_iff.mpr h.toKeepsSeparators
    refine ⟨hsame, ?_⟩
    rw [← hsame, secret_keyFileBytes, isValid_iff]
    -- trimming makes no text longer
    exact ⟨h.length, fun hlength => Nat.le_trans hlength hle⟩

/-- A key between spaces that both sides trim, behind U+0085 which only OpenFlux does. -/
theorem key_agreed_spaces :
    secret (keyFileBytes "\t \u00850123456789abcdef\u00a0\n") =
        peerSecret "\t \u00850123456789abcdef\u00a0\n" ∧
      isValid "\t \u00850123456789abcdef\u00a0\n" = true ∧
      16 ≤ (peerSecret "\t \u00850123456789abcdef\u00a0\n").length := by
  have hleading : ("\t \u00850123456789abcdef\u00a0\n".toList.takeWhile isWhitespace).all
      (!isSeparator ·) := by decide +kernel
  have htrailing : (("\t \u00850123456789abcdef\u00a0\n".toList.dropWhile
      isWhitespace).rtakeWhile isWhitespace).all (!isSeparator ·) := by decide +kernel
  have halike : TrimsAlike "\t \u00850123456789abcdef\u00a0\n" :=
    { leading := by simpa only [List.all_eq_true, Bool.not_eq_true'] using hleading
      trailing := by simpa only [List.all_eq_true, Bool.not_eq_true'] using htrailing
      length := by decide +kernel }
  obtain ⟨hsame, hiff⟩ := (key_agreed_iff _).mpr halike
  have hvalid : isValid "\t \u00850123456789abcdef\u00a0\n" = true := by decide +kernel
  exact ⟨hsame, hvalid, hiff.mp hvalid⟩

/-- A separator before the key is part of the secret for the peer only, and a key of 15 bytes
    behind U+0085 counts as valid. -/
theorem key_not_agreed :
    secret (keyFileBytes "\u001c0123456789abcdef") ≠ peerSecret "\u001c0123456789abcdef" ∧
      isValid "\u0085123456789abcdef" = true ∧
      (peerSecret "\u0085123456789abcdef").length = 15 := by
  refine ⟨?_, by decide +kernel, ?_⟩
  · rw [secret_keyFileBytes, peerSecret_eq]
    decide +kernel
  · rw [peerSecret_eq]
    decide +kernel

end OpenFlux.EncryptionKey
