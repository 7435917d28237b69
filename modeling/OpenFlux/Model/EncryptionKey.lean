import Mathlib.Data.List.Basic

/-!
# Text helpers of the app

`EncryptionKey.normalize` and the two other places where the app looks at the characters of
a line: Kotlin's `isBlank` and the pattern that strips Go's log prefix.
-/

namespace OpenFlux

/-- Kotlin's `Char.isWhitespace`: `Character.isWhitespace` or `Character.isSpaceChar`, that
    is the separators Zs, Zl, Zp and the controls U+0009–U+000D and U+001C–U+001F. -/
def isWhitespace (c : Char) : Bool :=
  let n := c.toNat
  (0x09 ≤ n && n ≤ 0x0D) || (0x1C ≤ n && n ≤ 0x20) || n == 0xA0 || n == 0x1680 ||
    (0x2000 ≤ n && n ≤ 0x200A) || n == 0x2028 || n == 0x2029 || n == 0x202F ||
    n == 0x205F || n == 0x3000

/-- Kotlin's `String.trim`. -/
def trim (s : String) : String :=
  String.ofList ((s.toList.dropWhile isWhitespace).reverse.dropWhile isWhitespace).reverse

/-- Kotlin's `String.isBlank`. -/
def isBlank (s : String) : Bool := s.toList.all isWhitespace

namespace EncryptionKey

/-- `MIN_BYTES`. -/
def minBytes : Nat := 16

/-- `EncryptionKey.normalize` -/
def normalize (raw : String) : String := trim raw

/-- `EncryptionKey.isValid` -/
def isValid (raw : String) : Bool := minBytes ≤ (normalize raw).utf8ByteSize

end EncryptionKey

/-! ## Go's log prefix -/

namespace LogPrefix

/-- The next character is `c`. -/
def literal (c : Char) : List Char → Option (List Char)
  | [] => none
  | x :: rest => if x = c then some rest else none

/-- Exactly `n` digits. -/
def digits : Nat → List Char → Option (List Char)
  | 0, cs => some cs
  | _ + 1, [] => none
  | n + 1, c :: cs => if c.isDigit then digits n cs else none

/-- `(\.\d+)?` -/
def fraction : List Char → Option (List Char)
  | '.' :: cs => (digits 1 cs).map (·.dropWhile Char.isDigit)
  | cs => some cs

/-- `^\d{4}/\d{2}/\d{2} \d{2}:\d{2}:\d{2}(\.\d+)? ` -/
def timestamp (cs : List Char) : Option (List Char) :=
  digits 4 cs >>= literal '/' >>= digits 2 >>= literal '/' >>= digits 2 >>= literal ' ' >>=
    digits 2 >>= literal ':' >>= digits 2 >>= literal ':' >>= digits 2 >>= fraction >>=
    literal ' '

/-- The characters `\s` matches. -/
def isSpace (c : Char) : Bool := c ∈ [' ', '\t', '\n', '\x0b', '\x0c', '\r']

/-- The word is `\S+\.go:\d+:`; it is looked at from its end, where the digits are between
    two colons. -/
def isLocation (word : List Char) : Bool :=
  match word.reverse with
  | ':' :: cs =>
    match digits 1 cs, cs.dropWhile Char.isDigit with
    | some _, ':' :: 'o' :: 'g' :: '.' :: _ :: _ => true
    | _, _ => false
  | _ => false

/-- `(\S+\.go:\d+: )?`: nothing in it but its last character is a space, so it can only end
    at the first one. -/
def location (cs : List Char) : List Char :=
  match cs.dropWhile (!isSpace ·) with
  | ' ' :: rest => if isLocation (cs.takeWhile (!isSpace ·)) then rest else cs
  | _ => cs

/-- `line.replace(LOG_PREFIX, "")`. -/
def strip (line : String) : String :=
  match timestamp line.toList with
  | none => line
  | some rest => String.ofList (location rest)

example : strip "2026/09/17 01:02:03.456789 main.go:349: no route" = "no route" := by decide

end LogPrefix

end OpenFlux
