/-
Byte strings.

* `Bytes.ofText`, `Bytes.text?`: the UTF-8 form of a text, and the text of bytes that are UTF-8.
* `Bytes.symbols`: bytes read as characters, a byte that belongs to no character standing alone;
  `symbols_ofChars` says that encoded characters come back.
* `Bytes.hex`, `Bytes.ofHex?`: two lower-case hex digits a byte.
* `Bytes.ofNat`, `Bytes.toNat`: big-endian numbers; `toNat_ofNat` says that a number that fits comes
  back.
-/

namespace LabTrust

/-- A byte string. -/
abbrev Bytes := List UInt8

namespace Bytes

/-! ### Text -/

/-- The UTF-8 form of characters. -/
def ofChars (s : List Char) : Bytes :=
  s.flatMap String.utf8EncodeChar

/-- The UTF-8 form of a text. -/
def ofText (s : String) : Bytes :=
  ofChars s.toList

/-- The character that the bytes begin with. -/
def leading? (bs : Bytes) : Option Char :=
  (bs.take 4).toByteArray.utf8DecodeChar? 0

/-- Characters and stray bytes from where `skip` more bytes belong to a character already read. -/
def symbolsFrom : Nat → Bytes → List (Option Char)
  | _, [] => []
  | skip + 1, _ :: rest => symbolsFrom skip rest
  | 0, b :: rest =>
    match leading? (b :: rest) with
    | some c => some c :: symbolsFrom (c.utf8Size - 1) rest
    | none => none :: symbolsFrom 0 rest

/-- The characters of a byte string; `none` is a byte that belongs to no character. -/
def symbols (bs : Bytes) : List (Option Char) :=
  symbolsFrom 0 bs

/-- The characters of bytes that are UTF-8. -/
def chars? (bs : Bytes) : Option (List Char) :=
  (symbols bs).mapM id

/-- The text of bytes that are UTF-8. -/
def text? (bs : Bytes) : Option String :=
  (chars? bs).map String.ofList

/-! ### Hex digits -/

/-- The digit of a number below sixteen. -/
def hexDigit (n : Nat) : Char :=
  if n < 10 then Char.ofNat (48 + n) else Char.ofNat (87 + n)

/-- The value of a hex digit of either case. -/
def hexValue? (c : Char) : Option Nat :=
  let n := c.toNat
  if 48 ≤ n ∧ n ≤ 57 then some (n - 48)
  else if 97 ≤ n ∧ n ≤ 102 then some (n - 87)
  else if 65 ≤ n ∧ n ≤ 70 then some (n - 55)
  else none

/-- The two digits of a byte. -/
def hexPair (b : UInt8) : List Char :=
  [hexDigit (b.toNat / 16), hexDigit (b.toNat % 16)]

/-- Lower-case hex text. -/
def hex (bs : Bytes) : String :=
  String.ofList (bs.flatMap hexPair)

/-- The bytes of pairs of hex digits. -/
def ofHexChars? : List Char → Option Bytes
  | [] => some []
  | [_] => none
  | a :: b :: rest => do
    let high ← hexValue? a
    let low ← hexValue? b
    let more ← ofHexChars? rest
    return UInt8.ofNat (16 * high + low) :: more

/-- The bytes of hex text. -/
def ofHex? (s : String) : Option Bytes :=
  ofHexChars? s.toList

/-! ### Numbers -/

/-- The `width` low bytes of `n`, highest first. -/
def ofNat : Nat → Nat → Bytes
  | 0, _ => []
  | width + 1, n => ofNat width (n / 256) ++ [UInt8.ofNat (n % 256)]

/-- The number whose digits to the base 256 are the bytes. -/
def toNat (bs : Bytes) : Nat :=
  bs.foldl (fun n b => 256 * n + b.toNat) 0

/-- How many bytes `n` needs; zero needs none. -/
def widthOf (n : Nat) : Nat :=
  (n.log2 + 8) / 8 - (if n = 0 then 1 else 0)

/-- The shortest byte string of a number. -/
def ofNatShort (n : Nat) : Bytes :=
  ofNat (widthOf n) n

/-- The width asked for is the width given. -/
@[simp] theorem length_ofNat (width n : Nat) : (ofNat width n).length = width := by
  induction width generalizing n with
  | zero => rfl
  | succ w ih => simp [ofNat, ih]

/-- Reading continues at the last byte. -/
theorem toNat_append_singleton (bs : Bytes) (b : UInt8) :
    toNat (bs ++ [b]) = 256 * toNat bs + b.toNat := by
  simp [toNat, List.foldl_append]

/-- A number below the power that a width gives is read back. -/
theorem toNat_ofNat_of_lt {width n : Nat} (h : n < Nat.pow 256 width) :
    toNat (ofNat width n) = n := by
  induction width generalizing n with
  | zero =>
    have h0 : n < 1 := h
    simp [ofNat, toNat]; omega
  | succ w ih =>
    have hq : n / 256 < Nat.pow 256 w := (Nat.div_lt_iff_lt_mul (by decide)).2 h
    rw [ofNat, toNat_append_singleton, ih hq, UInt8.toNat_ofNat']
    omega

/-- A number that fits its width is read back. -/
theorem toNat_ofNat {width n : Nat} (h : widthOf n ≤ width) : toNat (ofNat width n) = n := by
  by_cases hn : n = 0
  · subst hn; exact toNat_ofNat_of_lt (Nat.pow_pos (by decide))
  · have h1 : n < 2 ^ (n.log2 + 1) := Nat.lt_log2_self
    have h2 : widthOf n = (n.log2 + 8) / 8 := by simp [widthOf, hn]
    refine toNat_ofNat_of_lt ?_
    calc n < 2 ^ (n.log2 + 1) := h1
      _ ≤ 2 ^ (8 * width) := Nat.pow_le_pow_right (by decide) (by omega)
      _ = 256 ^ width := by rw [Nat.pow_mul]

/-- The shortest byte string of a number leads back to it. -/
theorem toNat_ofNatShort (n : Nat) : toNat (ofNatShort n) = n :=
  toNat_ofNat (Nat.le_refl _)

/-! ### Laws of the text form -/

/-- A character is read off the front of its encoding. -/
theorem leading?_utf8EncodeChar (c : Char) (rest : Bytes) :
    leading? (String.utf8EncodeChar c ++ rest) = some c := by
  have hlen : (String.utf8EncodeChar c).length ≤ 4 := by
    rw [String.length_utf8EncodeChar]; exact Char.utf8Size_le_four c
  have htake : (String.utf8EncodeChar c ++ rest).take 4 =
      String.utf8EncodeChar c ++ rest.take (4 - (String.utf8EncodeChar c).length) := by
    rw [List.take_append, List.take_of_length_le hlen]
  rw [leading?, htake, List.toByteArray_append]
  exact ByteArray.utf8DecodeChar?_utf8EncodeChar_append

/-- Skipping drops the bytes that belong to a character already read. -/
theorem symbolsFrom_append (skipped rest : Bytes) :
    symbolsFrom skipped.length (skipped ++ rest) = symbolsFrom 0 rest := by
  induction skipped with
  | nil => rfl
  | cons b bs ih => exact ih

/-- Encoded characters come back, whatever follows them. -/
theorem symbols_ofChars_append (s : List Char) (rest : Bytes) :
    symbols (ofChars s ++ rest) = s.map some ++ symbols rest := by
  induction s with
  | nil => rfl
  | cons c s ih =>
    have hne : String.utf8EncodeChar c ≠ [] := by
      intro h
      have := String.length_utf8EncodeChar c
      rw [h] at this
      exact absurd this.symm (Nat.ne_of_gt (Char.utf8Size_pos c))
    obtain ⟨b, bs, hb⟩ := List.exists_cons_of_ne_nil hne
    have hlead := leading?_utf8EncodeChar c (ofChars s ++ rest)
    have hlen : c.utf8Size - 1 = bs.length := by
      rw [← String.length_utf8EncodeChar, hb]; rfl
    simp only [symbols, ofChars, List.flatMap_cons, List.append_assoc] at ih hlead ⊢
    rw [hb] at hlead ⊢
    simp only [List.cons_append] at hlead ⊢
    rw [symbolsFrom, hlead]
    simp only [hlen, symbolsFrom_append, ih, List.map_cons, List.cons_append]

/-- Encoded characters come back. -/
theorem symbols_ofChars (s : List Char) : symbols (ofChars s) = s.map some := by
  have h := symbols_ofChars_append s []
  simpa [symbols, symbolsFrom] using h

/-- Encoded text comes back. -/
theorem text?_ofText (s : String) : text? (ofText s) = some s := by
  have h : ∀ l : List Char, (l.map some).mapM id = some l := by
    intro l
    induction l with
    | nil => rfl
    | cons c l ih => simp [List.mapM_cons, ih]
  simp [text?, chars?, ofText, symbols_ofChars, h]

end Bytes

end LabTrust
