/-
Elements of the distinguished encoding.

An element is a tag octet, the length of its content and the content.
* `Der.element`: an element as bytes.
* `Der.read?`: the element at the front of bytes, and the rest. A length may be longer than needed;
  `Der.readStrict?` asks for the shortest.
* `Der.read?_element`: a written element is read back.
-/
import LabTrust.Bytes

namespace LabTrust

namespace Der

/-! ### Tags -/

/-- The tags of the elements that certificates are made of. -/
def boolean : UInt8 := 0x01
def integer : UInt8 := 0x02
def bitString : UInt8 := 0x03
def octetString : UInt8 := 0x04
def null : UInt8 := 0x05
def objectId : UInt8 := 0x06
def utf8String : UInt8 := 0x0c
def numericString : UInt8 := 0x12
def printableString : UInt8 := 0x13
def teletexString : UInt8 := 0x14
def videotexString : UInt8 := 0x15
def ia5String : UInt8 := 0x16
def utcTime : UInt8 := 0x17
def generalizedTime : UInt8 := 0x18
def graphicString : UInt8 := 0x19
def visibleString : UInt8 := 0x1a
def generalString : UInt8 := 0x1b
def universalString : UInt8 := 0x1c
def bmpString : UInt8 := 0x1e
def sequence : UInt8 := 0x30
def set : UInt8 := 0x31

/-- The tag of a part that holds a single value of a kind of its own. -/
def context (n : Nat) : UInt8 := UInt8.ofNat (0x80 + n)

/-- The tag of a part that holds elements. -/
def contextParts (n : Nat) : UInt8 := UInt8.ofNat (0xa0 + n)

/-! ### Writing -/

/-- The octets of a length: one if it is below 128, else their number and the length. -/
def lengthOctets (n : Nat) : Bytes :=
  if n < 128 then [UInt8.ofNat n]
  else UInt8.ofNat (128 + (Bytes.ofNatShort n).length) :: Bytes.ofNatShort n

/-- An element as bytes. -/
def element (tag : UInt8) (content : Bytes) : Bytes :=
  tag :: (lengthOctets content.length ++ content)

/-- The lowest octet of a number is set in the content of a positive integer where its first octet
would read as a sign. -/
def natContent (n : Nat) : Bytes :=
  match Bytes.ofNatShort n with
  | [] => [0]
  | b :: rest => if b < 128 then b :: rest else 0 :: b :: rest

/-- A natural number as an element. -/
def nat (n : Nat) : Bytes := element integer (natContent n)

/-- Bytes as an element whose bits are all used. -/
def bits (bs : Bytes) : Bytes := element bitString (0 :: bs)

/-! ### Reading -/

/-- An element: its tag octet and its content. A tag that takes more octets is known by its first. -/
structure Element where
  tag : UInt8
  content : Bytes
  deriving DecidableEq, Inhabited

/-- The bytes after the further octets of a tag. -/
def dropTag : Nat → Bytes → Option Bytes
  | 0, _ => none
  | _, [] => none
  | bound + 1, b :: rest => if b < 128 then some rest else dropTag bound rest

/-- The length at the front of bytes, and the rest. -/
def readLength? : Bytes → Option (Nat × Bytes)
  | [] => none
  | l :: rest =>
    if l < 128 then some (l.toNat, rest)
    else if l = 128 ∨ l = 255 then none
    else
      let width := l.toNat - 128
      if width ≤ rest.length then some (Bytes.toNat (rest.take width), rest.drop width) else none

/-- The element at the front of bytes, and the rest. -/
def read? : Bytes → Option (Element × Bytes)
  | [] => none
  | tag :: rest => do
    let rest ← if tag.toNat % 32 = 31 then dropTag 5 rest else some rest
    let (length, rest) ← readLength? rest
    if length ≤ rest.length then some (⟨tag, rest.take length⟩, rest.drop length) else none

/-- The content of the element at the front, which has to have this tag, and the rest. -/
def readTag? (tag : UInt8) (bs : Bytes) : Option (Bytes × Bytes) := do
  let (e, rest) ← read? bs
  if e.tag = tag then some (e.content, rest) else none

/-- The same for an element whose length is as short as can be. -/
def readStrict? (tag : UInt8) (bs : Bytes) : Option (Bytes × Bytes) := do
  let (content, rest) ← readTag? tag bs
  if element tag content ++ rest = bs then some (content, rest) else none

/-- The content of bytes that are one strict element. -/
def only? (tag : UInt8) (bs : Bytes) : Option Bytes := do
  let (content, rest) ← readStrict? tag bs
  if rest = [] then some content else none

/-- Reads items as long as there are some; `bound` is at least their number. -/
def many {α : Type} (item : Bytes → Option (α × Bytes)) : Nat → Bytes → List α × Bytes
  | 0, bs => ([], bs)
  | bound + 1, bs =>
    match item bs with
    | none => ([], bs)
    | some (a, rest) => ((a :: (many item bound rest).1), (many item bound rest).2)

/-- The items that bytes consist of. -/
def all? {α : Type} (item : Bytes → Option (α × Bytes)) (bs : Bytes) : Option (List α) :=
  match many item bs.length bs with
  | (items, []) => some items
  | _ => none

/-- The natural number in the content of an integer: not negative, in the shortest form. -/
def natOf? : Bytes → Option Nat
  | [] => none
  | [b] => if b < 128 then some b.toNat else none
  | 0 :: b :: rest => if b < 128 then none else some (Bytes.toNat (b :: rest))
  | b :: rest => if b < 128 then some (Bytes.toNat (b :: rest)) else none

/-- The bits of a bit string: how many of the last octet are not used, and the octets. Bits that
are not used are zero. -/
def bitsOf? : Bytes → Option (Nat × Bytes)
  | [] => none
  | unused :: bs =>
    let n := unused.toNat
    if n = 0 then some (0, bs)
    else if n ≤ 7 ∧ bs ≠ [] ∧ (bs.getLast?.getD 0).toNat % (1 <<< n) = 0 then some (n, bs)
    else none

/-! ### Written elements -/

/-- A written length is read back. -/
theorem readLength?_lengthOctets {n : Nat} (h : Bytes.widthOf n ≤ 126) (rest : Bytes) :
    readLength? (lengthOctets n ++ rest) = some (n, rest) := by
  by_cases hn : n < 128
  · have hb : (UInt8.ofNat n) < 128 := by
      rw [UInt8.lt_iff_toNat_lt, UInt8.toNat_ofNat_of_lt' (by omega : n < 256)]
      exact hn
    simp only [lengthOctets, hn, if_true, List.cons_append, List.nil_append, readLength?, hb]
    rw [UInt8.toNat_ofNat_of_lt' (by omega : n < 256)]
  · have hw : Bytes.widthOf n ≤ 126 := h
    have hlen : (Bytes.ofNatShort n).length = Bytes.widthOf n := Bytes.length_ofNat _ _
    have hpos : 0 < Bytes.widthOf n := by
      have h0 : n ≠ 0 := by omega
      simp only [Bytes.widthOf, h0, if_false]
      omega
    have ht : (UInt8.ofNat (128 + Bytes.widthOf n)).toNat = 128 + Bytes.widthOf n :=
      UInt8.toNat_ofNat_of_lt' (by omega : 128 + Bytes.widthOf n < 256)
    have h1 : ¬ UInt8.ofNat (128 + Bytes.widthOf n) < 128 := by
      rw [UInt8.lt_iff_toNat_lt, ht]
      exact Nat.not_lt.mpr (Nat.le_add_right 128 _)
    have h2 : ¬ (UInt8.ofNat (128 + Bytes.widthOf n) = 128 ∨
        UInt8.ofNat (128 + Bytes.widthOf n) = 255) := by
      rintro (e | e) <;> have e := congrArg UInt8.toNat e <;> rw [ht] at e
      · have : (128 : UInt8).toNat = 128 := rfl
        omega
      · have : (255 : UInt8).toNat = 255 := rfl
        omega
    simp only [lengthOctets, hn, if_false, List.cons_append, hlen, readLength?, h1, h2, ht]
    have h3 : 128 + Bytes.widthOf n - 128 = (Bytes.ofNatShort n).length := by omega
    rw [h3, List.take_left, List.drop_left, Bytes.toNat_ofNatShort]
    simp

/-- A written element is read back. -/
theorem read?_element {tag : UInt8} (htag : tag.toNat % 32 ≠ 31) {content : Bytes}
    (h : Bytes.widthOf content.length ≤ 126) (rest : Bytes) :
    read? (element tag content ++ rest) = some (⟨tag, content⟩, rest) := by
  simp only [element, List.cons_append, List.append_assoc, read?, htag, if_false,
    Option.bind_eq_bind, Option.bind_some, readLength?_lengthOctets h]
  simp

/-! ### Object identifiers -/

/-- The numbers of an identifier after the first two, from its octets; `n` is the one begun. -/
def arcsFrom (n : Nat) : Bytes → List Nat
  | [] => []
  | b :: rest =>
    if b < 128 then (128 * n + b.toNat) :: arcsFrom 0 rest
    else arcsFrom (128 * n + (b.toNat - 128)) rest

/-- The numbers of an identifier. The first octet holds two of them. -/
def arcs : Bytes → List Nat
  | [] => []
  | b :: rest => b.toNat / 40 :: b.toNat % 40 :: arcsFrom 0 rest

/-- An identifier as numbers with dots between them. -/
def idText (id : Bytes) : String := ".".intercalate ((arcs id).map toString)

end Der

end LabTrust
