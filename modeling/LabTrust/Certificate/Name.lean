/-
Distinguished names.

A name is a sequence of sets of attributes, almost always with one attribute each.
* `DistinguishedName.encode`, `DistinguishedName.read?`: names as bytes.
* `DistinguishedName.text`: a name as people read it. Values stand as they are, so different names
  may read the same.
-/
import LabTrust.Der.Element

namespace LabTrust

/-- An attribute of a name: an identifier, and a value with the tag of its kind of string. -/
structure Attribute where
  id : Bytes
  tag : UInt8
  value : Bytes
  deriving DecidableEq, Inhabited

/-- A name: sets of attributes. -/
abbrev DistinguishedName := List (List Attribute)

namespace Attribute

/-- The identifier of an attribute type of the directory standard. -/
def directoryId (n : Nat) : Bytes := [0x55, 0x04, UInt8.ofNat n]

def commonName : Bytes := directoryId 3
def country : Bytes := directoryId 6
def locality : Bytes := directoryId 7
def state : Bytes := directoryId 8
def organization : Bytes := directoryId 10
def unit : Bytes := directoryId 11

/-- The attribute types that have a name of their own, and these names. -/
def names : List (Bytes × String) :=
  [(commonName, "CN"), (country, "C"), (state, "ST"), (locality, "L"), (organization, "O"),
    (unit, "OU"), (directoryId 4, "surname"), (directoryId 5, "serialNumber"),
    (directoryId 9, "streetAddress"), (directoryId 12, "title"), (directoryId 17, "postalCode"),
    (directoryId 42, "givenName"),
    ([0x09, 0x92, 0x26, 0x89, 0x93, 0xf2, 0x2c, 0x64, 0x01, 0x19], "DC"),
    ([0x09, 0x92, 0x26, 0x89, 0x93, 0xf2, 0x2c, 0x64, 0x01, 0x01], "uid"),
    ([0x2a, 0x86, 0x48, 0x86, 0xf7, 0x0d, 0x01, 0x09, 0x01], "Email")]

/-- The name of an attribute type. -/
def typeName (id : Bytes) : String :=
  (names.lookup id).getD ("OID(" ++ Der.idText id ++ ")")

/-- The numbers of pairs of bytes; a byte that is left over stands for itself. -/
def units : Bytes → List Nat
  | [] => []
  | [a] => [a.toNat]
  | a :: b :: rest => (256 * a.toNat + b.toNat) :: units rest

/-- The characters of sixteen-bit units. -/
def unitChars? : List Nat → Option (List Char)
  | [] => some []
  | [u] => if 0xd800 ≤ u ∧ u < 0xe000 then none else some [Char.ofNat u]
  | u :: v :: rest =>
    if 0xd800 ≤ u ∧ u < 0xe000 then
      if u < 0xdc00 ∧ 0xdc00 ≤ v ∧ v < 0xe000 then do
        let more ← unitChars? rest
        return Char.ofNat (0x10000 + (u - 0xd800) * 0x400 + (v - 0xdc00)) :: more
      else none
    else do
      let more ← unitChars? (v :: rest)
      return Char.ofNat u :: more

/-- The strings whose octets are read as characters. -/
def octetStrings : List UInt8 :=
  [Der.utf8String, 0x07, Der.numericString, Der.printableString, Der.teletexString,
    Der.videotexString, Der.ia5String, Der.graphicString, Der.visibleString, Der.generalString]

/-- The value of an attribute as text. What is not a string is shown as hex digits. -/
def valueText? (a : Attribute) : Option String :=
  if octetStrings.contains a.tag then a.value.text?
  else if a.tag = Der.bmpString then (unitChars? (units a.value)).map String.ofList
  else some (String.ofList (a.value.hex.toList.map Char.toUpper))

/-- An attribute as text. -/
def text? (a : Attribute) : Option String :=
  a.valueText?.map fun v => typeName a.id ++ "=" ++ v

/-- An attribute as bytes. -/
def encode (a : Attribute) : Bytes :=
  Der.element Der.sequence (Der.element Der.objectId a.id ++ Der.element a.tag a.value)

/-- The attribute at the front of bytes, and the rest. -/
def read? (bs : Bytes) : Option (Attribute × Bytes) := do
  let (body, rest) ← Der.readTag? Der.sequence bs
  let (id, body) ← Der.readTag? Der.objectId body
  let (e, _) ← Der.read? body
  return (⟨id, e.tag, e.content⟩, rest)

end Attribute

namespace DistinguishedName

/-- A name as bytes. -/
def encode (n : DistinguishedName) : Bytes :=
  Der.element Der.sequence (n.flatMap fun set => Der.element Der.set (set.flatMap Attribute.encode))

/-- The set of attributes at the front of bytes, and the rest. -/
def readSet? (bs : Bytes) : Option (List Attribute × Bytes) := do
  let (body, rest) ← Der.readTag? Der.set bs
  let attributes := (Der.many Attribute.read? body.length body).1
  if attributes.isEmpty then none else return (attributes, rest)

/-- The name in the content of a sequence: the sets before the first thing that is none. -/
def ofContent (body : Bytes) : DistinguishedName := (Der.many readSet? body.length body).1

/-- The name at the front of bytes, and the rest. -/
def read? (bs : Bytes) : Option (DistinguishedName × Bytes) := do
  let (body, rest) ← Der.readTag? Der.sequence bs
  return (ofContent body, rest)

/-- Texts with a mark between them; an empty text at the front takes no mark. -/
def joinWith (mark : String) (texts : List String) : String :=
  texts.foldl (fun s t => if s = "" then t else s ++ mark ++ t) ""

/-- A name as text, if all of its values are texts. -/
def text? (n : DistinguishedName) : Option String := do
  let sets ← n.mapM fun set => do
    let attributes ← set.mapM Attribute.text?
    return joinWith " + " attributes
  return joinWith ", " sets

/-- A name as text. -/
def text (n : DistinguishedName) : String :=
  n.text?.getD "<X509Error: Invalid X.509 name>"

end DistinguishedName

end LabTrust
