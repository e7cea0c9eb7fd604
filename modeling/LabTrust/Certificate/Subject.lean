/-
Names with one attribute in each set and each type of attribute once.

* `DistinguishedName.push`: a further attribute. A type that is there already keeps its place and
  takes the new value.
* `Request.subject`: the name that a request asks for.
* `DistinguishedName.copy?`: a name that was read, as it is written again; only some kinds of strings
  can be.
-/
import LabTrust.Certificate.Name
import LabTrust.Request

namespace LabTrust

namespace Attribute

/-- An attribute with a text as its value. -/
def ofText (id : Bytes) (text : String) : Attribute := ⟨id, Der.utf8String, .ofText text⟩

/-- Adds an attribute; one of the same type gives way to it in its place. -/
def push (a : Attribute) : List Attribute → List Attribute
  | [] => [a]
  | b :: rest => if b.id = a.id then a :: rest else b :: push a rest

/-- Characters that a printable string may hold. -/
def isPrintable (b : UInt8) : Bool :=
  let c := Char.ofNat b.toNat
  c.isAlphanum || " '()+,-./:=?".toList.contains c

/-- Groups of four bytes that are characters. -/
def areCharacters : Bytes → Bool
  | [] => true
  | a :: b :: c :: d :: rest =>
    (Bytes.toNat [a, b, c, d]).isValidChar && areCharacters rest
  | _ => false

/-- Pairs of bytes that are characters by themselves. -/
def areUnits : Bytes → Bool
  | [] => true
  | a :: b :: rest => (Bytes.toNat [a, b]).isValidChar && areUnits rest
  | _ => false

/-- The value fits its kind of string, and the kind is one that is written. -/
def isWritable (a : Attribute) : Bool :=
  if a.tag = Der.utf8String then a.value.text?.isSome
  else if a.tag = Der.printableString then a.value.all isPrintable
  else if a.tag = Der.ia5String then a.value.all (· < 0x80)
  else if a.tag = Der.teletexString then a.value.all fun b => decide (0x20 ≤ b ∧ b ≤ 0x7f)
  else if a.tag = Der.bmpString then areUnits a.value
  else if a.tag = Der.universalString then areCharacters a.value
  else false

end Attribute

namespace DistinguishedName

/-- The name of attributes, each type once. -/
def ofAttributes (attributes : List Attribute) : DistinguishedName :=
  (attributes.foldl (fun kept a => a.push kept) []).map fun a => [a]

/-- The only attribute of a set, if it can be written. -/
def copyOne? : List Attribute → Option Attribute
  | [a] => if a.isWritable then some a else none
  | _ => none

/-- A name that was read, as it is written again. -/
def copy? (n : DistinguishedName) : Option DistinguishedName :=
  (n.mapM copyOne?).map ofAttributes

end DistinguishedName

/-- The attributes of a block of names. -/
def SubjectNames.attributes (n : SubjectNames) : List (Bytes × String) :=
  [(Attribute.country, n.country), (Attribute.state, n.state), (Attribute.locality, n.locality),
    (Attribute.organization, n.organization), (Attribute.unit, n.unit)]

/-- The attributes that a request asks for, those without content left out. -/
def Request.attributes (r : Request) : List Attribute :=
  (((Attribute.commonName, r.commonName) :: r.names.flatMap SubjectNames.attributes).filter
    (·.2 ≠ "")).map fun (id, text) => .ofText id text

/-- The name that a request asks for. -/
def Request.subject (r : Request) : DistinguishedName := .ofAttributes r.attributes

end LabTrust
