/-
Alternative names: the hosts that a certificate or a request speaks for.

* `AltName.ofHost?`: an address, or a name in ASCII.
* `AltName.encodeList`, `AltName.readList?`: alternative names as the value of an extension.
* `AltName.shown?`: the text that reports show. Names of other kinds are not shown.
-/
import LabTrust.Certificate.Name
import LabTrust.Host

namespace LabTrust

/-- An alternative name. -/
inductive AltName where
  /-- A name of a kind of its own: an identifier, and what follows it. -/
  | other (id rest : Bytes)
  | email (text : String)
  | dns (text : String)
  | directory (name : DistinguishedName)
  | uri (text : String)
  | address (octets : Bytes)
  /-- A name of another kind, by its tag and content. -/
  | unknown (tag : UInt8) (content : Bytes)
  deriving DecidableEq, Inhabited

namespace AltName

/-- The name of a host, which is an address or in ASCII. -/
def ofHost? (host : String) : Option AltName :=
  match Host.address? host.toList with
  | some octets => some (address octets)
  | none => if host.toList.all fun c => c.toNat < 128 then some (dns host) else none

/-- The text that reports show of a name. -/
def shown? : AltName → Option String
  | email s => some s
  | dns s => some s
  | address octets => Host.addressText? octets
  | _ => none

/-- A name as bytes. -/
def encode : AltName → Bytes
  | other id rest => Der.element (Der.contextParts 0) (Der.element Der.objectId id ++ rest)
  | email s => Der.element (Der.context 1) (.ofText s)
  | dns s => Der.element (Der.context 2) (.ofText s)
  | directory n => Der.element (Der.contextParts 4) n.encode
  | uri s => Der.element (Der.context 6) (.ofText s)
  | address octets => Der.element (Der.context 7) octets
  | unknown tag content => Der.element tag content

/-- Names as the value of an extension. -/
def encodeList (names : List AltName) : Bytes :=
  Der.element Der.sequence (names.flatMap encode)

/-- The name that an element gives. Its tag says which kind it is. -/
def ofElement? (e : Der.Element) : Option AltName :=
  if e.tag.toNat / 64 ≠ 2 then none
  else
    match e.tag.toNat % 32 with
    | 0 => (Der.readTag? Der.objectId e.content).map fun (id, rest) => other id rest
    | 1 => e.content.text?.map email
    | 2 => e.content.text?.map dns
    | 4 => match DistinguishedName.read? e.content with
      | some (n, []) => some (directory n)
      | _ => none
    | 6 => e.content.text?.map uri
    | 7 => some (address e.content)
    | 3 | 5 | 8 => some (unknown e.tag e.content)
    | _ => none

/-- The name at the front of bytes, and the rest. -/
def read? (bs : Bytes) : Option (AltName × Bytes) := do
  let (e, rest) ← Der.read? bs
  return (← ofElement? e, rest)

/-- The names in the value of an extension. What follows the sequence does not count. -/
def readList? (value : Bytes) : Option (List AltName) := do
  let (body, _) ← Der.readTag? Der.sequence value
  Der.all? read? body

end AltName

end LabTrust
