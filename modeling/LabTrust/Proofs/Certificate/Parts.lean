/-
The parts of certificates are read back.

Each part is an element, and comes back with what follows it as long as its octets can be counted in
eight. What else a part needs is said by its tags:
* `DistinguishedName.WellFormed`: no set of attributes is empty, and the tag of each value takes one
  octet. Names that are made or taken over here are such names.
* `AlgorithmId.WellFormed`: the same for the parameters of an algorithm.
-/
import LabTrust.Certificate.Draft
import LabTrust.Certificate.Subject
import LabTrust.Proofs.Der.Time

namespace LabTrust

open Der (IsShort element length_lt_element readTag?_element)

/-! ### Names -/

namespace Attribute

lemma encode_ne_nil (a : Attribute) : a.encode ≠ [] := Der.element_ne_nil _ _

lemma read?_encode {a : Attribute} (ha : IsShort a.tag) (h : a.encode.length < UInt64.size)
    (rest : Bytes) : read? (a.encode ++ rest) = some (a, rest) := by
  have hbody := length_lt_element Der.sequence (element Der.objectId a.id ++ element a.tag a.value)
  have hid := length_lt_element Der.objectId a.id
  have hvalue := length_lt_element a.tag a.value
  rw [encode] at h
  rw [List.length_append] at hbody
  rw [encode, read?, readTag?_element (by decide) (by rw [List.length_append]; omega)]
  simp only [Option.bind_eq_bind, Option.bind_some]
  rw [readTag?_element (by decide) (by omega)]
  simp only [Option.bind_some]
  rw [Der.read?_last ha (by omega)]
  rfl

end Attribute

namespace DistinguishedName

/-- No set is empty, and each value has a tag of one octet. -/
def WellFormed (n : DistinguishedName) : Prop :=
  ∀ set ∈ n, set ≠ [] ∧ ∀ a ∈ set, IsShort a.tag

lemma readSet?_encode {set : List Attribute} (hne : set ≠ []) (htags : ∀ a ∈ set, IsShort a.tag)
    (h : (element Der.set (set.flatMap Attribute.encode)).length < UInt64.size) (rest : Bytes) :
    readSet? (element Der.set (set.flatMap Attribute.encode) ++ rest) = some (set, rest) := by
  have hbody := length_lt_element Der.set (set.flatMap Attribute.encode)
  have hread : ∀ a ∈ set, ∀ rest, Attribute.read? (a.encode ++ rest) = some (a, rest) := by
    intro a ha rest
    have hlength := Der.length_le_of_mem Attribute.encode ha
    exact Attribute.read?_encode (htags a ha) (by omega) rest
  have hmany := Der.many_length (by rfl) hread fun a _ => a.encode_ne_nil
  rw [readSet?, readTag?_element (by decide) (by omega)]
  simp only [Option.bind_eq_bind, Option.bind_some, hmany]
  rw [if_neg (by simpa using hne)]
  rfl

lemma read?_encode {n : DistinguishedName} (hn : n.WellFormed) (h : n.encode.length < UInt64.size)
    (rest : Bytes) : read? (n.encode ++ rest) = some (n, rest) := by
  have hbody := length_lt_element Der.sequence
    (n.flatMap fun set => element Der.set (set.flatMap Attribute.encode))
  rw [encode] at h
  have hread : ∀ set ∈ n, ∀ rest,
      readSet? (element Der.set (set.flatMap Attribute.encode) ++ rest) = some (set, rest) := by
    intro set hset rest
    have hlength := Der.length_le_of_mem
      (fun set => element Der.set (set.flatMap Attribute.encode)) hset
    exact readSet?_encode (hn set hset).1 (hn set hset).2 (by omega) rest
  have hmany := Der.many_length (by rfl) hread fun set _ => Der.element_ne_nil _ _
  rw [encode, read?, readTag?_element (by decide) (by omega)]
  simp only [Option.bind_eq_bind, Option.bind_some, ofContent, hmany]
  rfl

end DistinguishedName

/-! ### Keys -/

namespace AlgorithmId

/-- The tag of the parameters takes one octet. -/
def WellFormed (a : AlgorithmId) : Prop := ∀ e ∈ a.parameters, IsShort e.tag

lemma read?_encode {a : AlgorithmId} (ha : a.WellFormed) (h : a.encode.length < UInt64.size)
    (rest : Bytes) : read? (a.encode ++ rest) = some (a, rest) := by
  obtain ⟨id, parameters⟩ := a
  have hid := length_lt_element Der.objectId id
  cases parameters with
  | none =>
      have hbody := length_lt_element Der.sequence (element Der.objectId id ++ [])
      simp only [encode, Option.map_none, Option.getD_none] at h ⊢
      rw [List.length_append] at hbody
      rw [read?, readTag?_element (by decide) (by rw [List.length_append]; omega)]
      simp only [Option.bind_eq_bind, Option.bind_some]
      rw [readTag?_element (by decide) (by omega)]
      rfl
  | some e =>
      have hbody := length_lt_element Der.sequence
        (element Der.objectId id ++ element e.tag e.content)
      have hparameters := length_lt_element e.tag e.content
      simp only [encode, Option.map_some, Option.getD_some] at h ⊢
      rw [List.length_append] at hbody
      rw [read?, readTag?_element (by decide) (by rw [List.length_append]; omega)]
      simp only [Option.bind_eq_bind, Option.bind_some]
      rw [readTag?_element (by decide) (by omega)]
      simp only [Option.bind_some, Der.element_ne_nil, if_false]
      rw [Der.read?_last (ha e rfl) (by omega)]
      rfl

end AlgorithmId

/-- What was taken is what stood before the rest. -/
lemma Der.taken_append (before after : Bytes) : Der.taken (before ++ after) after = before := by
  rw [taken, List.length_append, Nat.add_sub_cancel, List.take_left]

/-- A key that is made of a well-formed algorithm is read back. -/
lemma PublicKey.read?_encoded {key : PublicKey}
    (hkey : ∃ algorithm bits, AlgorithmId.WellFormed algorithm ∧ key = make algorithm bits)
    (h : key.encoded.length < UInt64.size) (rest : Bytes) :
    read? (key.encoded ++ rest) = some (key, rest) := by
  obtain ⟨algorithm, bits, ha, rfl⟩ := hkey
  have hbody := length_lt_element Der.sequence (algorithm.encode ++ Der.bits bits)
  simp only [make] at h ⊢
  rw [List.length_append] at hbody
  rw [read?, readTag?_element (by decide) (by rw [List.length_append]; omega)]
  simp only [Option.bind_eq_bind, Option.bind_some]
  rw [AlgorithmId.read?_encode ha (by omega)]
  simp only [Option.bind_some, Der.taken_append]
  rw [Der.readBits?_last (by omega)]
  rfl

/-! ### Extensions -/

namespace Extension

/-- The mark of critical extensions is read where it stands. -/
lemma readCritical_encode (critical : Bool) {value : Bytes} (h : value.length < UInt64.size) :
    readCritical ((if critical then element Der.boolean [0xff] else []) ++
      element Der.octetString value) = (critical, element Der.octetString value) := by
  cases critical with
  | true =>
      rw [readCritical, if_pos rfl, readTag?_element (by decide) (by decide)]
      rfl
  | false =>
      rw [readCritical, if_neg (by decide), List.nil_append,
        Der.readTag?_last_of_ne (by decide) h (by decide)]

lemma encode_ne_nil (e : Extension) : e.encode ≠ [] := Der.element_ne_nil _ _

lemma length_value_lt (e : Extension) : e.value.length < e.encode.length := by
  have hvalue := length_lt_element Der.octetString e.value
  have hbody := length_lt_element Der.sequence (element Der.objectId e.id ++
    (if e.critical then element Der.boolean [0xff] else []) ++ element Der.octetString e.value)
  rw [← encode, List.length_append] at hbody
  omega

lemma read?_encode {e : Extension} (h : e.encode.length < UInt64.size) (rest : Bytes) :
    read? (e.encode ++ rest) = some (e, rest) := by
  obtain ⟨id, critical, value⟩ := e
  have hid := length_lt_element Der.objectId id
  have hvalue := length_lt_element Der.octetString value
  have hbody := length_lt_element Der.sequence (element Der.objectId id ++
    (if critical then element Der.boolean [0xff] else []) ++ element Der.octetString value)
  simp only [encode] at h ⊢
  simp only [List.length_append] at hbody
  rw [read?, readTag?_element (by decide) (by simp only [List.length_append]; omega)]
  simp only [Option.bind_eq_bind, Option.bind_some]
  rw [List.append_assoc, readTag?_element (by decide) (by omega)]
  simp only [Option.bind_some,
    readCritical_encode critical (show value.length < UInt64.size by omega)]
  rw [Der.readTag?_last (by decide) (by omega)]
  rfl

/-- A row of extensions is read back. -/
lemma all?_encode {extensions : List Extension}
    (h : (extensions.flatMap encode).length < UInt64.size) :
    Der.all? read? (extensions.flatMap encode) = some extensions := by
  refine Der.all?_flatMap (by rfl) (fun e he => ?_) fun e _ => e.encode_ne_nil
  exact read?_encode (Nat.lt_of_le_of_lt (Der.length_le_of_mem encode he) h)

end Extension

end LabTrust
