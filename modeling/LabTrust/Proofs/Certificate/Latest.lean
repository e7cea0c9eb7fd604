/-
The subject of a request lists what was given last, in the order in which it was given first.

A further attribute of a type takes the place of the one before it; an attribute of a new type comes
after all others. So one more attribute leaves the order of the types as it is or adds a type at the
end, and it is the latest of its type.
* `Attribute.IsLatest`: what is left of attributes that were given one after the other.
* `Attribute.IsLatest.unique`: it is one list.
* `Attribute.IsLatest.push`: one more attribute.
* `Attribute.isLatest_foldl_push`: so a name is what is left of its attributes.
* `Request.given`: what a request gives for its subject.
* `Issuance.subject_lists_latest`: what is left of this is the subject of the request, of the text
  that is built from it and of the root that is made for it.
-/
import LabTrust.Proofs.Certificate.Subjects
import Mathlib.Data.List.Nodup

namespace LabTrust

/-! ### Attributes one after the other -/

namespace Attribute

variable {a b : Attribute} {given kept kept' : List Attribute}

/-- What is left of attributes that were given one after the other: each type once, in the order in
which the types were given first, and of each type the attribute that was given last. -/
structure IsLatest (given kept : List Attribute) : Prop where
  once : (kept.map id).Nodup
  types : kept.map id = (given.map id).eraseDups
  last : ∀ a ∈ kept, ∃ before after, given = before ++ a :: after ∧ ∀ b ∈ after, a.id ≠ b.id

/-- All of it was given. -/
lemma IsLatest.subset (h : IsLatest given kept) : kept ⊆ given := by
  intro a ha
  obtain ⟨before, after, rfl, -⟩ := h.last a ha
  exact List.mem_append_right before List.mem_cons_self

/-- The type that was given first comes first. -/
lemma IsLatest.head?_types (h : IsLatest given kept) :
    (kept.map id).head? = (given.map id).head? := by
  rw [h.types]
  cases given with
  | nil => rfl
  | cons a rest =>
      rw [List.map_cons, List.eraseDups_cons]
      rfl

/-- What is left has the types in their order, and of each type the first attribute from behind. -/
lemma IsLatest.map_some (h : IsLatest given kept) :
    kept.map some = (given.map id).eraseDups.map fun t => given.reverse.find? (·.id = t) := by
  rw [← h.types, List.map_map]
  refine List.map_congr_left fun a ha => ?_
  obtain ⟨before, after, rfl, hafter⟩ := h.last a ha
  have hnone : after.reverse.find? (·.id = a.id) = none :=
    List.find?_eq_none.mpr fun b hb => by simpa using (hafter b (List.mem_reverse.mp hb)).symm
  simp [List.find?_append, hnone]

/-- Only one list is what is left. -/
lemma IsLatest.unique (h : IsLatest given kept) (h' : IsLatest given kept') : kept = kept' :=
  List.map_injective_iff.mpr (Option.some_injective Attribute) (h.map_some.trans h'.map_some.symm)

/-- A type that is there already stays in its place. -/
lemma map_id_push (h : a.id ∈ kept.map id) : (a.push kept).map id = kept.map id := by
  induction kept with
  | nil => exact absurd h List.not_mem_nil
  | cons c rest ih =>
      rw [push]
      split
      · next hc => rw [List.map_cons, List.map_cons, hc]
      · next hc =>
        have hrest : a.id ∈ rest.map id := (List.mem_cons.mp h).resolve_left (Ne.symm hc)
        rw [List.map_cons, List.map_cons, ih hrest]

/-- Whatever is left beside a further attribute is of another type. -/
lemma mem_push_of_nodup (h : (kept.map id).Nodup) (hb : b ∈ a.push kept) :
    b = a ∨ b ∈ kept ∧ b.id ≠ a.id := by
  rcases mem_push hb with rfl | hkept
  · exact Or.inl rfl
  · by_cases hid : b.id = a.id
    · exact Or.inl (List.inj_on_of_nodup_map (nodup_push h) hb (mem_push_self a kept) hid)
    · exact Or.inr ⟨hkept, hid⟩

/-- A further type comes last, unless it is there. -/
lemma eraseDups_concat (types : List Bytes) (t : Bytes) :
    (types ++ [t]).eraseDups = if t ∈ types then types.eraseDups else types.eraseDups ++ [t] := by
  rw [List.eraseDups_append]
  by_cases h : t ∈ types <;> simp [List.removeAll, List.eraseDups_cons, h]

/-- One more attribute: what is left then. -/
lemma IsLatest.push (h : IsLatest given kept) (a : Attribute) :
    IsLatest (given ++ [a]) (a.push kept) := by
  refine ⟨nodup_push h.once, ?_, fun b hb => ?_⟩
  · have hmem : a.id ∈ kept.map id ↔ a.id ∈ given.map id := by rw [h.types, List.mem_eraseDups]
    rw [List.map_append, List.map_singleton, eraseDups_concat, ← h.types]
    by_cases hkept : a.id ∈ kept.map id
    · rw [if_pos (hmem.mp hkept), map_id_push hkept]
    · rw [if_neg (hmem.not.mp hkept), push_of_notMem hkept, List.map_append, List.map_singleton]
  · rcases mem_push_of_nodup h.once hb with rfl | ⟨hkept, hid⟩
    · exact ⟨given, [], rfl, by simp⟩
    · obtain ⟨before, after, rfl, hafter⟩ := h.last b hkept
      refine ⟨before, after ++ [a], by simp, fun c hc => ?_⟩
      rcases List.mem_append.mp hc with hc | hc
      · exact hafter c hc
      · exact List.mem_singleton.mp hc ▸ hid

/-- What is left of attributes is what they are pushed into. -/
lemma isLatest_foldl_push (given : List Attribute) :
    IsLatest given (given.foldl (fun kept a => a.push kept) []) := by
  induction given using List.reverseRecOn with
  | nil => exact ⟨List.nodup_nil, rfl, by simp⟩
  | append_singleton given a ih =>
      rw [List.foldl_append]
      exact ih.push a

end Attribute

/-! ### What requests give -/

namespace Request

variable {r : Request}

/-- What a request gives for its subject, one after the other: its common name, then country, state,
locality, organization and unit of each block of names. What is empty is not given. -/
def given (r : Request) : List Attribute :=
  (((Attribute.commonName, r.commonName) :: r.names.flatMap fun n =>
    [(Attribute.country, n.country), (Attribute.state, n.state), (Attribute.locality, n.locality),
      (Attribute.organization, n.organization), (Attribute.unit, n.unit)]).filter (·.2 ≠ "")).map
    fun (type, value) => .ofText type value

lemma attributes_eq_given (r : Request) : r.attributes = r.given := rfl

/-- The types of what is given are those of the rows that are not empty. -/
lemma types_given (r : Request) :
    r.given.map Attribute.id = (r.rows.filter (·.2 ≠ "")).map Prod.fst := by
  rw [given, List.map_map]
  rfl

/-- A common name is given first, if it is given. -/
lemma head?_types_given :
    (r.given.map Attribute.id).head? = some Attribute.commonName ↔ r.commonName ≠ "" := by
  rw [types_given, rows]
  by_cases hname : r.commonName = ""
  · refine iff_of_false (fun hhead => ?_) (not_not_intro hname)
    rw [List.filter_cons_of_neg (by simpa using hname)] at hhead
    obtain ⟨x, hx, hid⟩ := List.mem_map.mp (List.mem_of_head? hhead)
    obtain ⟨n, -, hx⟩ := List.mem_flatMap.mp (List.mem_filter.mp hx).1
    exact SubjectNames.ne_of_mem_attributes hx hid.symm
  · refine iff_of_true ?_ hname
    rw [List.filter_cons_of_pos (by simpa using hname)]
    rfl

/-- With one block of names at most, no type is given twice. -/
lemma nodup_types_given (h : r.names.length ≤ 1) : (r.given.map Attribute.id).Nodup := by
  rw [types_given]
  refine (List.filter_sublist.map Prod.fst).nodup ?_
  rcases hnames : r.names with _ | ⟨n, _ | ⟨_, _⟩⟩
  · rw [rows, hnames]
    exact show [Attribute.commonName].Nodup by decide
  · rw [rows, hnames]
    exact show [Attribute.commonName, Attribute.country, Attribute.state, Attribute.locality,
      Attribute.organization, Attribute.unit].Nodup by decide
  · rw [hnames] at h
    simp at h

end Request

/-! ### Subjects -/

namespace Issuance

/-- The subject of a request lists, one attribute in each set, what is left of what the request
gives, and only this list is left of it. So the common name comes first if and only if it is not
empty, nothing is there that was not given, and all that was given is there if there is one block of
names at most. Each text that is built from the request has this subject, and so has each root that
is made for it. -/
theorem subject_lists_latest (request : Request) :
    ∃ attributes, request.subject = attributes.map (fun a => [a]) ∧
      (∀ kept, Attribute.IsLatest request.given kept ↔ kept = attributes) ∧
      ((attributes.map Attribute.id).head? = some Attribute.commonName ↔
        request.commonName ≠ "") ∧
      attributes ⊆ request.given ∧
      (request.names.length ≤ 1 → attributes = request.given) ∧
      (∀ suite keyText e csr e', buildRequest suite request keyText e = .ok (csr, e') →
        ∃ r, SigningRequest.ofText? csr = some r ∧ r.subject = attributes.map fun a => [a]) ∧
      ∀ suite now keyText e text e', selfSign suite now request keyText e = .ok (text, e') →
        ∃ root, Certificate.ofPem text = .ok root ∧ root.subject = attributes.map fun a => [a] := by
  have hsubject : request.subject = .ofAttributes request.given :=
    congrArg DistinguishedName.ofAttributes request.attributes_eq_given
  have hlatest := Attribute.isLatest_foldl_push request.given
  refine ⟨_, hsubject, fun kept => ⟨fun hkept => hkept.unique hlatest, fun hkept => hkept ▸ hlatest⟩,
    ?_, hlatest.subset, fun hone => ?_, fun suite keyText e csr e' h => ?_,
    fun suite now keyText e text e' h => ?_⟩
  · exact hlatest.head?_types ▸ Request.head?_types_given
  · exact DistinguishedName.foldl_push_of_nodup request.given [] (Request.nodup_types_given hone)
  · obtain ⟨key, names, hbuilt⟩ := exists_built h
    exact ⟨_, hbuilt.ofText?_eq, hsubject⟩
  · obtain ⟨root, key, names, hroot⟩ := exists_selfSigned h
    exact ⟨root, hroot.held.ofPem_eq, hroot.subject.trans hsubject⟩

/-- A request with a locality and an organization that are given twice, before and after a
country. -/
def layeredRequest : Request where
  commonName := "r1"
  names := [{ locality := "Antwerp", organization := "Nokia" },
    { country := "BE", organization := "Bell" }, { locality := "Ghent" }]
  authority := some { expiry := "1h" }

/-- What its subject lists: locality and organization where they were given first. -/
def layeredSubject : DistinguishedName :=
  [[.ofText Attribute.commonName "r1"], [.ofText Attribute.locality "Ghent"],
    [.ofText Attribute.organization "Bell"], [.ofText Attribute.country "BE"]]

/-- A text is built from it. -/
lemma exists_built_layered : ∃ csr e',
    buildRequest .spelled layeredRequest rootKey.toPem ⟨[], 0⟩ = .ok (csr, e') := by
  have hnames : altNames .requestBuild layeredRequest.hosts = .ok [] := rfl
  exact ⟨_, _, (built_of_short Suite.modest_spelled ofPem?_rootKey hnames (by decide +kernel)
    _).buildRequest_eq⟩

/-- A root is made for it. -/
lemma exists_selfSign_layered : ∃ text e',
    selfSign .spelled ⟨0, 0⟩ layeredRequest rootKey.toPem ⟨[], 0⟩ = .ok (text, e') := by
  have hnames : altNames .selfSigning layeredRequest.hosts = .ok [] := rfl
  have hlifetime : layeredRequest.authorityExpiry = .ok 3600 := by decide
  exact ⟨_, _, selfSign_of_short Suite.modest_spelled ofPem?_rootKey hnames hlifetime window_hour
    (by decide +kernel) _⟩

/-- Both are read to have this subject. -/
theorem layered_subject_lists_latest : ∃ csr e' r text e₁' root,
    buildRequest .spelled layeredRequest rootKey.toPem ⟨[], 0⟩ = .ok (csr, e') ∧
      SigningRequest.ofText? csr = some r ∧ r.subject = layeredSubject ∧
      selfSign .spelled ⟨0, 0⟩ layeredRequest rootKey.toPem ⟨[], 0⟩ = .ok (text, e₁') ∧
      Certificate.ofPem text = .ok root ∧ root.subject = layeredSubject ∧
      Attribute.IsLatest layeredRequest.given layeredSubject.flatten := by
  obtain ⟨attributes, hsubject, hlatest, -, -, -, hbuilds, hroots⟩ :=
    subject_lists_latest layeredRequest
  have hlist : attributes.map (fun a => [a]) = layeredSubject := hsubject.symm.trans (by decide)
  have hflatten : layeredSubject.flatten = attributes :=
    hlist ▸ List.flatMap_def.symm.trans (List.flatMap_singleton' attributes)
  obtain ⟨csr, e', hbuild⟩ := exists_built_layered
  obtain ⟨text, e₁', hself⟩ := exists_selfSign_layered
  obtain ⟨r, hr, hrequest⟩ := hbuilds _ _ _ _ _ hbuild
  obtain ⟨root, hroot, hcertificate⟩ := hroots _ _ _ _ _ _ hself
  exact ⟨csr, e', r, text, e₁', root, hbuild, hr, hrequest.trans hlist, hself, hroot,
    hcertificate.trans hlist, (hlatest _).mpr hflatten⟩

end Issuance

end LabTrust
