/-
Names that are written are read back.

* `DistinguishedName.foldl_push`: each type of attribute stands once in a name.
* `DistinguishedName.wellFormed_of_copy?`: a name that was copied can be read back.
* `Request.copy?_subject`: the name of a request, as it is read and written again.
-/
import LabTrust.Proofs.Certificate.Parts
import LabTrust.Proofs.Except

namespace LabTrust

/-- Strings that are written have tags of one octet. -/
lemma Attribute.isShort_of_isWritable {a : Attribute} (h : a.isWritable = true) :
    Der.IsShort a.tag := by
  rw [isWritable] at h
  split at h
  · next htag => rw [htag]; decide
  · split at h
    · next htag => rw [htag]; decide
    · split at h
      · next htag => rw [htag]; decide
      · split at h
        · next htag => rw [htag]; decide
        · split at h
          · next htag => rw [htag]; decide
          · split at h
            · next htag => rw [htag]; decide
            · simp at h

lemma Attribute.isWritable_ofText (id : Bytes) (s : String) : (ofText id s).isWritable = true := by
  simp [isWritable, ofText, Bytes.text?_ofText]

lemma Attribute.valueText?_ofText (id : Bytes) (s : String) :
    (ofText id s).valueText? = some s := by
  have htag : octetStrings.contains Der.utf8String = true := by decide
  exact (if_pos htag).trans (Bytes.text?_ofText s)

namespace Attribute

variable {a b : Attribute} {kept : List Attribute}

lemma mem_push (h : b ∈ a.push kept) : b = a ∨ b ∈ kept := by
  induction kept with
  | nil =>
      rw [push] at h
      exact Or.inl (List.mem_singleton.mp h)
  | cons c rest ih =>
      rw [push] at h
      split at h
      · rcases List.mem_cons.mp h with h | h
        · exact Or.inl h
        · exact Or.inr (List.mem_cons_of_mem c h)
      · rcases List.mem_cons.mp h with h | h
        · exact Or.inr (h ▸ List.mem_cons_self)
        · rcases ih h with h | h
          · exact Or.inl h
          · exact Or.inr (List.mem_cons_of_mem c h)

/-- An attribute of a new type comes last. -/
lemma push_of_notMem (h : a.id ∉ kept.map id) : a.push kept = kept ++ [a] := by
  induction kept with
  | nil => rfl
  | cons c rest ih =>
      simp only [List.map_cons, List.mem_cons, not_or] at h
      rw [push, if_neg (Ne.symm h.1), ih h.2]
      rfl

/-- Each type stands once. -/
lemma nodup_push (h : (kept.map id).Nodup) : ((a.push kept).map id).Nodup := by
  induction kept with
  | nil => simp [push]
  | cons c rest ih =>
      simp only [List.map_cons, List.nodup_cons] at h
      rw [push]
      split
      · next hc =>
        rw [List.map_cons, ← hc]
        exact List.nodup_cons.mpr h
      · next hc =>
        rw [List.map_cons]
        refine List.nodup_cons.mpr ⟨fun hmem => ?_, ih h.2⟩
        obtain ⟨b, hb, hid⟩ := List.mem_map.mp hmem
        rcases mem_push hb with rfl | hb
        · exact hc hid.symm
        · exact h.1 (hid ▸ List.mem_map_of_mem hb)

end Attribute

namespace DistinguishedName

/-- Attributes with each type once, each of them one of those that were pushed. -/
lemma foldl_push (attributes kept : List Attribute) (h : (kept.map Attribute.id).Nodup) :
    ((attributes.foldl (fun kept a => a.push kept) kept).map Attribute.id).Nodup ∧
      ∀ a ∈ attributes.foldl (fun kept a => a.push kept) kept, a ∈ attributes ∨ a ∈ kept := by
  induction attributes generalizing kept with
  | nil => exact ⟨h, fun a ha => Or.inr ha⟩
  | cons b rest ih =>
      obtain ⟨hnodup, hmem⟩ := ih (b.push kept) (Attribute.nodup_push h)
      refine ⟨hnodup, fun a ha => ?_⟩
      rcases hmem a ha with ha | ha
      · exact Or.inl (List.mem_cons_of_mem b ha)
      · rcases Attribute.mem_push ha with rfl | ha
        · exact Or.inl List.mem_cons_self
        · exact Or.inr ha

/-- Attributes of different types stay in their order. -/
lemma foldl_push_of_nodup (attributes kept : List Attribute)
    (h : ((kept ++ attributes).map Attribute.id).Nodup) :
    attributes.foldl (fun kept a => a.push kept) kept = kept ++ attributes := by
  induction attributes generalizing kept with
  | nil => exact (List.append_nil kept).symm
  | cons a rest ih =>
      have hnew : a.id ∉ kept.map Attribute.id := by
        rw [List.map_append, List.map_cons] at h
        exact fun hmem => (List.nodup_append.mp h).2.2 a.id hmem a.id List.mem_cons_self rfl
      rw [List.foldl_cons, Attribute.push_of_notMem hnew, ih (kept ++ [a]) (by simpa using h),
        List.append_assoc]
      rfl

/-- A name of attributes that can be written is a name that can be read back. -/
lemma wellFormed_ofAttributes {attributes : List Attribute}
    (h : ∀ a ∈ attributes, a.isWritable = true) : (ofAttributes attributes).WellFormed := by
  intro set hset
  obtain ⟨a, ha, rfl⟩ := List.mem_map.mp hset
  refine ⟨List.cons_ne_nil a [], fun b hb => ?_⟩
  obtain rfl := List.mem_singleton.mp hb
  rcases (foldl_push attributes [] List.nodup_nil).2 _ ha with ha | ha
  · exact Attribute.isShort_of_isWritable (h _ ha)
  · exact absurd ha List.not_mem_nil

lemma copyOne?_eq_some_iff {set : List Attribute} {a : Attribute} :
    copyOne? set = some a ↔ set = [a] ∧ a.isWritable = true := by
  rcases set with _ | ⟨b, _ | ⟨c, rest⟩⟩
  · simp [copyOne?]
  · rw [copyOne?]
    constructor
    · intro h
      split at h
      · next hwritable =>
        obtain rfl := Option.some.inj h
        exact ⟨rfl, hwritable⟩
      · exact absurd h (by simp)
    · rintro ⟨hset, hwritable⟩
      obtain rfl := List.singleton_inj.mp hset
      exact if_pos hwritable
  · simp [copyOne?]

/-- What is copied comes from a name with one attribute in each set, and all of it can be
written. -/
lemma mapM_copyOne?_eq_some_iff {n : DistinguishedName} {attributes : List Attribute} :
    n.mapM copyOne? = some attributes ↔
      n = attributes.map (fun a => [a]) ∧ ∀ a ∈ attributes, a.isWritable = true := by
  simp only [Option.mapM_eq_some_iff, copyOne?_eq_some_iff]
  constructor
  · intro h
    induction h with
    | nil => exact ⟨rfl, fun a ha => absurd ha List.not_mem_nil⟩
    | cons hset _ ih =>
        obtain ⟨rfl, hwritable⟩ := hset
        exact ⟨by rw [ih.1, List.map_cons], List.forall_mem_cons.mpr ⟨hwritable, ih.2⟩⟩
  · rintro ⟨rfl, hwritable⟩
    rw [List.forall₂_map_left_iff, List.forall₂_same]
    exact fun a ha => ⟨rfl, hwritable a ha⟩

/-- A copied name can be read back. -/
lemma wellFormed_of_copy? {n m : DistinguishedName} (h : n.copy? = some m) : m.WellFormed := by
  obtain ⟨attributes, hmap, rfl⟩ := Option.map_eq_some_iff.mp h
  exact wellFormed_ofAttributes (mapM_copyOne?_eq_some_iff.mp hmap).2

/-- A name with each type once is copied as it is. -/
lemma copy?_ofAttributes {attributes : List Attribute}
    (h : ∀ a ∈ attributes, a.isWritable = true) :
    (ofAttributes attributes).copy? = some (ofAttributes attributes) := by
  obtain ⟨hnodup, hmem⟩ := foldl_push attributes [] List.nodup_nil
  have hwritable : ∀ a ∈ attributes.foldl (fun kept a => a.push kept) [], a.isWritable = true := by
    intro a ha
    rcases hmem a ha with ha | ha
    · exact h a ha
    · exact absurd ha List.not_mem_nil
  rw [copy?, ofAttributes, mapM_copyOne?_eq_some_iff.mpr ⟨rfl, hwritable⟩, Option.map_some,
    ofAttributes, foldl_push_of_nodup _ [] hnodup]
  rfl

end DistinguishedName

namespace Request

lemma isWritable_attributes (r : Request) : ∀ a ∈ r.attributes, a.isWritable = true := by
  intro a ha
  obtain ⟨⟨id, text⟩, -, rfl⟩ := List.mem_map.mp ha
  exact Attribute.isWritable_ofText id text

lemma wellFormed_subject (r : Request) : r.subject.WellFormed :=
  DistinguishedName.wellFormed_ofAttributes r.isWritable_attributes

/-- The name of a request is copied as it is. -/
lemma copy?_subject (r : Request) : r.subject.copy? = some r.subject :=
  DistinguishedName.copy?_ofAttributes r.isWritable_attributes

end Request

end LabTrust
