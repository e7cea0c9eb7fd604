/-
Quotes inside pasted texts.

The same two texts are pasted into a record, with a point between them, and into a list, each on a
line of its own. A quote in one of them would end a string in both places: the record then needs the
name of another field, and the list does not take one.
* `Named`: a text that, after an opening quote, is the name of a field.
* `items?_quote`: a list does not take the name of a field.
* `named_of_next`: what the record needs after an injected quote.
* `inside_of_both`: if the record and the list are read, neither text holds a quote that ends a
  string, and no escape reaches over the end of a text.
-/
import LabTrust.Proofs.Json.Meaning
import LabTrust.Proofs.Json.Spelling

namespace LabTrust.Json

variable {u v w s r x y : List Symbol} {a : Symbol} {ps : List Piece}

/-! ### Blanks in front of a seam -/

lemma skipSpace_append_of_cons (h : skipSpace u = a :: v) (s : List Symbol) :
    skipSpace (u ++ s) = a :: (v ++ s) := by
  rw [skipSpace, List.dropWhile_append]
  rw [skipSpace] at h
  rw [h]
  rfl

/-- The next symbol before a symbol that is no blank, if it is another one. -/
lemma skipSpace_eq_of_append {b : Symbol} (hb : isSpace b = false) (hab : a ≠ b)
    (h : skipSpace (u ++ b :: s) = a :: v) : ∃ w, skipSpace u = a :: w ∧ v = w ++ b :: s := by
  rw [skipSpace, List.dropWhile_append] at h
  split at h
  · have hskip := skipSpace_cons hb s
    rw [skipSpace] at hskip
    rw [hskip] at h
    exact absurd (List.cons.inj h).1.symm hab
  · next hne =>
      obtain ⟨c, w, hw⟩ := List.exists_cons_of_ne_nil (mt List.isEmpty_iff.2 hne)
      rw [hw] at h
      obtain ⟨rfl, rfl⟩ := List.cons.inj h
      exact ⟨w, hw, rfl⟩

lemma skipSpace_append_ne_nil {b : Symbol} (hb : isSpace b = false) :
    skipSpace (u ++ b :: s) ≠ [] := by
  rw [skipSpace, List.dropWhile_append]
  have hskip := skipSpace_cons hb s
  rw [skipSpace] at hskip
  split
  · rw [hskip]
    exact List.cons_ne_nil _ _
  · exact fun h => List.cons_ne_nil _ _ (List.append_eq_nil_iff.1 h).2

/-! ### Names of fields -/

/-- After an opening quote, the text is the name of a field. -/
def Named (v : List Symbol) : Prop :=
  ∃ ps w z, pieces? v = some (ps, w) ∧ skipSpace w = some ':' :: z

lemma named_iff : Named v ↔
    ∃ u ps w z, v = u ++ some '"' :: w ∧ Inside u ps ∧ skipSpace w = some ':' :: z := by
  constructor
  · rintro ⟨ps, w, z, hv, hw⟩
    obtain ⟨u, rfl, hu⟩ := pieces?_eq_some_iff.1 hv
    exact ⟨u, ps, w, z, rfl, hu, hw⟩
  · rintro ⟨u, ps, w, z, rfl, hu, hw⟩
    exact ⟨ps, w, z, pieces?_eq_some_iff.2 ⟨u, rfl, hu⟩, hw⟩

lemma Named.append (h : Named v) (s : List Symbol) : Named (v ++ s) := by
  obtain ⟨u, ps, w, z, rfl, hu, hw⟩ := named_iff.1 h
  exact named_iff.2 ⟨u, ps, w ++ s, z ++ s, by simp, hu, skipSpace_append_of_cons hw s⟩

lemma Named.prepend (h : Named v) (hu : Inside u ps) : Named (u ++ v) := by
  obtain ⟨u', qs, w, z, rfl, hu', hw⟩ := named_iff.1 h
  exact named_iff.2 ⟨u ++ u', ps ++ qs, w, z, by simp, hu.append hu', hw⟩

/-- The name of a field that is read over a seam ends before it, or goes on behind it. -/
lemma Named.cut {c : Char} (hc : IsSeam c) (hspace : isSpace (some c) = false) (hcolon : c ≠ ':')
    (h : Named (v ++ some c :: s)) : Named v ∨ (∃ ps, Inside v ps) ∧ Named s := by
  obtain ⟨ps, w, z, hv, hw⟩ := h
  rcases pieces?_cut hc hv with ⟨ps₁, ps₂, -, hin, hs⟩ | ⟨u, w', rfl, hu, rfl⟩
  · exact .inr ⟨⟨ps₁, hin⟩, ps₂, w, z, hs, hw⟩
  · obtain ⟨z', hz, -⟩ := skipSpace_eq_of_append hspace (by simpa using hcolon.symm) hw
    exact .inl (named_iff.2 ⟨u, ps, w', z', rfl, hu, hz⟩)

/-- Fields begin with a name. -/
lemma named_of_fields? {depth : ℕ} {fs : List (Option String × Data)}
    (h : fields? depth s = some (fs, r)) : ∃ v, s = some '"' :: v ∧ Named v := by
  cases depth with
  | zero => cases h
  | succ depth =>
      obtain ⟨s₁, name, s₂, s₃, d, s₄, rfl, hname, hcolon, -⟩ := fields?_iff.1 h
      obtain ⟨⟨ps, w⟩, hp, he⟩ := Option.map_eq_some_iff.1 hname
      cases he
      exact ⟨s₁, rfl, ps, s₂, s₃, hp, hcolon⟩

/-- A list whose first item is a string goes on with its other items, or closes. -/
lemma items?_string {depth : ℕ} {ds : List Data} (hu : Inside u ps)
    (h : items? depth (some '"' :: (u ++ some '"' :: w)) = some (ds, r)) :
    (∃ w' depth' ds', skipSpace w = some ',' :: w' ∧
      items? depth' (skipSpace w') = some (ds', r)) ∨ skipSpace w = some ']' :: r := by
  rcases depth with _ | _ | depth
  · cases h
  · obtain ⟨d, s₁, hd, -⟩ := items?_iff.1 h
    cases hd
  · obtain ⟨d, s₁, hd, hnext⟩ := items?_iff.1 h
    rw [value?_string, string?_of_inside hu] at hd
    cases hd
    rcases hnext with ⟨hclose, -⟩ | ⟨w', ds', hcomma, hmore, -⟩
    · exact .inr hclose
    · exact .inl ⟨w', _, ds', hcomma, hmore⟩

/-- A list whose first item is a string goes on with a string after a comma. -/
lemma items?_next {depth : ℕ} {ds : List Data} (hu : Inside u ps)
    (hw : skipSpace w = some ',' :: x) (hx : skipSpace x = some '"' :: v)
    (h : items? depth (some '"' :: (u ++ some '"' :: (w ++ y))) = some (ds, r)) :
    ∃ depth' ds', items? depth' (some '"' :: (v ++ y)) = some (ds', r) := by
  have hcomma := skipSpace_append_of_cons hw y
  rcases items?_string hu h with ⟨w', depth', ds', hw', hmore⟩ | hclose
  · obtain ⟨-, rfl⟩ := List.cons.inj (hcomma.symm.trans hw')
    rw [skipSpace_append_of_cons hx y] at hmore
    exact ⟨depth', ds', hmore⟩
  · rw [hcomma] at hclose
    exact absurd (List.cons.inj hclose).1 (by decide)

/-- A list does not take the name of a field. -/
lemma items?_named {depth : ℕ} {ds : List Data} (hv : Named v)
    (h : items? depth (some '"' :: v) = some (ds, r)) : False := by
  obtain ⟨u, ps, w, z, rfl, hu, hw⟩ := named_iff.1 hv
  rcases items?_string hu h with ⟨w', depth', ds', hcomma, -⟩ | hclose
  · rw [hw] at hcomma
    exact absurd (List.cons.inj hcomma).1 (by decide)
  · rw [hw] at hclose
    exact absurd (List.cons.inj hclose).1 (by decide)

/-! ### Injected quotes -/

/-- After an injected quote a record needs a comma and the name of another field; the point that
follows the pasted text is neither of them, so both are in the pasted text. -/
lemma named_of_next {depth : ℕ}
    (h : (skipSpace (w ++ some '.' :: s) = some '}' :: r ∧ skipSpace r = []) ∨
      ∃ w' fs, skipSpace (w ++ some '.' :: s) = some ',' :: w' ∧
        fields? depth (skipSpace w') = some (fs, r)) :
    ∃ w' v, skipSpace w = some ',' :: w' ∧ skipSpace w' = some '"' :: v ∧
      Named (v ++ some '.' :: s) := by
  rcases h with ⟨hclose, hr⟩ | ⟨w', fs, hcomma, hfields⟩
  · obtain ⟨z, -, rfl⟩ := skipSpace_eq_of_append rfl (by decide) hclose
    exact absurd hr (skipSpace_append_ne_nil rfl)
  · obtain ⟨w', hw, rfl⟩ := skipSpace_eq_of_append rfl (by decide) hcomma
    obtain ⟨v, hv, hnamed⟩ := named_of_fields? hfields
    obtain ⟨v, hw', rfl⟩ := skipSpace_eq_of_append rfl (by decide) hv
    exact ⟨w', v, hw, hw', hnamed⟩

/-- What follows the pasted texts in the record is no name. -/
lemma not_named_io : ¬ Named (ofText "io" ++ some '"' :: some ',' :: x) := by
  have hio : IsPlain "io" := by decide
  rintro ⟨ps, w, z, hv, hw⟩
  rw [pieces?_eq_some_iff.2 ⟨_, rfl, hio.inside⟩] at hv
  cases hv
  exact absurd (List.cons.inj hw).1 (by decide)

section both

variable {n l : List Symbol} {depth depth' : ℕ} {ds : List Data}

/-- The next line of a list of strings. -/
lemma items?_line (hu : Inside u ps) (h : items? depth (some '"' :: (u ++ some '"' :: some ',' ::
    (ofText "\n      " ++ some '"' :: v))) = some (ds, r)) :
    ∃ depth' ds', items? depth' (some '"' :: v) = some (ds', r) := by
  rcases items?_string hu h with ⟨w, depth', ds', hcomma, hmore⟩ | hclose
  · rw [skipSpace_cons rfl] at hcomma
    obtain ⟨-, rfl⟩ := List.cons.inj hcomma
    rw [skipSpace_gap (by decide) rfl] at hmore
    exact ⟨depth', ds', hmore⟩
  · rw [skipSpace_cons rfl] at hclose
    exact absurd (List.cons.inj hclose).1 (by decide)

/-- If a record is read that holds two texts with a point between them, and a list that holds them
on lines of their own, then both texts can stand inside a string. -/
theorem inside_of_both (hrecord : pieces? (n ++ some '.' :: (l ++ some '.' ::
      (ofText "io" ++ some '"' :: some ',' :: x))) = some (ps, s))
    (hnext : (skipSpace s = some '}' :: r ∧ skipSpace r = []) ∨
      ∃ w fs, skipSpace s = some ',' :: w ∧ fields? depth (skipSpace w) = some (fs, r))
    (hlist : items? depth' (some '"' :: (n ++ some '"' :: some ',' :: (ofText "\n      " ++
      some '"' :: (ofText "clab-" ++ (l ++ y))))) = some (ds, v)) :
    (∃ ps, Inside n ps) ∧ ∃ ps, Inside l ps := by
  have hclab : IsPlain "clab-" := by decide
  rcases pieces?_cut (by decide) hrecord with ⟨pn, ps₂, -, hn, hrest⟩ | ⟨n₁, n₂, rfl, hn₁, rfl⟩
  · refine ⟨⟨pn, hn⟩, ?_⟩
    rcases pieces?_cut (by decide) hrest with ⟨pl, -, -, hl, -⟩ | ⟨l₁, l₂, rfl, hl₁, rfl⟩
    · exact ⟨pl, hl⟩
    -- the quote is in the second text: the list ends its string there too, on the second line
    · exfalso
      obtain ⟨w, v', hw, hv', hnamed⟩ := named_of_next hnext
      obtain ⟨_, _, hline⟩ := items?_line hn hlist
      rw [List.append_assoc, List.cons_append, ← List.append_assoc] at hline
      obtain ⟨_, _, hitems⟩ := items?_next (hclab.inside.append hl₁) hw hv' hline
      rcases hnamed.cut (by decide) rfl (by decide) with hnamed | ⟨-, hnamed⟩
      · exact items?_named (hnamed.append y) hitems
      · exact not_named_io hnamed
  -- the quote is in the first text: the name that the record needs begins in it
  · exfalso
    obtain ⟨w, v', hw, hv', hnamed⟩ := named_of_next hnext
    rw [List.append_assoc, List.cons_append] at hlist
    obtain ⟨_, _, hitems⟩ := items?_next hn₁ hw hv' hlist
    rcases hnamed.cut (by decide) rfl (by decide) with hnamed | ⟨⟨pv, hv⟩, hnamed⟩
    · exact items?_named (hnamed.append _) hitems
    · obtain ⟨_, _, hline⟩ := items?_line hv hitems
      rcases hnamed.cut (by decide) rfl (by decide) with hnamed | ⟨-, hnamed⟩
      · exact items?_named ((hnamed.append y).prepend hclab.inside) hline
      · exact not_named_io hnamed

end both

end LabTrust.Json
