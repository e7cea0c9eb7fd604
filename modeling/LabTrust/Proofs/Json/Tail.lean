/-
The last field of a document.

A document may end in a field that nothing before it can take away, whatever was pasted there.
* `seam`: a text that closes a record and a list on lines of its own, and goes on with a last field.
* `Stops`, `stops`: where a reader stops that starts before the seam. The readers of values and of
  items stop at the seam at the latest, or cannot go on; only the reader of fields goes on, and then
  the fields that it reads end with the last field.
-/
import LabTrust.Proofs.Json.Lines

namespace LabTrust.Json

/-! ### The seam -/

/-- A last field after the list before it. -/
def seamOuter (t : List Symbol) : List Symbol := some ',' :: ofText "\n    " ++ t

/-- A last field after the record in the list before it. -/
def seamInner (t : List Symbol) : List Symbol := some ']' :: seamOuter t

/-- A last field after the fields of the record in the list before it. -/
def seam (t : List Symbol) : List Symbol := ofText "\n    " ++ some '}' :: seamInner t

variable {u r t : List Symbol}

lemma skipSpace_append_seam (u t : List Symbol) :
    (∃ v, skipSpace (u ++ seam t) = v ++ seam t) ∨
      skipSpace (u ++ seam t) = some '}' :: seamInner t := by
  rw [skipSpace, List.dropWhile_append]
  split
  · exact .inr rfl
  · exact .inl ⟨_, rfl⟩

/-- A symbol before the seam that is no line end is a symbol before the seam. -/
lemma exists_of_append_seam {c : Char} (hc : c ≠ '\n') (h : u ++ seam t = some c :: r) :
    ∃ v, u = some c :: v ∧ r = v ++ seam t := by
  rcases u with _ | ⟨a, v⟩
  · have hhead : some '\n' = some c := (List.cons.inj h).1
    exact absurd (Option.some.inj hhead).symm hc
  · obtain ⟨rfl, hr⟩ := List.cons.inj h
    exact ⟨v, rfl, hr.symm⟩

lemma onLine_seam (h : OnLine (u ++ seam t) r) : ∃ v, r = v ++ seam t :=
  h.exists_append

/-- The next symbol after blanks is one before the seam, or the brace of the seam. -/
lemma skipSpace_eq_cons {c : Char} (hc : c ≠ '\n') (h : skipSpace (u ++ seam t) = some c :: r) :
    (∃ v, r = v ++ seam t) ∨ (c = '}' ∧ r = seamInner t) := by
  rcases skipSpace_append_seam u t with ⟨v, hv⟩ | hv
  · obtain ⟨w, -, hr⟩ := exists_of_append_seam hc (hv ▸ h)
    exact .inl ⟨w, hr⟩
  · rw [hv] at h
    obtain ⟨hhead, hr⟩ := List.cons.inj h
    exact .inr ⟨(Option.some.inj hhead).symm, hr.symm⟩

/-- Behind the record of the seam its list is closed. -/
lemma eq_of_seamInner {a : Symbol} (h : skipSpace (seamInner t) = a :: r) :
    a = some ']' ∧ r = seamOuter t := by
  obtain ⟨ha, hr⟩ := List.cons.inj h
  exact ⟨ha.symm, hr.symm⟩

/-- Behind the list of the seam the last field follows after a comma. -/
lemma eq_of_seamOuter {a : Symbol} (h : skipSpace (seamOuter t) = a :: r) :
    a = some ',' ∧ skipSpace r = skipSpace t := by
  obtain ⟨ha, hr⟩ := List.cons.inj h
  exact ⟨ha.symm, hr ▸ skipSpace_append_of_blank (by decide) t⟩

/-! ### Readers that start before the seam -/

/-- Where the readers stop that start before the seam, for a depth. -/
structure Stops (t : List Symbol) (Q : List (Option String × Data) → Prop) (depth : ℕ) : Prop where
  value : ∀ u d r, value? depth (u ++ seam t) = some (d, r) →
    (∃ v, r = v ++ seam t) ∨ r = seamInner t ∨ r = seamOuter t ∨ skipSpace r = []
  items : ∀ u ds r, items? depth (u ++ seam t) = some (ds, r) →
    (∃ v, r = v ++ seam t) ∨ r = seamOuter t
  fields : ∀ u fs r, fields? depth (u ++ seam t) = some (fs, r) →
    (∃ v, r = v ++ seam t) ∨ r = seamInner t ∨
      (skipSpace r = [] ∧ ∃ fs', fs' <:+ fs ∧ Q fs')

section stops

variable {Q : List (Option String × Data) → Prop} {depth : ℕ}

lemma Stops.value_succ (h : Stops t Q depth) {d : Data}
    (hv : value? (depth + 1) (u ++ seam t) = some (d, r)) :
    (∃ v, r = v ++ seam t) ∨ r = seamInner t ∨ r = seamOuter t ∨ skipSpace r = [] := by
  by_cases hrecord : (u ++ seam t).head? = some (some '{')
  · obtain ⟨s, hs⟩ := List.head?_eq_some_iff.1 hrecord
    obtain ⟨v, -, rfl⟩ := exists_of_append_seam (by decide) hs
    rw [hs] at hv
    rcases value?_record_iff.1 hv with ⟨hclose, -⟩ | ⟨fs, hfs, -⟩
    · rcases skipSpace_eq_cons (by decide) hclose with hr | ⟨-, hr⟩
      · exact .inl hr
      · exact .inr (.inl hr)
    · rcases skipSpace_append_seam v t with ⟨w, hw⟩ | hw
      · rw [hw] at hfs
        rcases h.fields w fs r hfs with hr | hr | ⟨hr, -⟩
        · exact .inl hr
        · exact .inr (.inl hr)
        · exact .inr (.inr (.inr hr))
      · rw [hw, fields?_of_ne (by decide)] at hfs
        cases hfs
  by_cases hlist : (u ++ seam t).head? = some (some '[')
  · obtain ⟨s, hs⟩ := List.head?_eq_some_iff.1 hlist
    obtain ⟨v, -, rfl⟩ := exists_of_append_seam (by decide) hs
    rw [hs] at hv
    rcases value?_list_iff.1 hv with ⟨hclose, -⟩ | ⟨ds, hds, -⟩
    · rcases skipSpace_eq_cons (by decide) hclose with hr | ⟨hc, -⟩
      · exact .inl hr
      · exact absurd hc (by decide)
    · rcases skipSpace_append_seam v t with ⟨w, hw⟩ | hw
      · rw [hw] at hds
        rcases h.items w ds r hds with hr | hr
        · exact .inl hr
        · exact .inr (.inr (.inl hr))
      · rw [hw, items?_close (by simp)] at hds
        cases hds
  · exact .inl (onLine_seam (value?_onLine hrecord hlist hv))

lemma Stops.items_succ (h : Stops t Q depth) (ht : ∀ depth, items? depth (skipSpace t) = none)
    {ds : List Data} (hv : items? (depth + 1) (u ++ seam t) = some (ds, r)) :
    (∃ v, r = v ++ seam t) ∨ r = seamOuter t := by
  obtain ⟨d, s₁, hd, hv⟩ := items?_iff.1 hv
  rcases h.value u d s₁ hd with ⟨v, rfl⟩ | rfl | rfl | hs₁
  · rcases hv with ⟨hclose, -⟩ | ⟨s₂, ds', hcomma, hmore, -⟩
    · rcases skipSpace_eq_cons (by decide) hclose with hr | ⟨hc, -⟩
      · exact .inl hr
      · exact absurd hc (by decide)
    · rcases skipSpace_eq_cons (by decide) hcomma with ⟨w, rfl⟩ | ⟨hc, -⟩
      · rcases skipSpace_append_seam w t with ⟨x, hx⟩ | hx
        · exact h.items x ds' r (hx ▸ hmore)
        · rw [hx, items?_close (by simp)] at hmore
          cases hmore
      · exact absurd hc (by decide)
  · rcases hv with ⟨hclose, -⟩ | ⟨s₂, ds', hcomma, -, -⟩
    · exact .inr (eq_of_seamInner hclose).2
    · exact absurd (eq_of_seamInner hcomma).1 (by decide)
  · rcases hv with ⟨hclose, -⟩ | ⟨s₂, ds', hcomma, hmore, -⟩
    · exact absurd (eq_of_seamOuter hclose).1 (by decide)
    · rw [(eq_of_seamOuter hcomma).2, ht] at hmore
      cases hmore
  · rcases hv with ⟨hclose, -⟩ | ⟨s₂, ds', hcomma, -, -⟩
    · rw [hs₁] at hclose
      cases hclose
    · rw [hs₁] at hcomma
      cases hcomma

lemma Stops.fields_succ (h : Stops t Q depth)
    (ht : ∀ depth fs r, fields? depth (skipSpace t) = some (fs, r) → skipSpace r = [] ∧ Q fs)
    {fs : List (Option String × Data)} (hv : fields? (depth + 1) (u ++ seam t) = some (fs, r)) :
    (∃ v, r = v ++ seam t) ∨ r = seamInner t ∨
      (skipSpace r = [] ∧ ∃ fs', fs' <:+ fs ∧ Q fs') := by
  obtain ⟨s₁, name, s₂, s₃, d, s₄, hs, hname, hcolon, hd, hv⟩ := fields?_iff.1 hv
  obtain ⟨v₁, -, rfl⟩ := exists_of_append_seam (by decide) hs
  obtain ⟨v₂, rfl⟩ := onLine_seam (string?_onLine hname)
  obtain ⟨v₃, rfl⟩ : ∃ v, s₃ = v ++ seam t := by
    rcases skipSpace_eq_cons (by decide) hcolon with hr | ⟨hc, -⟩
    · exact hr
    · exact absurd hc (by decide)
  obtain ⟨v₄, hv₄⟩ : ∃ v, skipSpace (v₃ ++ seam t) = v ++ seam t := by
    rcases skipSpace_append_seam v₃ t with hr | hr
    · exact hr
    · rw [hr, value?_close (by simp)] at hd
      cases hd
  rw [hv₄] at hd
  rcases h.value v₄ d s₄ hd with ⟨v, rfl⟩ | rfl | rfl | hs₄
  · rcases hv with ⟨hclose, -⟩ | ⟨s₅, fs', hcomma, hmore, rfl⟩
    · rcases skipSpace_eq_cons (by decide) hclose with hr | ⟨-, hr⟩
      · exact .inl hr
      · exact .inr (.inl hr)
    · rcases skipSpace_eq_cons (by decide) hcomma with ⟨w, rfl⟩ | ⟨hc, -⟩
      · rcases skipSpace_append_seam w t with ⟨x, hx⟩ | hx
        · rw [hx] at hmore
          rcases h.fields x fs' r hmore with hr | hr | ⟨hr, fs'', hsuffix, hQ⟩
          · exact .inl hr
          · exact .inr (.inl hr)
          · exact .inr (.inr ⟨hr, fs'', hsuffix.trans (List.suffix_cons _ _), hQ⟩)
        · rw [hx, fields?_of_ne (by decide)] at hmore
          cases hmore
      · exact absurd hc (by decide)
  · rcases hv with ⟨hclose, -⟩ | ⟨s₅, fs', hcomma, -, -⟩
    · exact absurd (eq_of_seamInner hclose).1 (by decide)
    · exact absurd (eq_of_seamInner hcomma).1 (by decide)
  · rcases hv with ⟨hclose, -⟩ | ⟨s₅, fs', hcomma, hmore, rfl⟩
    · exact absurd (eq_of_seamOuter hclose).1 (by decide)
    · rw [(eq_of_seamOuter hcomma).2] at hmore
      obtain ⟨hr, hQ⟩ := ht _ _ _ hmore
      exact .inr (.inr ⟨hr, fs', List.suffix_cons _ _, hQ⟩)
  · rcases hv with ⟨hclose, -⟩ | ⟨s₅, fs', hcomma, -, -⟩
    · rw [hs₄] at hclose
      cases hclose
    · rw [hs₄] at hcomma
      cases hcomma

/-- A last field cannot be taken away. -/
theorem stops (hitems : ∀ depth, items? depth (skipSpace t) = none)
    (hfields : ∀ depth fs r, fields? depth (skipSpace t) = some (fs, r) → skipSpace r = [] ∧ Q fs)
    (depth : ℕ) : Stops t Q depth := by
  induction depth with
  | zero =>
      refine ⟨fun _ _ _ h => ?_, fun _ _ _ h => ?_, fun _ _ _ h => ?_⟩ <;> cases h
  | succ depth ih =>
      exact ⟨fun _ _ _ h => ih.value_succ h, fun _ _ _ h => ih.items_succ hitems h,
        fun _ _ _ h => ih.fields_succ hfields h⟩

/-- Where the fields of a document go on to its end, some last of them are those behind the seam. -/
lemma exists_suffix (hitems : ∀ depth, items? depth (skipSpace t) = none)
    (hfields : ∀ depth fs r, fields? depth (skipSpace t) = some (fs, r) → skipSpace r = [] ∧ Q fs)
    {fs : List (Option String × Data)} (h : fields? depth (u ++ seam t) = some (fs, r))
    (hr : skipSpace r = []) : ∃ fs', fs' <:+ fs ∧ Q fs' := by
  rcases (stops hitems hfields depth).fields u fs r h with ⟨v, rfl⟩ | rfl | ⟨-, hQ⟩
  · rcases skipSpace_append_seam v t with ⟨w, hw⟩ | hw
    · rw [hw] at hr
      exact absurd (List.append_eq_nil_iff.1 hr).2 (List.cons_ne_nil _ _)
    · rw [hw] at hr
      cases hr
  · cases hr
  · exact hQ

/-- What is behind the seam has been read as fields. -/
lemma exists_read (hitems : ∀ depth, items? depth (skipSpace t) = none)
    {fs : List (Option String × Data)} (h : fields? depth (u ++ seam t) = some (fs, r))
    (hr : skipSpace r = []) :
    ∃ depth' fs' r', fields? depth' (skipSpace t) = some (fs', r') := by
  by_contra hnone
  push Not at hnone
  obtain ⟨-, -, hfalse⟩ := exists_suffix (Q := fun _ => False) hitems
    (fun depth fs r h => absurd h (hnone depth fs r)) h hr
  exact hfalse

end stops

end LabTrust.Json
