/-
What ends on its line.

* `OnLine`: what is left of a text after something on its first line.
* `OnLine.exists_append`: what ends on its line does not reach over a line end.
* `value?_onLine`: strings, words and numbers end on their line; only records and lists go on over
  several lines.
-/
import LabTrust.Proofs.Json.Spelling
import Mathlib.Data.List.TakeWhile

namespace LabTrust.Json

variable {s r u : List Symbol}

/-- The second text is what is left of the first after something on its first line. -/
def OnLine (s r : List Symbol) : Prop := ∃ u, s = u ++ r ∧ some '\n' ∉ u

lemma OnLine.refl (s : List Symbol) : OnLine s s := ⟨[], rfl, by simp⟩

lemma OnLine.trans {t : List Symbol} (h : OnLine s t) (h' : OnLine t r) : OnLine s r := by
  obtain ⟨u, rfl, hu⟩ := h
  obtain ⟨v, rfl, hv⟩ := h'
  exact ⟨u ++ v, (List.append_assoc _ _ _).symm, by simp [hu, hv]⟩

lemma OnLine.cons {c : Char} (hc : c ≠ '\n') (s : List Symbol) : OnLine (some c :: s) s :=
  ⟨[some c], rfl, by simpa using hc.symm⟩

/-- What ends on its line does not reach over a line end. -/
lemma OnLine.exists_append {t : List Symbol} (h : OnLine (u ++ some '\n' :: t) r) :
    ∃ v, r = v ++ some '\n' :: t := by
  obtain ⟨w, he, hw⟩ := h
  rcases List.append_eq_append_iff.1 he with ⟨v, rfl, hv⟩ | ⟨v, rfl, rfl⟩
  · rcases v with _ | ⟨a, v⟩
    · exact ⟨[], hv.symm⟩
    · obtain ⟨rfl, -⟩ := List.cons.inj hv
      simp at hw
  · exact ⟨v, rfl⟩

lemma string?_onLine {t : Option String} (h : string? s = some (t, r)) : OnLine s r := by
  obtain ⟨⟨ps, r'⟩, hp, he⟩ := Option.map_eq_some_iff.1 h
  cases he
  obtain ⟨u, rfl, hu⟩ := pieces?_eq_some_iff.1 hp
  exact ⟨u ++ [some '"'], by simp, by simp [hu.not_newline]⟩

lemma word?_onLine {w : List Char} (hw : '\n' ∉ w) (h : word? w s = some r) : OnLine s r := by
  induction w generalizing s with
  | nil =>
      rw [word?, Option.some.injEq] at h
      exact h ▸ .refl s
  | cons c w ih =>
      rcases s with _ | ⟨_ | d, s⟩
      · cases h
      · cases h
      · rw [word?] at h
        split at h
        · next hd =>
            subst hd
            exact (OnLine.cons (fun hc => hw (hc ▸ List.mem_cons_self)) s).trans
              (ih (fun hm => hw (List.mem_cons_of_mem _ hm)) h)
        · cases h

lemma digits_onLine {ds : List Char} (h : digits s = (ds, r)) : OnLine s r := by
  cases h
  refine ⟨s.takeWhile isDigit, List.takeWhile_append_dropWhile.symm, fun hm => ?_⟩
  have hdigit := List.mem_takeWhile_imp hm
  exact absurd hdigit (by decide)

lemma whole?_onLine {ds : List Char} (h : whole? s = some (ds, r)) : OnLine s r := by
  rw [whole?] at h
  split at h
  · cases h
  · cases h
  · next hds =>
      cases h
      exact digits_onLine hds

lemma fraction?_onLine {ds : List Char} (h : fraction? s = some (ds, r)) : OnLine s r := by
  rw [fraction?.eq_def] at h
  split at h
  · split at h
    · cases h
    · next hds =>
        cases h
        exact (OnLine.cons (by decide) _).trans (digits_onLine hds)
  · cases h
    exact .refl _

lemma exponent?_onLine {ds : List Char} (h : exponent? s = some (ds, r)) : OnLine s r := by
  rw [exponent?.eq_def] at h
  split at h
  · next e s =>
      split at h
      · next he =>
          have hline : e ≠ '\n' := by
            rintro rfl
            exact absurd he (by decide)
          have hs := OnLine.cons hline s
          split at h
          next sign s' hsign =>
          have hs' : OnLine s s' := by
            split at hsign <;> cases hsign
            · exact .cons (by decide) _
            · exact .cons (by decide) _
            · exact .refl _
          split at h
          · cases h
          · next hds =>
              cases h
              exact (hs.trans hs').trans (digits_onLine hds)
      · cases h
        exact .refl _
  · cases h
    exact .refl _

lemma unsigned?_onLine {negative : Bool} {n : Numeral} (h : unsigned? negative s = some (n, r)) :
    OnLine s r := by
  obtain ⟨⟨ds, s₁⟩, hwhole, h⟩ := Option.bind_eq_some_iff.1 h
  obtain ⟨⟨point, s₂⟩, hpoint, h⟩ := Option.bind_eq_some_iff.1 h
  obtain ⟨⟨power, s₃⟩, hpower, h⟩ := Option.bind_eq_some_iff.1 h
  have hr : s₃ = r := by
    dsimp only at h
    split at h <;> exact (Prod.mk.inj (Option.some.inj h)).2
  subst hr
  exact ((whole?_onLine hwhole).trans (fraction?_onLine hpoint)).trans (exponent?_onLine hpower)

lemma number?_onLine {n : Numeral} (h : number? s = some (n, r)) : OnLine s r := by
  rw [number?.eq_def] at h
  split at h
  · exact (OnLine.cons (by decide) _).trans (unsigned?_onLine h)
  · exact unsigned?_onLine h

/-- What is neither a record nor a list ends on its line. -/
lemma value?_onLine {depth : ℕ} {d : Data} (hrecord : s.head? ≠ some (some '{'))
    (hlist : s.head? ≠ some (some '[')) (h : value? (depth + 1) s = some (d, r)) : OnLine s r := by
  rw [value?.eq_def] at h
  dsimp only at h
  split at h
  · exact absurd rfl hrecord
  · exact absurd rfl hlist
  · obtain ⟨⟨t, r'⟩, ht, he⟩ := Option.map_eq_some_iff.1 h
    cases he
    exact (OnLine.cons (by decide) _).trans (string?_onLine ht)
  · obtain ⟨r', hw, he⟩ := Option.map_eq_some_iff.1 h
    cases he
    exact word?_onLine (by decide) hw
  · obtain ⟨r', hw, he⟩ := Option.map_eq_some_iff.1 h
    cases he
    exact word?_onLine (by decide) hw
  · obtain ⟨r', hw, he⟩ := Option.map_eq_some_iff.1 h
    cases he
    exact word?_onLine (by decide) hw
  · obtain ⟨⟨n, r'⟩, hn, he⟩ := Option.map_eq_some_iff.1 h
    cases he
    exact number?_onLine hn

end LabTrust.Json
