/-
One step of the reader of documents.

* `value?_record_iff`, `value?_list_iff`, `items?_iff`, `fields?_iff`: what a record, a list, its
  items and the fields of a record are read as, in both directions.
* `read_mono`, `value?_unique`, `fields?_unique`: a depth that suffices may be exceeded, so what is
  read does not depend on it.
-/
import LabTrust.Json.Reader
import Mathlib.Tactic.Common

namespace LabTrust.Json

variable {depth : ℕ} {s r : List Symbol} {d : Data}

/-- Nothing is read from a symbol that no value begins with. -/
lemma value?_close {a : Symbol} (ha : a = some ']' ∨ a = some '}' ∨ a = some ':' ∨ a = some ',') :
    value? depth (a :: s) = none := by
  rcases ha with rfl | rfl | rfl | rfl <;> cases depth <;> rfl

lemma items?_close {a : Symbol} (ha : a = some ']' ∨ a = some '}' ∨ a = some ':' ∨ a = some ',') :
    items? depth (a :: s) = none := by
  cases depth with
  | zero => rfl
  | succ depth => rw [items?, value?_close ha]

lemma fields?_of_ne {a : Symbol} (ha : a ≠ some '"') : fields? depth (a :: s) = none := by
  cases depth with
  | zero => rfl
  | succ depth =>
      rw [fields?]
      simpa using ha

/-! ### Equations -/

lemma value?_string : value? (depth + 1) (some '"' :: s) =
    (string? s).map fun (text, r) => (text.elim .unreadable .text, r) :=
  rfl

lemma value?_record_iff : value? (depth + 1) (some '{' :: s) = some (d, r) ↔
    (skipSpace s = some '}' :: r ∧ d = .record []) ∨
      ∃ fs, fields? depth (skipSpace s) = some (fs, r) ∧ d = recordOf fs := by
  rw [value?]
  split
  · next rest h => simp [h, fields?_of_ne, and_comm, eq_comm]
  · next h =>
      rw [Option.map_eq_some_iff]
      constructor
      · rintro ⟨⟨fs, r'⟩, hfs, he⟩
        cases he
        exact .inr ⟨fs, hfs, rfl⟩
      · rintro (⟨hr, -⟩ | ⟨fs, hfs, rfl⟩)
        · exact absurd hr (h r)
        · exact ⟨(fs, r), hfs, rfl⟩

lemma value?_list_iff : value? (depth + 1) (some '[' :: s) = some (d, r) ↔
    (skipSpace s = some ']' :: r ∧ d = .list []) ∨
      ∃ ds, items? depth (skipSpace s) = some (ds, r) ∧ d = .list ds := by
  rw [value?]
  split
  · next rest h => simp [h, items?_close, and_comm, eq_comm]
  · next h =>
      rw [Option.map_eq_some_iff]
      constructor
      · rintro ⟨⟨ds, r'⟩, hds, he⟩
        cases he
        exact .inr ⟨ds, hds, rfl⟩
      · rintro (⟨hr, -⟩ | ⟨ds, hds, rfl⟩)
        · exact absurd hr (h r)
        · exact ⟨(ds, r), hds, rfl⟩

lemma items?_iff {ds : List Data} : items? (depth + 1) s = some (ds, r) ↔
    ∃ d s₁, value? depth s = some (d, s₁) ∧
      ((skipSpace s₁ = some ']' :: r ∧ ds = [d]) ∨
        ∃ s₂ ds', skipSpace s₁ = some ',' :: s₂ ∧ items? depth (skipSpace s₂) = some (ds', r) ∧
          ds = d :: ds') := by
  constructor
  · intro h
    rw [items?] at h
    split at h
    · cases h
    · next d s₁ hvalue =>
        split at h
        · next s₂ hcomma =>
            obtain ⟨⟨ds', r'⟩, hmore, he⟩ := Option.map_eq_some_iff.1 h
            cases he
            exact ⟨d, s₁, hvalue, .inr ⟨s₂, ds', hcomma, hmore, rfl⟩⟩
        · next s₂ hclose =>
            cases h
            exact ⟨d, s₁, hvalue, .inl ⟨hclose, rfl⟩⟩
        · cases h
  · rintro ⟨d, s₁, hvalue, ⟨hclose, rfl⟩ | ⟨s₂, ds', hcomma, hmore, rfl⟩⟩
    · simp only [items?, hvalue, hclose]
    · simp only [items?, hvalue, hcomma, hmore, Option.map_some]

lemma fields?_iff {fs : List (Option String × Data)} : fields? (depth + 1) s = some (fs, r) ↔
    ∃ s₁ name s₂ s₃ d s₄, s = some '"' :: s₁ ∧ string? s₁ = some (name, s₂) ∧
      skipSpace s₂ = some ':' :: s₃ ∧ value? depth (skipSpace s₃) = some (d, s₄) ∧
      ((skipSpace s₄ = some '}' :: r ∧ fs = [(name, d)]) ∨
        ∃ s₅ fs', skipSpace s₄ = some ',' :: s₅ ∧ fields? depth (skipSpace s₅) = some (fs', r) ∧
          fs = (name, d) :: fs') := by
  constructor
  · intro h
    rcases s with _ | ⟨a, s₁⟩
    · cases h
    obtain rfl : a = some '"' := by
      by_contra hne
      rw [fields?_of_ne hne] at h
      cases h
    rw [fields?] at h
    split at h
    · cases h
    next name s₂ hname =>
    split at h
    · next s₃ hcolon =>
        split at h
        · cases h
        next d s₄ hvalue =>
        split at h
        · next s₅ hcomma =>
            obtain ⟨⟨fs', r'⟩, hmore, he⟩ := Option.map_eq_some_iff.1 h
            cases he
            exact ⟨s₁, name, s₂, s₃, d, s₄, rfl, hname, hcolon, hvalue,
              .inr ⟨s₅, fs', hcomma, hmore, rfl⟩⟩
        · next s₅ hclose =>
            cases h
            exact ⟨s₁, name, s₂, s₃, d, s₄, rfl, hname, hcolon, hvalue, .inl ⟨hclose, rfl⟩⟩
        · cases h
    · cases h
  · rintro ⟨s₁, name, s₂, s₃, d, s₄, rfl, hname, hcolon, hvalue,
      ⟨hclose, rfl⟩ | ⟨s₅, fs', hcomma, hmore, rfl⟩⟩
    · simp only [fields?, hname, hcolon, hvalue, hclose]
    · simp only [fields?, hname, hcolon, hvalue, hcomma, hmore, Option.map_some]

/-- What is neither a record nor a list takes no depth. -/
lemma value?_scalar (hrecord : s.head? ≠ some (some '{')) (hlist : s.head? ≠ some (some '[')) :
    value? (depth + 1) s = value? 1 s := by
  rw [value?.eq_def, value?.eq_def]
  dsimp only
  split
  · exact absurd rfl hrecord
  · exact absurd rfl hlist
  all_goals rfl

/-! ### More depth -/

/-- A depth that suffices for each reader may be exceeded. -/
lemma read_mono (depth : ℕ) :
    (∀ s d r, value? depth s = some (d, r) → value? (depth + 1) s = some (d, r)) ∧
    (∀ s ds r, items? depth s = some (ds, r) → items? (depth + 1) s = some (ds, r)) ∧
    (∀ s fs r, fields? depth s = some (fs, r) → fields? (depth + 1) s = some (fs, r)) := by
  induction depth with
  | zero =>
      refine ⟨fun _ _ _ h => ?_, fun _ _ _ h => ?_, fun _ _ _ h => ?_⟩ <;> cases h
  | succ depth ih =>
      obtain ⟨hvalue, hitems, hfields⟩ := ih
      refine ⟨fun s d r h => ?_, fun s ds r h => ?_, fun s fs r h => ?_⟩
      · by_cases hrecord : s.head? = some (some '{')
        · obtain ⟨s, rfl⟩ := List.head?_eq_some_iff.1 hrecord
          rw [value?_record_iff] at h ⊢
          exact h.imp_right fun ⟨fs, hfs, he⟩ => ⟨fs, hfields _ _ _ hfs, he⟩
        by_cases hlist : s.head? = some (some '[')
        · obtain ⟨s, rfl⟩ := List.head?_eq_some_iff.1 hlist
          rw [value?_list_iff] at h ⊢
          exact h.imp_right fun ⟨ds, hds, he⟩ => ⟨ds, hitems _ _ _ hds, he⟩
        · rwa [value?_scalar hrecord hlist] at h ⊢
      · rw [items?_iff] at h ⊢
        obtain ⟨d, s₁, hd, h⟩ := h
        refine ⟨d, s₁, hvalue _ _ _ hd, h.imp_right ?_⟩
        rintro ⟨s₂, ds', hcomma, hmore, he⟩
        exact ⟨s₂, ds', hcomma, hitems _ _ _ hmore, he⟩
      · rw [fields?_iff] at h ⊢
        obtain ⟨s₁, name, s₂, s₃, d, s₄, hquote, hname, hcolon, hd, h⟩ := h
        refine ⟨s₁, name, s₂, s₃, d, s₄, hquote, hname, hcolon, hvalue _ _ _ hd, h.imp_right ?_⟩
        rintro ⟨s₅, fs', hcomma, hmore, he⟩
        exact ⟨s₅, fs', hcomma, hfields _ _ _ hmore, he⟩

lemma value?_mono {depth' : ℕ} (h : depth ≤ depth') (hs : value? depth s = some (d, r)) :
    value? depth' s = some (d, r) := by
  induction h with
  | refl => exact hs
  | step _ ih => exact (read_mono _).1 _ _ _ ih

lemma fields?_mono {depth' : ℕ} (h : depth ≤ depth') {fs : List (Option String × Data)}
    (hs : fields? depth s = some (fs, r)) : fields? depth' s = some (fs, r) := by
  induction h with
  | refl => exact hs
  | step _ ih => exact (read_mono _).2.2 _ _ _ ih

/-- The value at the front of a text does not depend on the depth. -/
lemma value?_unique {depth' : ℕ} {d' : Data} {r' : List Symbol} (h : value? depth s = some (d, r))
    (h' : value? depth' s = some (d', r')) : d = d' ∧ r = r' := by
  have hmax := value?_mono (Nat.le_max_left depth depth') h
  rw [value?_mono (Nat.le_max_right depth depth') h'] at hmax
  cases hmax
  exact ⟨rfl, rfl⟩

/-- Nor do the fields of a record. -/
lemma fields?_unique {depth' : ℕ} {fs fs' : List (Option String × Data)} {r' : List Symbol}
    (h : fields? depth s = some (fs, r)) (h' : fields? depth' s = some (fs', r')) :
    fs = fs' ∧ r = r' := by
  have hmax := fields?_mono (Nat.le_max_left depth depth') h
  rw [fields?_mono (Nat.le_max_right depth depth') h'] at hmax
  cases hmax
  exact ⟨rfl, rfl⟩

end LabTrust.Json
