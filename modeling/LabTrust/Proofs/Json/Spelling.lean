/-
The grammar of documents, and documents that are read.

* `Spells`, `SpellsItems`, `SpellsFields`: the spellings of a value, of the items of a list and of
  the fields of a record. The grammar has texts, whole numbers, and lists and records that are not
  empty; blanks stand where the format allows them.
* `Spells.value?`, `SpellsItems.items?`, `SpellsFields.fields?`: what is spelled is read, whatever
  follows it, as soon as the depth that is left covers its length.
* `Spells.readSymbols`: a whole document.
-/
import LabTrust.Proofs.Json.Steps
import LabTrust.Proofs.Json.Strings

namespace LabTrust.Json

/-! ### Blanks -/

/-- A text of blanks. -/
def Blank (b : List Symbol) : Prop := ∀ s ∈ b, isSpace s = true

instance (b : List Symbol) : Decidable (Blank b) :=
  inferInstanceAs (Decidable (∀ s ∈ b, isSpace s = true))

lemma skipSpace_append_of_blank {b : List Symbol} (h : Blank b) (s : List Symbol) :
    skipSpace (b ++ s) = skipSpace s :=
  List.dropWhile_append_of_pos h

lemma skipSpace_cons {a : Symbol} (h : isSpace a = false) (s : List Symbol) :
    skipSpace (a :: s) = a :: s := by
  simp [skipSpace, h]

lemma skipSpace_gap {a : Symbol} {b : List Symbol} (hb : Blank b) (ha : isSpace a = false)
    (s : List Symbol) : skipSpace (b ++ a :: s) = a :: s := by
  rw [skipSpace_append_of_blank hb, skipSpace_cons ha]

/-! ### The grammar of documents -/

/-- The value of a string. -/
def stringOf (ps : List Piece) : Data :=
  ((assemble? ps).map String.ofList).elim .unreadable .text

mutual

/-- The spellings of a value. -/
inductive Spells : List Symbol → Data → Prop
  | text {u : List Symbol} {ps : List Piece} (inside : Inside u ps) :
      Spells (some '"' :: u ++ [some '"']) (stringOf ps)
  | whole {c : Char} {cs : List Char} (first : c ≠ '0') (digits : ∀ d ∈ c :: cs, d.isDigit) :
      Spells ((c :: cs).map some) (.number (.int (decimal (c :: cs))))
  | list {b t : List Symbol} {ds : List Data} (gap : Blank b) (items : SpellsItems t ds) :
      Spells (some '[' :: b ++ t) (.list ds)
  | record {b t : List Symbol} {fs : List (Option String × Data)} (gap : Blank b)
      (fields : SpellsFields t fs) : Spells (some '{' :: b ++ t) (recordOf fs)

/-- The spellings of the items of a list, with its closing bracket. -/
inductive SpellsItems : List Symbol → List Data → Prop
  | last {s b : List Symbol} {d : Data} (item : Spells s d) (gap : Blank b) :
      SpellsItems (s ++ b ++ [some ']']) [d]
  | more {s b b' t : List Symbol} {d : Data} {ds : List Data} (item : Spells s d) (gap : Blank b)
      (gap' : Blank b') (items : SpellsItems t ds) :
      SpellsItems (s ++ b ++ some ',' :: b' ++ t) (d :: ds)

/-- The spellings of the fields of a record, with its closing brace. -/
inductive SpellsFields : List Symbol → List (Option String × Data) → Prop
  | last {u s b₁ b₂ b : List Symbol} {ps : List Piece} {d : Data} (name : Inside u ps)
      (gap₁ : Blank b₁) (gap₂ : Blank b₂) (value : Spells s d) (gap : Blank b) :
      SpellsFields (some '"' :: u ++ some '"' :: b₁ ++ some ':' :: b₂ ++ s ++ b ++ [some '}'])
        [((assemble? ps).map String.ofList, d)]
  | more {u s b₁ b₂ b b' t : List Symbol} {ps : List Piece} {d : Data}
      {fs : List (Option String × Data)} (name : Inside u ps) (gap₁ : Blank b₁) (gap₂ : Blank b₂)
      (value : Spells s d) (gap : Blank b) (gap' : Blank b') (fields : SpellsFields t fs) :
      SpellsFields
        (some '"' :: u ++ some '"' :: b₁ ++ some ':' :: b₂ ++ s ++ b ++ some ',' :: b' ++ t)
        (((assemble? ps).map String.ofList, d) :: fs)

end

/-! ### How spellings begin and end -/

lemma ne_of_isDigit {c d : Char} (hc : c.isDigit) (hd : d.isDigit = false) : c ≠ d := by
  rintro rfl
  simp [hd] at hc

lemma Spells.head {s : List Symbol} {d : Data} (h : Spells s d) :
    ∃ a t, s = a :: t ∧ isSpace a = false := by
  cases h with
  | text => exact ⟨_, _, rfl, rfl⟩
  | @whole c cs first digits =>
      have hc : c.isDigit := digits c List.mem_cons_self
      exact ⟨some c, _, rfl, by simp (disch := decide) [isSpace, ne_of_isDigit hc]⟩
  | list => exact ⟨_, _, rfl, rfl⟩
  | record => exact ⟨_, _, rfl, rfl⟩

lemma SpellsItems.head {s : List Symbol} {ds : List Data} (h : SpellsItems s ds) :
    ∃ a t, s = a :: t ∧ isSpace a = false := by
  cases h with
  | last item =>
      obtain ⟨a, t, rfl, ha⟩ := item.head
      exact ⟨a, _, rfl, ha⟩
  | more item =>
      obtain ⟨a, t, rfl, ha⟩ := item.head
      exact ⟨a, _, rfl, ha⟩

lemma SpellsFields.head {s : List Symbol} {fs : List (Option String × Data)}
    (h : SpellsFields s fs) : ∃ t, s = some '"' :: t := by
  cases h with
  | last => exact ⟨_, rfl⟩
  | more => exact ⟨_, rfl⟩

lemma Spells.skipSpace {s : List Symbol} {d : Data} (h : Spells s d) (r : List Symbol) :
    skipSpace (s ++ r) = s ++ r := by
  obtain ⟨a, t, rfl, ha⟩ := h.head
  exact skipSpace_cons ha _

lemma SpellsItems.skipSpace {s : List Symbol} {ds : List Data} (h : SpellsItems s ds)
    (r : List Symbol) : skipSpace (s ++ r) = s ++ r := by
  obtain ⟨a, t, rfl, ha⟩ := h.head
  exact skipSpace_cons ha _

lemma SpellsFields.skipSpace {s : List Symbol} {fs : List (Option String × Data)}
    (h : SpellsFields s fs) (r : List Symbol) : skipSpace (s ++ r) = s ++ r := by
  obtain ⟨t, rfl⟩ := h.head
  exact skipSpace_cons rfl _

/-- The symbols that end a number. -/
def IsEnd (a : Symbol) : Prop :=
  isSpace a = true ∨ a = some ',' ∨ a = some ']' ∨ a = some '}'

instance (a : Symbol) : Decidable (IsEnd a) :=
  inferInstanceAs (Decidable (isSpace a = true ∨ a = some ',' ∨ a = some ']' ∨ a = some '}'))

/-- What may follow a value. -/
def Ends (s : List Symbol) : Prop := ∀ a ∈ s.head?, IsEnd a

lemma ends_cons {a : Symbol} (ha : IsEnd a) (s : List Symbol) : Ends (a :: s) := by
  rintro _ ⟨⟩
  exact ha

lemma ends_gap {a : Symbol} {b : List Symbol} (hb : Blank b) (ha : IsEnd a) (s : List Symbol) :
    Ends (b ++ a :: s) := by
  cases b with
  | nil => exact ends_cons ha s
  | cons a b => exact ends_cons (.inl (hb a List.mem_cons_self)) _

/-- No number goes on over a symbol that ends it. -/
lemma Ends.number {s : List Symbol} (h : Ends s) :
    s.takeWhile isDigit = [] ∧ s.dropWhile isDigit = s ∧ fraction? s = some ([], s) ∧
      exponent? s = some ([], s) := by
  rcases s with _ | ⟨a, s⟩
  · exact ⟨rfl, rfl, rfl, rfl⟩
  · have ha : IsEnd a := h a rfl
    simp only [IsEnd, isSpace, Bool.or_eq_true, beq_iff_eq] at ha
    rcases ha with (((rfl | rfl) | rfl) | rfl) | rfl | rfl | rfl <;> exact ⟨rfl, rfl, rfl, rfl⟩

/-! ### Spelled documents are read -/

lemma string?_of_inside {u : List Symbol} {ps : List Piece} (h : Inside u ps) (r : List Symbol) :
    string? (u ++ some '"' :: r) = some ((assemble? ps).map String.ofList, r) := by
  rw [string?, pieces?_eq_some_iff.2 ⟨u, rfl, h⟩]
  rfl

/-- Digits without a zero in front are a whole number. -/
lemma value?_whole {c : Char} {cs : List Char} (first : c ≠ '0') (digits : ∀ d ∈ c :: cs, d.isDigit)
    (depth : ℕ) {r : List Symbol} (hr : Ends r) :
    value? (depth + 1) ((c :: cs).map some ++ r) =
      some (.number (.int (decimal (c :: cs))), r) := by
  have hc : c.isDigit := digits c List.mem_cons_self
  have hall : ∀ a ∈ (c :: cs).map some, isDigit a = true := by
    intro a ha
    obtain ⟨d, hd, rfl⟩ := List.mem_map.1 ha
    exact digits d hd
  obtain ⟨htake, hdrop, hfraction, hexponent⟩ := hr.number
  have hdigits : Json.digits ((c :: cs).map some ++ r) = (c :: cs, r) := by
    rw [Json.digits, List.takeWhile_append_of_pos hall, List.dropWhile_append_of_pos hall, htake,
      hdrop, List.append_nil, List.filterMap_map]
    simp
  have hwhole : whole? ((c :: cs).map some ++ r) = some (c :: cs, r) := by
    rw [whole?, hdigits]
    simp [first]
  have hnumber : number? ((c :: cs).map some ++ r) =
      some (.int (decimal (c :: cs)), r) := by
    rw [List.map_cons, List.cons_append, number?, ← List.cons_append, ← List.map_cons, unsigned?,
      hwhole]
    · simp [hfraction, hexponent]
    · simp (disch := decide) [ne_of_isDigit hc]
  rw [List.map_cons, List.cons_append, value?, ← List.cons_append, ← List.map_cons, hnumber]
  · rfl
  all_goals simp (disch := decide) [ne_of_isDigit hc]

mutual

/-- A spelled value is read. -/
theorem Spells.value? {s : List Symbol} {d : Data} (h : Spells s d) {depth : ℕ}
    (hd : s.length ≤ depth) {r : List Symbol} (hr : Ends r) :
    value? depth (s ++ r) = some (d, r) := by
  obtain ⟨depth, rfl⟩ : ∃ k, depth = k + 1 := by
    obtain ⟨a, t, rfl, -⟩ := h.head
    exact Nat.exists_eq_succ_of_ne_zero (by rw [List.length_cons] at hd; omega)
  cases h with
  | text inside =>
      rw [List.cons_append, List.cons_append, List.append_assoc, List.singleton_append,
        value?_string, string?_of_inside inside]
      rfl
  | whole first digits => exact value?_whole first digits depth hr
  | list gap items =>
      simp only [List.length_append, List.length_cons] at hd
      rw [List.cons_append, List.cons_append, List.append_assoc, value?_list_iff,
        skipSpace_append_of_blank gap, items.skipSpace]
      exact .inr ⟨_, items.items? (by omega) r, rfl⟩
  | record gap fields =>
      simp only [List.length_append, List.length_cons] at hd
      rw [List.cons_append, List.cons_append, List.append_assoc, value?_record_iff,
        skipSpace_append_of_blank gap, fields.skipSpace]
      exact .inr ⟨_, fields.fields? (by omega) r, rfl⟩

/-- Spelled items are read. -/
theorem SpellsItems.items? {s : List Symbol} {ds : List Data} (h : SpellsItems s ds) {depth : ℕ}
    (hd : s.length ≤ depth) (r : List Symbol) : items? depth (s ++ r) = some (ds, r) := by
  obtain ⟨depth, rfl⟩ : ∃ k, depth = k + 1 := by
    obtain ⟨a, t, rfl, -⟩ := h.head
    exact Nat.exists_eq_succ_of_ne_zero (by rw [List.length_cons] at hd; omega)
  cases h with
  | last item gap =>
      simp only [List.length_append, List.length_cons, List.length_nil] at hd
      rw [List.append_assoc, List.append_assoc, List.singleton_append]
      exact items?_iff.2 ⟨_, _, item.value? (by omega) (ends_gap gap (by decide) _),
        .inl ⟨skipSpace_gap gap rfl _, rfl⟩⟩
  | more item gap gap' items =>
      simp only [List.length_append, List.length_cons] at hd
      rw [List.append_assoc, List.append_assoc, List.append_assoc, List.cons_append]
      refine items?_iff.2 ⟨_, _, item.value? (by omega) (ends_gap gap (by decide) _),
        .inr ⟨_, _, skipSpace_gap gap rfl _, ?_, rfl⟩⟩
      rw [skipSpace_append_of_blank gap', items.skipSpace]
      exact items.items? (by omega) r

/-- Spelled fields are read. -/
theorem SpellsFields.fields? {s : List Symbol} {fs : List (Option String × Data)}
    (h : SpellsFields s fs) {depth : ℕ} (hd : s.length ≤ depth) (r : List Symbol) :
    fields? depth (s ++ r) = some (fs, r) := by
  obtain ⟨depth, rfl⟩ : ∃ k, depth = k + 1 := by
    obtain ⟨t, rfl⟩ := h.head
    exact Nat.exists_eq_succ_of_ne_zero (by rw [List.length_cons] at hd; omega)
  cases h with
  | last name gap₁ gap₂ value gap =>
      simp only [List.length_append, List.length_cons, List.length_nil] at hd
      simp only [List.append_assoc, List.cons_append, List.nil_append]
      refine fields?_iff.2 ⟨_, _, _, _, _, _, rfl, string?_of_inside name _,
        skipSpace_gap gap₁ rfl _, ?_, .inl ⟨skipSpace_gap gap rfl _, rfl⟩⟩
      rw [skipSpace_append_of_blank gap₂, value.skipSpace]
      exact value.value? (by omega) (ends_gap gap (by decide) _)
  | @more u s b₁ b₂ b b' t ps d fs name gap₁ gap₂ value gap gap' fields =>
      simp only [List.length_append, List.length_cons] at hd
      simp only [List.append_assoc, List.cons_append]
      refine fields?_iff.2 ⟨_, _, _, _, _, _, rfl, string?_of_inside name _,
        skipSpace_gap gap₁ rfl _, ?_, .inr ⟨b' ++ (t ++ r), fs, skipSpace_gap gap rfl _, ?_, rfl⟩⟩
      · rw [skipSpace_append_of_blank gap₂, value.skipSpace]
        exact value.value? (by omega) (ends_gap gap (by decide) _)
      · rw [skipSpace_append_of_blank gap', fields.skipSpace]
        exact fields.fields? (by omega) r

end

/-- A spelled document is read. -/
theorem Spells.readSymbols {s b : List Symbol} {d : Data} (h : Spells s d) (hb : Blank b) :
    readSymbols (s ++ b) = some d := by
  have hends : Ends b := by
    intro a ha
    exact .inl (hb a (List.mem_of_mem_head? ha))
  have hread : Json.value? ((s ++ b).length + 1) (s ++ b) = some (d, b) :=
    h.value? (by rw [List.length_append]; omega) hends
  have hrest : Json.skipSpace b = [] := by
    have h := skipSpace_append_of_blank hb []
    rwa [List.append_nil] at h
  rw [Json.readSymbols, h.skipSpace, hread]
  simp [hrest]

end LabTrust.Json
