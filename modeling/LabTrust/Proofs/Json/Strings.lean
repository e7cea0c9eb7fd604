/-
The grammar of strings, and where a string ends.

* `SpellsPart`, `Inside`: the spellings of one part of a string, and of all that stands between two
  quotes.
* `pieces?_eq_some_iff`: the reader of strings follows this grammar.
* `pieces?_cut`: a string that is read over a seam, such as the point between two names, either
  ends before the seam or goes on behind it; no escape reaches over the seam.
* `assemble?_append_char`: a character that stands for itself keeps the parts before it and after
  it apart.
-/
import LabTrust.Json.Reader
import Mathlib.Tactic.Common

namespace LabTrust.Json

/-- The symbols of a text. -/
def ofText (s : String) : List Symbol := s.toList.map some

@[simp] lemma ofText_append (s t : String) : ofText (s ++ t) = ofText s ++ ofText t := by
  simp [ofText]

/-! ### The grammar of strings -/

/-- The spellings of one part of a string. -/
inductive SpellsPart : List Symbol → Piece → Prop
  | stray : SpellsPart [none] .stray
  | char {c : Char} (quote : c ≠ '"') (slash : c ≠ '\\') (control : ¬ c.toNat < 32) :
      SpellsPart [some c] (.char c)
  | escape {e c : Char} (h : escape? e = some c) : SpellsPart [some '\\', some e] (.char c)
  | code {s₁ s₂ s₃ s₄ : Symbol} {d₁ d₂ d₃ d₄ : ℕ} (h₁ : hex? s₁ = some d₁)
      (h₂ : hex? s₂ = some d₂) (h₃ : hex? s₃ = some d₃) (h₄ : hex? s₄ = some d₄) :
      SpellsPart [some '\\', some 'u', s₁, s₂, s₃, s₄]
        (.code (4096 * d₁ + 256 * d₂ + 16 * d₃ + d₄))

/-- The texts between two quotes, with the parts of the string. -/
inductive Inside : List Symbol → List Piece → Prop
  | nil : Inside [] []
  | cons {x u : List Symbol} {p : Piece} {ps : List Piece} (head : SpellsPart x p)
      (tail : Inside u ps) : Inside (x ++ u) (p :: ps)

variable {s r u v x : List Symbol} {p : Piece} {ps qs : List Piece}

lemma SpellsPart.inside (h : SpellsPart x p) : Inside x [p] := by
  simpa using Inside.cons h .nil

lemma Inside.append (hu : Inside u ps) (hv : Inside v qs) : Inside (u ++ v) (ps ++ qs) := by
  induction hu with
  | nil => exact hv
  | cons head _ ih =>
      rw [List.append_assoc]
      exact cons head ih

/-- A part is read, whatever follows it. -/
lemma SpellsPart.pieces?_append (h : SpellsPart x p) (s : List Symbol) :
    pieces? (x ++ s) = (pieces? s).map fun (ps, r) => (p :: ps, r) := by
  cases h with
  | stray => rfl
  | @char c quote slash control =>
      rw [List.singleton_append, pieces?, if_neg control]
      · exact quote
      · exact fun _ _ _ _ _ _ => slash
      · exact fun _ _ _ => slash
      · exact slash
  | @escape e c h =>
      have hu : e ≠ 'u' := by
        rintro rfl
        simp [escape?] at h
      rw [List.cons_append, List.cons_append, List.nil_append, pieces?, h]
      · cases pieces? s <;> rfl
      · exact fun _ _ _ _ _ _ => hu
  | code h₁ h₂ h₃ h₄ =>
      rw [List.cons_append, List.cons_append, List.cons_append, List.cons_append, List.cons_append,
        List.cons_append, List.nil_append, pieces?, h₁, h₂, h₃, h₄]
      cases pieces? s <;> rfl

lemma Inside.pieces?_append (h : Inside u ps) (s : List Symbol) :
    pieces? (u ++ s) = (pieces? s).map fun (qs, r) => (ps ++ qs, r) := by
  induction h with
  | nil => cases h : pieces? s <;> simp [h]
  | cons head _ ih =>
      rw [List.append_assoc, head.pieces?_append, ih]
      cases pieces? s <;> rfl

/-- A string that begins with a spelled part is that part and a shorter string. -/
lemma SpellsPart.inside_of_pieces? (hx : SpellsPart x p)
    (ih : ∀ qs, pieces? s = some (qs, r) → ∃ u, s = u ++ some '"' :: r ∧ Inside u qs)
    (h : pieces? (x ++ s) = some (ps, r)) : ∃ u, x ++ s = u ++ some '"' :: r ∧ Inside u ps := by
  rw [hx.pieces?_append] at h
  obtain ⟨⟨qs, r'⟩, hs, he⟩ := Option.map_eq_some_iff.1 h
  cases he
  obtain ⟨u, rfl, hu⟩ := ih qs hs
  exact ⟨x ++ u, (List.append_assoc _ _ _).symm, .cons hx hu⟩

/-- The reader of strings follows the grammar. -/
theorem pieces?_eq_some_iff :
    pieces? s = some (ps, r) ↔ ∃ u, s = u ++ some '"' :: r ∧ Inside u ps := by
  refine ⟨fun h => ?_, ?_⟩
  · induction s using pieces?.induct generalizing ps with
    | case1 => simp [pieces?] at h
    | case2 rest ih => exact SpellsPart.stray.inside_of_pieces? (fun _ => ih) h
    | case3 rest =>
        simp only [pieces?, Option.some.injEq, Prod.mk.injEq] at h
        obtain ⟨rfl, rfl⟩ := h
        exact ⟨[], rfl, .nil⟩
    | case4 s₁ s₂ s₃ s₄ rest ih =>
        have hread := h
        rw [pieces?] at hread
        obtain ⟨d₁, h₁, hread⟩ := Option.bind_eq_some_iff.1 hread
        obtain ⟨d₂, h₂, hread⟩ := Option.bind_eq_some_iff.1 hread
        obtain ⟨d₃, h₃, hread⟩ := Option.bind_eq_some_iff.1 hread
        obtain ⟨d₄, h₄, -⟩ := Option.bind_eq_some_iff.1 hread
        exact (SpellsPart.code h₁ h₂ h₃ h₄).inside_of_pieces? (fun _ => ih) h
    | case5 e rest hu ih =>
        have hread := h
        rw [pieces?.eq_5 e rest hu] at hread
        obtain ⟨c, hc, -⟩ := Option.bind_eq_some_iff.1 hread
        exact (SpellsPart.escape hc).inside_of_pieces? (fun _ => ih) h
    | case6 tail h₁ h₂ => simp [pieces?.eq_6 tail h₁ h₂] at h
    | case7 c rest h₁ h₂ h₃ h₄ control => simp [pieces?.eq_7 c rest h₁ h₂ h₃ h₄, control] at h
    | case8 c rest h₁ h₂ h₃ h₄ control ih =>
        exact (SpellsPart.char h₁ h₄ control).inside_of_pieces? (fun _ => ih) h
  · rintro ⟨u, rfl, h⟩
    rw [h.pieces?_append]
    simp [pieces?]

/-- What stands inside a string is what is read before its quote. -/
lemma inside_iff : Inside u ps ↔ pieces? (u ++ [some '"']) = some (ps, []) := by
  refine ⟨fun h => pieces?_eq_some_iff.2 ⟨u, rfl, h⟩, fun h => ?_⟩
  obtain ⟨v, hv, hin⟩ := pieces?_eq_some_iff.1 h
  rwa [List.append_cancel_right hv]

/-! ### Seams -/

/-- A character that no escape contains and that no string ends at. -/
def IsSeam (c : Char) : Prop := escape? c = none ∧ c ≠ 'u' ∧ Bytes.hexValue? c = none

instance (c : Char) : Decidable (IsSeam c) :=
  inferInstanceAs (Decidable (escape? c = none ∧ c ≠ 'u' ∧ Bytes.hexValue? c = none))

/-- A seam is a part of its own. -/
lemma SpellsPart.eq_of_seam {c : Char} (hc : IsSeam c) (h : SpellsPart x p) (hm : some c ∈ x) :
    x = [some c] ∧ p = .char c := by
  obtain ⟨hescape, hu, hhex⟩ := hc
  have hslash : c ≠ '\\' := by
    rintro rfl
    simp [escape?] at hescape
  cases h with
  | stray => simp at hm
  | char => simp_all
  | escape h =>
      have he : ∀ e d, escape? e = some d → c ≠ e := by
        rintro e d h rfl
        simp [hescape] at h
      simp [hslash, he _ _ h] at hm
  | code h₁ h₂ h₃ h₄ =>
      have hd : ∀ t d, hex? t = some d → some c ≠ t := by
        rintro t d h rfl
        simp [hex?, hhex] at h
      simp [hslash, hu, hd _ _ h₁, hd _ _ h₂, hd _ _ h₃, hd _ _ h₄] at hm

/-- What stands inside a string and over a seam is two texts that stand inside a string, or the
string ends before the seam. -/
lemma Inside.cut {c : Char} (hc : IsSeam c) (h : Inside u ps)
    (he : u ++ some '"' :: r = v ++ some c :: s) :
    (∃ ps₁ ps₂, ps = ps₁ ++ .char c :: ps₂ ∧ Inside v ps₁ ∧ pieces? s = some (ps₂, r)) ∨
      ∃ w, v = u ++ some '"' :: w ∧ r = w ++ some c :: s := by
  induction h generalizing v with
  | nil =>
      rcases v with _ | ⟨a, w⟩
      · obtain rfl : '"' = c := by simpa using congrArg List.head? he
        exact absurd hc (by decide)
      · obtain ⟨rfl, hr⟩ := List.cons.inj he
        exact .inr ⟨w, rfl, hr⟩
  | @cons x u p ps head tail ih =>
      rw [List.append_assoc] at he
      rcases List.append_eq_append_iff.1 he with ⟨w, rfl, hw⟩ | ⟨w, rfl, hw⟩
      · rcases ih hw with ⟨ps₁, ps₂, rfl, hv, hs⟩ | ⟨w', rfl, hr⟩
        · exact .inl ⟨p :: ps₁, ps₂, rfl, .cons head hv, hs⟩
        · exact .inr ⟨w', (List.append_assoc _ _ _).symm, hr⟩
      · rcases w with _ | ⟨a, w⟩
        · rcases ih (v := []) hw.symm with ⟨ps₁, ps₂, rfl, hv, hs⟩ | ⟨w', hv, -⟩
          · exact .inl ⟨p :: ps₁, ps₂, rfl, by simpa using head.inside.append hv, hs⟩
          · simp at hv
        · obtain ⟨rfl, rfl⟩ := List.cons.inj hw
          obtain ⟨hx, rfl⟩ := head.eq_of_seam hc (by simp)
          obtain ⟨rfl, rfl⟩ : v = [] ∧ w = [] := by
            have hlen := congrArg List.length hx
            simp only [List.length_append, List.length_cons, List.length_nil] at hlen
            exact ⟨List.eq_nil_of_length_eq_zero (by omega),
              List.eq_nil_of_length_eq_zero (by omega)⟩
          exact .inl ⟨[], ps, rfl, .nil, pieces?_eq_some_iff.2 ⟨u, rfl, tail⟩⟩

/-- A string that is read over a seam ends before it, or goes on behind it. -/
theorem pieces?_cut {c : Char} (hc : IsSeam c) (h : pieces? (v ++ some c :: s) = some (ps, r)) :
    (∃ ps₁ ps₂, ps = ps₁ ++ .char c :: ps₂ ∧ Inside v ps₁ ∧ pieces? s = some (ps₂, r)) ∨
      ∃ u w, v = u ++ some '"' :: w ∧ Inside u ps ∧ r = w ++ some c :: s := by
  obtain ⟨u, he, hu⟩ := pieces?_eq_some_iff.1 h
  rcases hu.cut hc he.symm with h | ⟨w, hv, hr⟩
  · exact .inl h
  · exact .inr ⟨u, w, hv, hu, hr⟩

/-- No string goes on over a line end. -/
lemma Inside.not_newline (h : Inside u ps) : some '\n' ∉ u := by
  induction h with
  | nil => simp
  | cons head _ ih =>
      intro hm
      rcases List.mem_append.1 hm with hm | hm
      · obtain ⟨rfl, rfl⟩ := head.eq_of_seam (by decide) hm
        cases head with
        | char _ _ control => exact control (by decide)
      · exact ih hm

/-! ### The text of parts -/

lemma assemble?_chars_append (cs : List Char) (ps : List Piece) :
    assemble? (cs.map .char ++ ps) = (assemble? ps).map (cs ++ ·) := by
  induction cs with
  | nil => simp
  | cons c cs ih => simp [assemble?, ih, Function.comp_def]

lemma assemble?_chars (cs : List Char) : assemble? (cs.map .char) = some cs := by
  have h := assemble?_chars_append cs []
  simpa [assemble?] using h

lemma assemble?_low {n : ℕ} (hn : ¬ (0xd800 ≤ n ∧ n < 0xdc00)) (hl : 0xdc00 ≤ n ∧ n < 0xe000)
    (ps : List Piece) : assemble? (.code n :: ps) = none := by
  rw [assemble?.eq_def]
  simp only [hn, hl, and_self, if_true, if_false]

lemma assemble?_code {n : ℕ} (hn : ¬ (0xd800 ≤ n ∧ n < 0xdc00))
    (hl : ¬ (0xdc00 ≤ n ∧ n < 0xe000)) (ps : List Piece) :
    assemble? (.code n :: ps) = (assemble? ps).map (Char.ofNat n :: ·) := by
  rw [assemble?.eq_def]
  simp only [hn, hl, if_false]

/-- Halves of a pair on the two sides of a character do not come together. -/
lemma assemble?_append_char (ps qs : List Piece) (c : Char) :
    assemble? (ps ++ .char c :: qs) =
      (assemble? ps).bind fun a => (assemble? qs).map fun b => a ++ c :: b := by
  induction ps using assemble?.induct with
  | case1 => simp [assemble?]
  | case2 rest => rfl
  | case3 d rest ih =>
      simp only [List.cons_append, assemble?, ih]
      cases assemble? rest <;> cases assemble? qs <;> rfl
  | case4 n hn m rest hm ih =>
      simp only [List.cons_append, assemble?, hn, hm, and_self, if_true, ih]
      cases assemble? rest <;> cases assemble? qs <;> rfl
  | case5 n hn m rest hm => simp [assemble?, hn, hm]
  | case6 n rest hn hrest =>
      rcases rest with _ | ⟨d | m | _, rest⟩
      · simp [assemble?, hn]
      · simp [assemble?, hn]
      · exact absurd rfl (hrest m rest)
      · simp [assemble?, hn]
  | case7 n rest hn hl => rw [List.cons_append, assemble?_low hn hl, assemble?_low hn hl]; rfl
  | case8 n rest hn hl ih =>
      rw [List.cons_append, assemble?_code hn hl, assemble?_code hn hl, ih]
      cases assemble? rest <;> cases assemble? qs <;> rfl

end LabTrust.Json
