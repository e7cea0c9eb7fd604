/-
Steps of paths.

A file system follows the steps of a path one after the other, so what two paths have to do with
each other shows in their steps:
* `steps_join`: joining a name adds it as the last step.
* `steps_withSuffix`: a suffix changes the last step only, and `upper` gives the steps before it.
* `parent?_join`: the parent of a joined name is the left side without its trailing trivial parts;
  `ladder_join` lists all paths above it.
* `steps_of_mem_chain`: the paths above a path take the first of its steps.
-/
import LabTrust.Store.Layout
import Mathlib.Tactic.Common

namespace LabTrust

namespace Path

/-- A text that names an entry of a directory. -/
structure IsName (s : List Char) : Prop where
  ne_nil : s ≠ []
  slash : '/' ∉ s
  ne_here : s ≠ ['.']
  ne_up : s ≠ ['.', '.']

/-! ### Steps -/

@[simp] lemma steps_nil : (⟨[]⟩ : Path).steps = [] := by
  simp [steps, parts]

/-- A slash divides the steps. -/
lemma steps_append_slash (s t : List Char) :
    (⟨s ++ '/' :: t⟩ : Path).steps = (⟨s⟩ : Path).steps ++ (⟨t⟩ : Path).steps := by
  simp [steps, parts, List.splitOn_append_cons_self, List.filter_append]

/-- A slash at the end is no step. -/
lemma steps_append_singleton_slash (s : List Char) :
    (⟨s ++ ['/']⟩ : Path).steps = (⟨s⟩ : Path).steps := by
  rw [steps_append_slash, steps_nil, List.append_nil]

lemma steps_of_slash_notMem {s : List Char} (h : '/' ∉ s) (hs : s ≠ []) :
    (⟨s⟩ : Path).steps = [s] := by
  rw [steps, parts, List.splitOn_eq_singleton h]
  simp [hs]

lemma IsName.steps_eq {s : List Char} (h : IsName s) : (⟨s⟩ : Path).steps = [s] :=
  steps_of_slash_notMem h.slash h.ne_nil

lemma IsName.isAbsolute_eq {s : List Char} (h : IsName s) : (⟨s⟩ : Path).isAbsolute = false := by
  cases s with
  | nil => rfl
  | cons c s =>
      have hc : c ≠ '/' := fun e => h.slash (e ▸ List.mem_cons_self)
      simp [isAbsolute, hc]

/-- Joining a name puts a slash before it, unless there is one or nothing stands before it. -/
lemma join_name (p : Path) {n : List Char} (h : IsName n) :
    (p.chars = [] ∧ p.join ⟨n⟩ = ⟨n⟩) ∨
      ∃ s, p.join ⟨n⟩ = ⟨s ++ '/' :: n⟩ ∧ (p.chars = s ++ ['/'] ∨ p.chars = s ∧ s ≠ []) := by
  obtain ⟨s⟩ := p
  by_cases hp : s = []
  · exact Or.inl ⟨hp, by simp [join, hp]⟩
  by_cases hl : s.getLast? = some '/'
  · obtain ⟨t, rfl⟩ := List.getLast?_eq_some_iff.mp hl
    exact Or.inr ⟨t, by simp [join, h.isAbsolute_eq], Or.inl rfl⟩
  · exact Or.inr ⟨s, join_of_relative h.isAbsolute_eq hp hl, Or.inr ⟨rfl, hp⟩⟩

/-- Joining a name adds it as the last step. -/
lemma steps_join (p : Path) {n : List Char} (h : IsName n) :
    (p.join ⟨n⟩).steps = p.steps ++ [n] := by
  obtain ⟨t⟩ := p
  rcases join_name ⟨t⟩ h with ⟨rfl, hjoin⟩ | ⟨s, hjoin, rfl | ⟨rfl, -⟩⟩
  · rw [hjoin, h.steps_eq, steps_nil, List.nil_append]
  · rw [hjoin, steps_append_slash, steps_append_singleton_slash, h.steps_eq]
  · rw [hjoin, steps_append_slash, h.steps_eq]

/-- Joining a name does not change where a path starts. -/
lemma isAbsolute_join (p : Path) {n : List Char} (h : IsName n) :
    (p.join ⟨n⟩).isAbsolute = p.isAbsolute := by
  obtain ⟨t⟩ := p
  rcases join_name ⟨t⟩ h with ⟨rfl, hjoin⟩ | ⟨s, hjoin, rfl | ⟨rfl, hs⟩⟩
  · rw [hjoin, h.isAbsolute_eq]
    rfl
  · rw [hjoin]
    cases s <;> simp [isAbsolute]
  · rw [hjoin]
    cases t with
    | nil => exact absurd rfl hs
    | cons c t => simp [isAbsolute]

lemma prefix_join (p : Path) {n : List Char} (h : IsName n) : p.chars <+: (p.join ⟨n⟩).chars := by
  rcases join_name p h with ⟨hnil, -⟩ | ⟨s, hjoin, hp | ⟨hp, -⟩⟩
  · rw [hnil]
    exact List.nil_prefix
  · rw [hjoin, hp]
    exact ⟨n, by simp⟩
  · rw [hjoin, hp]
    exact List.prefix_append _ _

lemma join_ne_nil (p : Path) {n : List Char} (h : IsName n) : (p.join ⟨n⟩).chars ≠ [] := by
  intro hnil
  have hsteps := steps_join p h
  rw [show p.join ⟨n⟩ = ⟨[]⟩ from congrArg Path.mk hnil, steps_nil] at hsteps
  simp at hsteps

/-! ### Names of nodes -/

/-- The parts of a path hold no slash. -/
lemma slash_notMem_of_mem_parts {p : Path} {part : List Char} (h : part ∈ p.parts) :
    '/' ∉ part := by
  obtain ⟨s⟩ := p
  rw [parts] at h
  induction s generalizing part with
  | nil => simp_all
  | cons c s ih =>
      rw [List.splitOn_cons_eq_if_modifyHead] at h
      split at h
      · rcases List.mem_cons.mp h with rfl | h
        · simp
        · exact ih h
      · next hc =>
        obtain ⟨x, xs, hx⟩ := List.exists_cons_of_ne_nil (List.splitOn_ne_nil '/' s)
        simp only [hx, List.modifyHead_cons, List.mem_cons] at h ih
        rcases h with rfl | h
        · have := ih (Or.inl rfl)
          have hc' : ¬ '/' = c := fun e => hc (by simp [e.symm])
          simp [this, hc']
        · exact ih (Or.inr h)

/-- A path that consists of one name is that name. -/
lemma isName_of_components_eq {s : List Char} (h : (⟨s⟩ : Path).components = [.name s]) :
    IsName s := by
  have hfilter : (⟨s⟩ : Path).parts.filterMap Component.ofPart? = [.name s] := by
    rw [components] at h
    split at h
    · simp at h
    · split at h
      · simp at h
      · exact h
  have hmem : Component.name s ∈ (⟨s⟩ : Path).parts.filterMap Component.ofPart? := by
    rw [hfilter]; exact List.mem_cons_self
  obtain ⟨part, hpart, hof⟩ := List.mem_filterMap.mp hmem
  have hcase : part = s ∧ ¬ (part = [] ∨ part = ['.']) ∧ part ≠ ['.', '.'] := by
    rw [Component.ofPart?] at hof
    split at hof
    · simp at hof
    · split at hof <;> simp_all
  obtain ⟨rfl, hne, hup⟩ := hcase
  exact ⟨fun e => hne (Or.inl e), slash_notMem_of_mem_parts hpart, fun e => hne (Or.inr e), hup⟩

lemma IsName.ofPart?_eq {s : List Char} (h : IsName s) : Component.ofPart? s = some (.name s) := by
  rw [Component.ofPart?, if_neg, if_neg h.ne_up]
  rintro (e | e)
  · exact h.ne_nil e
  · exact h.ne_here e

lemma IsName.components_eq {s : List Char} (h : IsName s) :
    (⟨s⟩ : Path).components = [.name s] := by
  have hparts : (⟨s⟩ : Path).parts = [s] := List.splitOn_eq_singleton h.slash
  rw [components, h.isAbsolute_eq, hparts]
  simp [h.ne_here, h.ofPart?_eq]

/-! ### Suffixes -/

/-- The last part of a path, as spelled; empty if the path ends with a slash. -/
def stem (p : Path) : List Char := p.parts.getLast?.getD []

/-- The steps of a path before its last part. -/
def upper (p : Path) : List (List Char) := p.parts.dropLast.filter (· ≠ [])

lemma parts_append {s t : List Char} (ht : '/' ∉ t) :
    (⟨s ++ t⟩ : Path).parts = (⟨s⟩ : Path).parts.dropLast ++ [(⟨s⟩ : Path).stem ++ t] := by
  simp only [stem, parts]
  induction s with
  | nil => simp [List.splitOn_eq_singleton ht]
  | cons c s ih =>
      obtain ⟨x, xs, hx⟩ := List.exists_cons_of_ne_nil (List.splitOn_ne_nil '/' s)
      rw [List.cons_append, List.splitOn_cons_eq_if_modifyHead, List.splitOn_cons_eq_if_modifyHead,
        ih, hx]
      split
      · simp [List.dropLast_cons_of_ne_nil]
      · cases xs <;> simp

/-- A suffix changes the last step only. -/
lemma steps_withSuffix (p : Path) {suffix : String} (h : '/' ∉ suffix.toList)
    (hne : suffix.toList ≠ []) :
    (p.withSuffix suffix).steps = p.upper ++ [p.stem ++ suffix.toList] := by
  rw [withSuffix, steps, parts_append h, List.filter_append, upper]
  simp [hne]

lemma isAbsolute_withSuffix (p : Path) {suffix : String} (h : '/' ∉ suffix.toList) :
    (p.withSuffix suffix).isAbsolute = p.isAbsolute := by
  obtain ⟨s⟩ := p
  cases s with
  | nil =>
      have hhead : suffix.toList.head? ≠ some '/' := fun e => h (List.mem_of_mem_head? e)
      simp [withSuffix, isAbsolute, hhead]
  | cons c s => simp [withSuffix, isAbsolute]

/-- The last part of a path that ends with a joined name is this name. -/
lemma parts_join (p : Path) {n : List Char} (h : IsName n) :
    ∃ ps, (p.join ⟨n⟩).parts = ps ++ [n] ∧ ps.filter (· ≠ []) = p.steps := by
  have hn : n.splitOn '/' = [n] := List.splitOn_eq_singleton h.slash
  obtain ⟨t⟩ := p
  rcases join_name ⟨t⟩ h with ⟨rfl, hjoin⟩ | ⟨s, hjoin, ht⟩
  · exact ⟨[], by rw [hjoin, parts, hn]; rfl, by simp⟩
  · refine ⟨s.splitOn '/', by rw [hjoin, parts, List.splitOn_append_cons_self, hn], ?_⟩
    rcases ht with rfl | ⟨rfl, -⟩
    · rw [steps_append_singleton_slash]; rfl
    · rfl

lemma upper_join (p : Path) {n : List Char} (h : IsName n) : (p.join ⟨n⟩).upper = p.steps := by
  obtain ⟨ps, hps, hsteps⟩ := parts_join p h
  rw [upper, hps, List.dropLast_concat, hsteps]

lemma stem_join (p : Path) {n : List Char} (h : IsName n) : (p.join ⟨n⟩).stem = n := by
  obtain ⟨ps, hps, -⟩ := parts_join p h
  rw [stem, hps]
  simp

/-! ### Parents -/

/-- The text up to the first slash, and what follows this slash. -/
lemma eq_takeWhile_slash (s : List Char) :
    (∃ t, s = s.takeWhile (· ≠ '/') ++ '/' :: t ∧
        s.drop ((s.takeWhile (· ≠ '/')).length + 1) = t) ∨
      ('/' ∉ s ∧ s.takeWhile (· ≠ '/') = s ∧
        s.drop ((s.takeWhile (· ≠ '/')).length + 1) = []) := by
  induction s with
  | nil => simp
  | cons c s ih =>
      by_cases hc : c = '/'
      · subst hc
        exact Or.inl ⟨s, by simp⟩
      · have htake : (c :: s).takeWhile (· ≠ '/') = c :: s.takeWhile (· ≠ '/') := by simp [hc]
        rw [htake]
        rcases ih with ⟨t, hs, hdrop⟩ | ⟨hmem, hs, hdrop⟩
        · refine Or.inl ⟨t, by rw [List.cons_append, ← hs], ?_⟩
          rw [List.length_cons, List.drop_succ_cons, hdrop]
        · refine Or.inr ⟨?_, by rw [hs], by rw [List.length_cons, List.drop_succ_cons, hdrop]⟩
          simp [hmem, Ne.symm hc]

lemma dropTrivial_nil (fuel : ℕ) : dropTrivial fuel [] = [] := by
  cases fuel <;> simp [dropTrivial]

/-- Dropping trivial parts stops at a slash, or drops all. -/
lemma dropTrivial_spec (fuel : ℕ) (body : List Char) :
    ∃ s, body = s ++ dropTrivial fuel body ∧
      (s = [] ∨ s.getLast? = some '/' ∨ dropTrivial fuel body = []) := by
  induction fuel generalizing body with
  | zero => exact ⟨[], rfl, Or.inl rfl⟩
  | succ fuel ih =>
      rw [dropTrivial]
      split
      · rcases eq_takeWhile_slash body with ⟨t, hbody, hdrop⟩ | ⟨-, -, hdrop⟩
        · rw [hdrop]
          obtain ⟨s, hs, hend⟩ := ih t
          refine ⟨body.takeWhile (· ≠ '/') ++ '/' :: s, ?_, Or.inr ?_⟩
          · rw [List.append_assoc, List.cons_append, ← hs]
            exact hbody
          · rcases hend with rfl | hlast | hnil
            · simp
            · exact Or.inl (by simp [List.getLast?_cons, hlast])
            · exact Or.inr hnil
        · rw [hdrop]
          have hnil : dropTrivial fuel [] = [] := dropTrivial_nil fuel
          exact ⟨body, by rw [hnil, List.append_nil], Or.inr (Or.inr hnil)⟩
      · exact ⟨[], rfl, Or.inl rfl⟩

/-- The path without the trivial parts at its end. -/
def trimmed (p : Path) : Path :=
  let body := (p.chars.drop p.leadLength).reverse
  ⟨p.chars.take p.leadLength ++ (dropTrivial body.length body).reverse⟩

/-! ### Parents of joined names -/

lemma IsName.takeWhile_reverse_append {n : List Char} (h : IsName n) {t : List Char}
    (ht : t = [] ∨ ∃ u, t = '/' :: u) :
    (n.reverse ++ t).takeWhile (· ≠ '/') = n.reverse := by
  have hall : ∀ c ∈ n.reverse, decide (c ≠ '/') = true := fun c hc =>
    decide_eq_true fun e => h.slash (e ▸ List.mem_reverse.mp hc)
  rw [List.takeWhile_append_of_pos hall]
  rcases ht with rfl | ⟨u, rfl⟩ <;> simp

/-- A name at the end of a path is not trivial. -/
lemma IsName.dropTrivial_reverse_append {n : List Char} (h : IsName n) {t : List Char}
    (ht : t = [] ∨ ∃ u, t = '/' :: u) (fuel : ℕ) :
    dropTrivial fuel (n.reverse ++ t) = n.reverse ++ t := by
  cases fuel with
  | zero => rfl
  | succ fuel =>
      rw [dropTrivial, h.takeWhile_reverse_append ht, if_neg]
      rintro ⟨-, e | e⟩
      · exact h.ne_nil (by simpa using e)
      · exact h.ne_here (by rw [← List.reverse_reverse n, e]; rfl)

/-- Joining a name does not put a dot in front, or take it away. -/
lemma head?_parts_join (p : Path) {n : List Char} (h : IsName n) :
    (p.join ⟨n⟩).parts.head? = some ['.'] ↔ p.parts.head? = some ['.'] := by
  obtain ⟨t⟩ := p
  rcases join_name ⟨t⟩ h with ⟨rfl, hjoin⟩ | ⟨s, hjoin, ht⟩
  · have hn : (⟨n⟩ : Path).parts = [n] := List.splitOn_eq_singleton h.slash
    rw [hjoin, hn]
    simp [parts, h.ne_here]
  · obtain ⟨x, xs, hx⟩ := List.exists_cons_of_ne_nil (List.splitOn_ne_nil '/' s)
    rcases ht with rfl | ⟨rfl, -⟩ <;> simp [hjoin, parts, List.splitOn_append_cons_self, hx]

lemma leadLength_join (p : Path) {n : List Char} (h : IsName n) :
    (p.join ⟨n⟩).leadLength = p.leadLength := by
  have hhead : ((p.join ⟨n⟩).parts.head? == some ['.']) = (p.parts.head? == some ['.']) :=
    Bool.eq_iff_iff.mpr (by simp only [beq_iff_eq, head?_parts_join p h])
  rw [leadLength, leadLength, isAbsolute_join p h, hhead]

/-- Before a joined name stands the left side; read from the end, a slash comes between them. -/
lemma reverse_drop_join (p : Path) {n : List Char} (h : IsName n) :
    ∃ t, ((p.join ⟨n⟩).chars.drop p.leadLength).reverse = n.reverse ++ t ∧
      (t = [] ∨ ∃ u, t = '/' :: u) ∧
      ((p.chars.drop p.leadLength).reverse = t ∨
        (p.chars.drop p.leadLength).reverse = t.drop 1) ∧
      (p.join ⟨n⟩).chars.take p.leadLength = p.chars.take p.leadLength := by
  obtain ⟨w⟩ := p
  rcases join_name ⟨w⟩ h with ⟨rfl, hjoin⟩ | ⟨s, hjoin, hw⟩
  · have hk : (⟨[]⟩ : Path).leadLength = 0 := by simp [leadLength, isAbsolute, parts]
    exact ⟨[], by simp [hjoin, hk], Or.inl rfl, Or.inl (by simp), by simp [hk]⟩
  have hk : (⟨w⟩ : Path).leadLength ≤ 1 := by rw [leadLength]; split <;> omega
  generalize (⟨w⟩ : Path).leadLength = k at hk
  rw [hjoin]
  by_cases hs : k ≤ s.length
  · refine ⟨'/' :: (s.drop k).reverse, ?_, Or.inr ⟨_, rfl⟩, ?_, ?_⟩
    · simp [List.drop_append_of_le_length hs]
    · rcases hw with rfl | ⟨rfl, -⟩
      · exact Or.inl (by simp [List.drop_append_of_le_length hs])
      · exact Or.inr (by simp)
    · rcases hw with rfl | ⟨rfl, -⟩ <;> simp [List.take_append_of_le_length hs]
  · obtain rfl : s = [] := by rw [← List.length_eq_zero_iff]; omega
    obtain rfl : k = 1 := by simp at hs; omega
    rcases hw with rfl | ⟨-, hne⟩
    · exact ⟨[], by simp, Or.inl rfl, Or.inl (by simp), by simp⟩
    · exact absurd rfl hne

lemma dropTrivial_slash (s : List Char) :
    dropTrivial ('/' :: s).length ('/' :: s) = dropTrivial s.length s := by
  rw [List.length_cons, dropTrivial, if_pos (by simp)]
  simp

/-- The parent of a joined name is the left side without its trivial parts. -/
lemma parent?_join (p : Path) {n : List Char} (h : IsName n) :
    (p.join ⟨n⟩).parent? = some p.trimmed := by
  obtain ⟨t, hbody, ht, hp, htake⟩ := reverse_drop_join p h
  have hne : n.reverse ++ t ≠ [] := by simp [h.ne_nil]
  have habove : (n.reverse ++ t).drop (n.reverse.length + 1) = t.drop 1 := by
    rw [List.drop_append]
    simp
  have hsame : dropTrivial (t.drop 1).length (t.drop 1) =
      dropTrivial (p.chars.drop p.leadLength).reverse.length
        (p.chars.drop p.leadLength).reverse := by
    rcases hp with hp | hp
    · rw [hp]
      rcases ht with rfl | ⟨u, rfl⟩
      · rfl
      · exact (dropTrivial_slash u).symm
    · rw [hp]
  simp only [parent?, leadLength_join p h, hbody, h.dropTrivial_reverse_append ht]
  rw [if_pos hne, h.takeWhile_reverse_append ht, habove, htake, hsame]
  rfl

/-- A path that ends with a joined name has no trivial parts at its end. -/
lemma trimmed_join (p : Path) {n : List Char} (h : IsName n) :
    (p.join ⟨n⟩).trimmed = p.join ⟨n⟩ := by
  obtain ⟨t, hbody, ht, -, -⟩ := reverse_drop_join p h
  simp only [trimmed, leadLength_join p h, hbody, h.dropTrivial_reverse_append ht]
  rw [← hbody, List.reverse_reverse, List.take_append_drop]

/-! ### The paths above a path -/

/-- The lead of a path is empty, a slash, or a dot that is a part of its own. -/
lemma take_leadLength (p : Path) :
    p.leadLength = 0 ∨ (p.isAbsolute = true ∧ p.chars.take p.leadLength = ['/']) ∨
      (p.isAbsolute = false ∧ p.chars.take p.leadLength = ['.'] ∧
        (p.chars = ['.'] ∨ ∃ s, p.chars = ['.'] ++ '/' :: s)) := by
  obtain ⟨s⟩ := p
  cases s with
  | nil => exact Or.inl (by simp [leadLength, isAbsolute, parts])
  | cons c s =>
      by_cases hc : c = '/'
      · subst hc
        exact Or.inr (Or.inl ⟨by simp [isAbsolute], by simp [leadLength, isAbsolute]⟩)
      have habs : (⟨c :: s⟩ : Path).isAbsolute = false := by simp [isAbsolute, hc]
      by_cases hh : (⟨c :: s⟩ : Path).parts.head? = some ['.']
      · refine Or.inr (Or.inr ⟨habs, ?_, ?_⟩)
        all_goals
          simp only [parts, List.splitOn_cons_eq_if_modifyHead, beq_iff_eq, hc, if_false] at hh
          obtain ⟨x, xs, hx⟩ := List.exists_cons_of_ne_nil (List.splitOn_ne_nil '/' s)
          simp only [hx, List.modifyHead_cons, List.head?_cons, Option.some.injEq,
            List.cons.injEq] at hh
          obtain ⟨rfl, rfl⟩ := hh
        · simp [leadLength, parts, List.splitOn_cons_eq_if_modifyHead, hx]
        · have hs : ['/'].intercalate (s.splitOn '/') = s := List.intercalate_splitOn '/'
          rw [hx] at hs
          cases xs with
          | nil => exact Or.inl (by rw [← hs]; simp)
          | cons y ys => exact Or.inr ⟨['/'].intercalate (y :: ys), by rw [← hs]; simp⟩
      · exact Or.inl (by simp [leadLength, habs, hh])

/-- What is kept of a body above its last part, trivial parts left out, begins after a slash of the
body, if anything is kept. -/
lemma exists_slash_of_dropTrivial {body rest above kept : List Char}
    (hrest : dropTrivial body.length body = rest)
    (habove : rest.drop ((rest.takeWhile (· ≠ '/')).length + 1) = above)
    (hkept : dropTrivial above.length above = kept) (hk : kept ≠ []) :
    ∃ u, body = u ++ '/' :: kept := by
  obtain ⟨s, hs, -⟩ := dropTrivial_spec body.length body
  obtain ⟨t, ht, hend⟩ := dropTrivial_spec above.length above
  rw [hrest] at hs
  rw [hkept] at ht hend
  rcases eq_takeWhile_slash rest with ⟨r, hr, hdrop⟩ | ⟨-, -, hdrop⟩
  · obtain rfl : above = r := habove.symm.trans hdrop
    have hbody : body = (s ++ rest.takeWhile (· ≠ '/')) ++ '/' :: (t ++ kept) := by
      rw [← ht, List.append_assoc, ← hr]
      exact hs
    rcases hend with rfl | hlast | hnil
    · exact ⟨_, hbody⟩
    · obtain ⟨v, rfl⟩ := List.getLast?_eq_some_iff.mp hlast
      exact ⟨(s ++ rest.takeWhile (· ≠ '/')) ++ '/' :: v, by rw [hbody]; simp⟩
    · exact absurd hnil hk
  · rw [habove] at hdrop
    rw [hdrop] at ht
    exact absurd (List.append_eq_nil_iff.mp ht.symm).2 hk

/-- A parent is spelled by the beginning of the path up to a slash, or by its lead alone. -/
lemma chars_of_parent? {p q : Path} (h : p.parent? = some q) :
    q.chars.length < p.chars.length ∧
      ((q.chars ≠ [] ∧ ∃ s, p.chars = q.chars ++ '/' :: s) ∨
        q.chars = p.chars.take p.leadLength ∨
        q.chars = [] ∧ p.isAbsolute = false) := by
  simp only [parent?] at h
  set lead := p.chars.take p.leadLength with hlead
  set body := (p.chars.drop p.leadLength).reverse with hbody
  have hp : p.chars = lead ++ body.reverse := by
    rw [hbody, List.reverse_reverse, List.take_append_drop]
  split at h
  · next hne =>
    obtain ⟨s, hs, -⟩ := dropTrivial_spec body.length body
    set rest := dropTrivial body.length body with hrest
    set above := rest.drop ((rest.takeWhile (· ≠ '/')).length + 1) with habove
    set kept := dropTrivial above.length above with hkept
    obtain rfl := Option.some.inj h
    by_cases hk : kept = []
    · refine ⟨?_, Or.inr (Or.inl (by simp [hk]))⟩
      have hlen : body.length ≠ 0 := by
        rw [hs, List.length_append]
        have := List.length_pos_iff.mpr hne
        omega
      rw [hp]
      simp only [hk, List.reverse_nil, List.append_nil, List.length_append, List.length_reverse]
      omega
    · obtain ⟨u, hu⟩ := exists_slash_of_dropTrivial hrest.symm habove.symm hkept.symm hk
      have hq : p.chars = (lead ++ kept.reverse) ++ '/' :: u.reverse := by
        rw [hp, hu]
        simp
      refine ⟨?_, Or.inl ⟨by simp [hk], u.reverse, hq⟩⟩
      rw [hq]
      simp
  · split at h
    · next hdot =>
      obtain rfl := Option.some.inj h
      have hlen : p.chars.length ≠ 0 := by rw [hp, hdot]; simp
      refine ⟨Nat.pos_of_ne_zero hlen, Or.inr (Or.inr ⟨rfl, ?_⟩)⟩
      rcases take_leadLength p with hk | ⟨-, hk⟩ | ⟨habs, -⟩
      · rw [hlead, hk] at hdot
        simp at hdot
      · rw [hlead, hk] at hdot
        simp at hdot
      · exact habs
    · simp at h

/-- The parent of a path takes the first of its steps. -/
lemma steps_of_parent? {p q : Path} (h : p.parent? = some q) :
    q.steps <+: p.steps ∧ q.isAbsolute = p.isAbsolute := by
  obtain ⟨t⟩ := p
  obtain ⟨u⟩ := q
  obtain ⟨-, ⟨hne, s, rfl⟩ | hlead | ⟨rfl, habs⟩⟩ := chars_of_parent? h
  · refine ⟨by rw [steps_append_slash]; exact List.prefix_append _ _, ?_⟩
    cases u with
    | nil => exact absurd rfl hne
    | cons c u => simp [isAbsolute]
  · simp only at hlead
    rcases take_leadLength ⟨t⟩ with hk | ⟨habs, hk⟩ | ⟨habs, hk, ht⟩
    · obtain rfl : u = [] := by rw [hlead, hk]; rfl
      have habs : (⟨t⟩ : Path).isAbsolute = false := by
        by_contra hc
        simp [leadLength, hc] at hk
      exact ⟨by simp, by rw [habs]; rfl⟩
    · obtain rfl : u = ['/'] := hlead.trans hk
      refine ⟨?_, by rw [habs]; rfl⟩
      rw [← List.nil_append ['/'], steps_append_singleton_slash, steps_nil]
      exact List.nil_prefix
    · obtain rfl : u = ['.'] := hlead.trans hk
      refine ⟨?_, by rw [habs]; rfl⟩
      rcases ht with rfl | ⟨s, rfl⟩
      · exact List.prefix_refl _
      · rw [steps_append_slash]
        exact List.prefix_append _ _
  · exact ⟨by simp, by rw [habs]; rfl⟩

/-- The paths above a path, and itself, take the first of its steps. -/
lemma steps_of_mem_chain {bound : ℕ} {p q : Path} (h : q ∈ p.chain bound) :
    q.steps <+: p.steps ∧ q.isAbsolute = p.isAbsolute := by
  induction bound generalizing p with
  | zero => simp [chain] at h
  | succ bound ih =>
      rw [chain] at h
      split at h
      · simp at h
      · next above habove =>
        rcases List.mem_cons.mp h with rfl | h
        · exact ⟨List.prefix_refl _, rfl⟩
        · obtain ⟨hsteps, habs⟩ := ih h
          obtain ⟨hsteps', habs'⟩ := steps_of_parent? habove
          exact ⟨hsteps.trans hsteps', habs.trans habs'⟩

/-- A greater bound than the number of characters changes nothing. -/
lemma chain_bound {bound bound' : ℕ} {p : Path} (h : p.chars.length < bound)
    (h' : p.chars.length < bound') : p.chain bound = p.chain bound' := by
  induction bound generalizing bound' p with
  | zero => omega
  | succ bound ih =>
      cases bound' with
      | zero => omega
      | succ bound' =>
          rw [chain, chain]
          split
          · rfl
          · next above habove =>
            have hlt := (chars_of_parent? habove).1
            exact congrArg (p :: ·) (ih (by omega) (by omega))

/-- A path and the paths above it, from the longest down. -/
def ladder (p : Path) : List Path := p.chain (p.chars.length + 1)

/-- Above a joined name lies what lies above the left side, and itself. -/
lemma ladder_join (p : Path) {n : List Char} (h : IsName n) :
    (p.join ⟨n⟩).ladder = p.join ⟨n⟩ :: p.trimmed.ladder := by
  have hlt := (chars_of_parent? (parent?_join p h)).1
  rw [ladder, chain, parent?_join p h]
  simp only [ladder]
  rw [chain_bound hlt (Nat.lt_succ_self _)]

/-- Leaving out trivial parts at the end leaves out steps at the end, if any. -/
lemma steps_trimmed (p : Path) : p.trimmed.steps <+: p.steps := by
  have habove : ∀ c : Char, IsName [c] → p.trimmed.steps <+: p.steps ++ [[c]] := by
    intro c hc
    rw [← steps_join p hc]
    exact (steps_of_parent? (parent?_join p hc)).1
  -- the trimmed path does not hang on the name that is joined
  rcases List.prefix_concat_iff.mp (habove 'a' ⟨by decide, by decide, by decide, by decide⟩) with
    ha | ha
  · rcases List.prefix_concat_iff.mp (habove 'b' ⟨by decide, by decide, by decide, by decide⟩) with
      hb | hb
    · simp [ha] at hb
    · exact hb
  · exact ha

lemma isAbsolute_trimmed (p : Path) : p.trimmed.isAbsolute = p.isAbsolute := by
  have hc : IsName ['a'] := ⟨by decide, by decide, by decide, by decide⟩
  rw [(steps_of_parent? (parent?_join p hc)).2, isAbsolute_join p hc]

end Path

/-- The names that nodes may have are those of one entry. -/
lemma checkName_eq_ok_iff {name : String} : checkName name = .ok () ↔ Path.IsName name.toList := by
  rw [checkName]
  constructor
  · intro h
    split at h
    · next hc => exact Path.isName_of_components_eq hc
    · simp at h
  · intro h
    rw [if_pos]
    exact h.components_eq

end LabTrust
