/-
Strings of TOML that were written are read back.

* `Spells`: what may stand between the marks of a string, and the text that it stands for.
* `Spells.line?`, `Spells.lines?`: the two readers of strings follow it, up to the closing marks.
* `spells_escaped`, `spells_self`: what the writer puts between the marks, with escapes and without.
* `string?_quoteAs`: whichever form the writer chooses for a text, the text is read back.
-/
import LabTrust.Toml.Writer
import Mathlib.Tactic.Common

namespace LabTrust.Toml

/-! ### What stands between marks -/

/-- What may stand between the marks of a string behind `row` marks, and the text that it stands
for. Escapes belong to double quotes; on several lines there may be line feeds, and no more than two
marks in a row. -/
inductive Spells (mark : Char) (lines : Bool) : ℕ → List Char → List Char → Prop
  | nil {row : ℕ} : Spells mark lines row [] []
  | plain {row : ℕ} {c : Char} {w s : List Char} (other : c ≠ mark)
      (slash : mark = '"' → c ≠ '\\') (char : isPlain c = true)
      (tail : Spells mark lines 0 w s) : Spells mark lines row (c :: w) (c :: s)
  | feed {row : ℕ} {w s : List Char} (several : lines = true) (tail : Spells mark lines 0 w s) :
      Spells mark lines row ('\n' :: w) ('\n' :: s)
  | mark {row : ℕ} {w s : List Char} (several : lines = true) (few : row < 2)
      (tail : Spells mark lines (row + 1) w s) : Spells mark lines row (mark :: w) (mark :: s)
  | escape {row : ℕ} {c : Char} {e w s : List Char} (quote : mark = '"')
      (char : ∀ t, escape? (e ++ t) = some (c, t)) (tail : Spells mark lines 0 w s) :
      Spells mark lines row ('\\' :: (e ++ w)) (c :: s)

/-- The marks of strings. -/
abbrev IsMark (mark : Char) : Prop := mark = '"' ∨ mark = apostrophe

variable {mark c : Char} {lines : Bool} {row fuel : ℕ} {w s rest e : List Char}

lemma IsMark.ne_feed (h : IsMark mark) : mark ≠ '\n' := by
  rcases h with rfl | rfl <;> decide

lemma IsMark.ne_slash (h : IsMark mark) : mark ≠ '\\' := by
  rcases h with rfl | rfl <;> decide

lemma ne_of_isPlain (h : isPlain c = true) : c ≠ '\n' ∧ c ≠ '\x0d' :=
  ⟨by rintro rfl; simp [isPlain] at h, by rintro rfl; simp [isPlain] at h⟩

lemma lineEnd?_of_ne (hfeed : c ≠ '\n') (hreturn : c ≠ '\x0d') :
    lineEnd? (c :: rest) = none := by
  rw [lineEnd?]
  · simpa using hfeed
  · simp [hreturn]

/-- The reader of what stands behind a backslash goes on behind the escape. -/
lemma joinedLine?_of_escape? {p : Char × List Char} (h : escape? w = some p) :
    joinedLine? w = none := by
  cases w with
  | nil => simp [escape?] at h
  | cons c w =>
      by_cases hc : isGap c = true ∨ c = '\n' ∨ c = '\x0d'
      · -- No blank and no line end is the letter of an escape.
        rcases hc with hgap | rfl | rfl
        · rcases (by simpa [isGap] using hgap : c = ' ' ∨ c = '\t') with rfl | rfl <;>
            simp [escape?] at h
        · simp [escape?] at h
        · simp [escape?] at h
      · obtain ⟨hgap, hfeed, hreturn⟩ := by simpa only [not_or] using hc
        rw [joinedLine?, List.dropWhile_cons_of_neg hgap, lineEnd?_of_ne hfeed hreturn]
        rfl

/-! ### Strings of one line -/

/-- A string of one line ends at its mark. -/
lemma Spells.line? (h : Spells mark false row w s) (hmark : IsMark mark) (hfuel : w.length < fuel) :
    line? mark fuel (w ++ mark :: rest) = some (s, rest) := by
  induction h generalizing fuel with
  | nil =>
      obtain ⟨n, rfl⟩ := Nat.exists_eq_add_one_of_ne_zero (Nat.ne_zero_of_lt hfuel)
      rw [List.nil_append, Toml.line?, if_pos rfl]
  | @plain row c w s other slash char _ ih =>
      obtain ⟨n, rfl⟩ := Nat.exists_eq_add_one_of_ne_zero (Nat.ne_zero_of_lt hfuel)
      have hslash : ¬ (c = '\\' ∧ mark = '"') := fun hand => slash hand.2 hand.1
      rw [List.cons_append, Toml.line?, if_neg other, if_neg hslash, if_pos char,
        ih (by simpa using hfuel)]
      rfl
  | feed several => cases several
  | mark several => cases several
  | @escape row c e w s quote char _ ih =>
      obtain ⟨n, rfl⟩ := Nat.exists_eq_add_one_of_ne_zero (Nat.ne_zero_of_lt hfuel)
      have htail : Toml.line? mark n (w ++ mark :: rest) = some (s, rest) :=
        ih (by rw [List.length_cons, List.length_append] at hfuel; omega)
      rw [List.cons_append, Toml.line?, if_neg hmark.ne_slash.symm, if_pos ⟨rfl, quote⟩,
        List.append_assoc, char]
      simp only [Option.bind_some, htail, Option.map_some]

/-- A string of one line holds no mark of its own at its front. -/
lemma Spells.head?_ne (h : Spells mark false row w s) (hmark : IsMark mark) :
    w.head? ≠ some mark := by
  cases h with
  | nil => simp
  | plain other => simpa using other
  | feed several => cases several
  | mark several => cases several
  | escape => simpa using hmark.ne_slash.symm

/-! ### Strings of several lines -/

/-- Either nothing but marks is left, and no more than two in a row, or the row ends before the
string does. -/
lemma Spells.row_le (h : Spells mark lines row w s) (hmark : IsMark mark) (hrow : row ≤ 2) :
    (∃ n, row + n ≤ 2 ∧ w = List.replicate n mark ∧ s = List.replicate n mark) ∨
      ∀ x, row + ((w ++ x).takeWhile (· = mark)).length ≤ 2 := by
  induction h with
  | nil => exact .inl ⟨0, hrow, rfl, rfl⟩
  | plain other => exact .inr fun x => by simpa [other] using hrow
  | feed => exact .inr fun x => by simpa [hmark.ne_feed.symm] using hrow
  | escape => exact .inr fun x => by simpa [hmark.ne_slash.symm] using hrow
  | mark _ few _ ih =>
      rcases ih (by omega) with ⟨n, hn, rfl, rfl⟩ | hends
      · exact .inl ⟨n + 1, by omega, rfl, rfl⟩
      · refine .inr fun x => ?_
        have := hends x
        simp only [List.cons_append, List.takeWhile_cons, decide_true, if_true, List.length_cons]
        omega

/-- Up to two marks right before the closing ones belong to the string. -/
lemma lines?_replicate {n : ℕ} (hn : n ≤ 2) (hrest : rest.head? ≠ some mark) :
    lines? mark (fuel + 1) (List.replicate n mark ++ (List.replicate 3 mark ++ rest)) =
      some (List.replicate n mark, rest) := by
  have hrow : ((List.replicate (n + 3) mark ++ rest).takeWhile (· = mark)).length = n + 3 := by
    rw [List.takeWhile_append_of_pos (by simp), List.length_append, List.length_replicate]
    cases rest with
    | nil => rfl
    | cons c rest => rw [List.takeWhile_cons_of_neg (by simpa using hrest)]; rfl
  rw [← List.append_assoc, List.replicate_append_replicate]
  rw [show n + 3 = n + 2 + 1 from rfl, List.replicate_succ, List.cons_append] at hrow ⊢
  rw [lines?, if_pos rfl]
  simp only [hrow]
  rw [if_pos (by omega), show min (n + 2 + 1 - 3) 2 = n by omega, List.drop_left' (by simp)]

/-- A string of several lines ends at its three marks. -/
lemma Spells.lines? (h : Spells mark lines row w s) (hmark : IsMark mark) (hrow : row ≤ 2)
    (hfuel : w.length < fuel) (hrest : rest.head? ≠ some mark) :
    lines? mark fuel (w ++ (List.replicate 3 mark ++ rest)) = some (s, rest) := by
  induction h generalizing fuel with
  | nil =>
      obtain ⟨n, rfl⟩ := Nat.exists_eq_add_one_of_ne_zero (Nat.ne_zero_of_lt hfuel)
      exact lines?_replicate (Nat.zero_le 2) hrest
  | @plain row c w s other slash char _ ih =>
      obtain ⟨n, rfl⟩ := Nat.exists_eq_add_one_of_ne_zero (Nat.ne_zero_of_lt hfuel)
      have hslash : ¬ (c = '\\' ∧ mark = '"') := fun hand => slash hand.2 hand.1
      have hend := ne_of_isPlain char
      have htail : Toml.lines? mark n (w ++ (List.replicate 3 mark ++ rest)) = some (s, rest) :=
        ih (Nat.zero_le 2) (by simpa using hfuel)
      rw [List.cons_append, Toml.lines?, if_neg other, if_neg hslash]
      simp only [lineEnd?_of_ne hend.1 hend.2, if_pos char, htail, Option.map_some]
  | @feed row w s several _ ih =>
      obtain ⟨n, rfl⟩ := Nat.exists_eq_add_one_of_ne_zero (Nat.ne_zero_of_lt hfuel)
      have htail : Toml.lines? mark n (w ++ (List.replicate 3 mark ++ rest)) = some (s, rest) :=
        ih (Nat.zero_le 2) (by simpa using hfuel)
      rw [List.cons_append, Toml.lines?, if_neg hmark.ne_feed.symm,
        if_neg fun hand => absurd hand.1 (by decide)]
      simp only [lineEnd?, htail, Option.map_some]
  | @mark row w s several few tail ih =>
      obtain ⟨n, rfl⟩ := Nat.exists_eq_add_one_of_ne_zero (Nat.ne_zero_of_lt hfuel)
      have htail : Toml.lines? mark n (w ++ (List.replicate 3 mark ++ rest)) = some (s, rest) :=
        ih (by omega) (by simpa using hfuel)
      -- The marks that follow close the string if nothing else does before them.
      rcases tail.row_le hmark (by omega) with ⟨k, hk, rfl, rfl⟩ | hends
      · exact lines?_replicate (n := k + 1) (by omega) hrest
      · have hrow := hends (List.replicate 3 mark ++ rest)
        rw [List.cons_append, Toml.lines?, if_pos rfl]
        simp only [List.takeWhile_cons, decide_true, if_true, List.length_cons]
        rw [if_neg (by omega), htail]
        rfl
  | @escape row c e w s quote char _ ih =>
      obtain ⟨n, rfl⟩ := Nat.exists_eq_add_one_of_ne_zero (Nat.ne_zero_of_lt hfuel)
      have htail : Toml.lines? mark n (w ++ (List.replicate 3 mark ++ rest)) = some (s, rest) :=
        ih (Nat.zero_le 2) (by rw [List.length_cons, List.length_append] at hfuel; omega)
      rw [List.cons_append, Toml.lines?, if_neg hmark.ne_slash.symm, if_pos ⟨rfl, quote⟩,
        List.append_assoc]
      simp only [joinedLine?_of_escape? (char _), char, Option.bind_some, htail, Option.map_some]

/-- What spells a text without line feeds does not begin with a line end. -/
lemma Spells.lineEnd?_eq_none (h : Spells mark lines row w s) (hmark : IsMark mark)
    (hfeed : '\n' ∉ s) : lineEnd? (w ++ mark :: rest) = none := by
  have hreturn : mark ≠ '\x0d' := by rcases hmark with rfl | rfl <;> decide
  cases h with
  | nil => exact lineEnd?_of_ne hmark.ne_feed hreturn
  | plain _ _ char => exact lineEnd?_of_ne (ne_of_isPlain char).1 (ne_of_isPlain char).2
  | feed => simp at hfeed
  | mark => exact lineEnd?_of_ne hmark.ne_feed hreturn
  | escape => exact lineEnd?_of_ne (by decide) (by decide)

/-! ### What the writer puts between marks -/

/-- Four hex digits spell a small code. -/
lemma code?_codeDigits (hc : c.toNat < 128) : code? 4 (codeDigits c.toNat ++ w) = some (c, w) := by
  have hdigits : ∀ n < 128, hexNumber? (codeDigits n) = some n := by decide
  have htake : (codeDigits c.toNat ++ w).take 4 = codeDigits c.toNat := rfl
  have hwidth : (codeDigits c.toNat).length = 4 := rfl
  rw [code?, htake, if_pos hwidth, hdigits _ hc, Option.bind_some, if_pos (by omega),
    Char.ofNat_toNat]
  rfl

/-- The writer's escapes are read as the character that they stand for. -/
lemma escape?_of_escapeOf? (h : escapeOf? lines c = some e) :
    ∃ e', e = '\\' :: e' ∧ ∀ t, escape? (e' ++ t) = some (c, t) := by
  unfold escapeOf? at h
  split_ifs at h with hb ht hn hlines hf hr hs hcode
  all_goals obtain rfl := Option.some.inj h
  -- First the escapes of one letter, then the codes.
  all_goals try (subst_vars; exact ⟨_, rfl, fun _ => rfl⟩)
  exact ⟨_, rfl, fun t => by simpa [escape?] using code?_codeDigits (by omega)⟩

/-- A character without an escape may stand between double quotes as it is. -/
lemma of_escapeOf?_eq_none (h : escapeOf? lines c = none) :
    c ≠ '\\' ∧ (isPlain c = true ∨ c = '\n' ∧ lines = true) := by
  unfold escapeOf? at h
  split_ifs at h with hb ht hn hlines hf hr hs hcode
  · exact ⟨by rw [hn]; decide, .inr ⟨hn, hlines⟩⟩
  · refine ⟨hs, .inl ?_⟩
    have hlow : 0x20 ≤ c.toNat := by omega
    have hdelete : c.toNat ≠ 0x7f := by omega
    simp [isPlain, hlow, hdelete]

/-- What the writer puts between double quotes spells the text. -/
lemma spells_escaped {rows : ℕ} (hrow : row ≤ rows) (hrows : rows ≤ 2)
    (hline : lines = false → rows = 0) : Spells '"' lines row (escaped lines rows row s) s := by
  induction s generalizing row with
  | nil => exact .nil
  | cons c s ih =>
      by_cases hc : c = '"'
      · subst hc
        by_cases hfew : row < rows
        · have hlines : lines = true := by
            by_contra hshort
            exact absurd (hline (by simpa using hshort)) (by omega)
          rw [escaped, if_pos rfl, if_pos hfew]
          exact .mark hlines (by omega) (ih hfew)
        · rw [escaped, if_pos rfl, if_neg hfew]
          exact .escape (e := ['"']) rfl (fun _ => rfl) (ih (Nat.zero_le rows))
      · rw [escaped, if_neg hc]
        cases hesc : escapeOf? lines c with
        | some e =>
            obtain ⟨e', rfl, hread⟩ := escape?_of_escapeOf? hesc
            exact .escape rfl hread (ih (Nat.zero_le rows))
        | none =>
            obtain ⟨hslash, hplain | ⟨rfl, hlines⟩⟩ := of_escapeOf?_eq_none hesc
            · exact .plain hc (fun _ => hslash) hplain (ih (Nat.zero_le rows))
            · exact .feed hlines (ih (Nat.zero_le rows))

lemma le_longestRow : row ≤ longestRow mark row s := by
  induction s generalizing row with
  | nil => exact Nat.le_refl row
  | cons c s ih =>
      rw [longestRow]
      split_ifs
      · exact Nat.le_of_succ_le ih
      · exact Nat.le_max_left row _

/-- A text spells itself between apostrophes if it has no long rows of them. -/
lemma spells_self {most : ℕ} (hcontrol : ∀ c ∈ s, isControl c = false)
    (hrow : longestRow apostrophe row s ≤ most) (hmost : most ≤ 2)
    (hline : lines = false → most = 0 ∧ '\n' ∉ s) : Spells apostrophe lines row s s := by
  induction s generalizing row with
  | nil => exact .nil
  | cons c s ih =>
      have hrest : ∀ d ∈ s, isControl d = false := fun d hd => hcontrol d (.tail c hd)
      have hfeed : lines = false → most = 0 ∧ '\n' ∉ s := fun h =>
        ⟨(hline h).1, fun hmem => (hline h).2 (.tail c hmem)⟩
      rw [longestRow] at hrow
      by_cases hc : c = apostrophe
      · subst hc
        rw [if_pos rfl] at hrow
        have hle : row + 1 ≤ most := Nat.le_trans le_longestRow hrow
        have hlines : lines = true := by
          by_contra hshort
          exact absurd (hline (by simpa using hshort)).1 (by omega)
        exact .mark hlines (by omega) (ih hrest hrow hfeed)
      · rw [if_neg hc] at hrow
        have htail := ih hrest (Nat.le_trans (Nat.le_max_right row _) hrow) hfeed
        by_cases hn : c = '\n'
        · subst hn
          have hlines : lines = true := by
            by_contra hshort
            exact (hline (by simpa using hshort)).2 (.head s)
          exact .feed hlines htail
        · refine .plain hc (fun hquote => absurd hquote (by decide)) ?_ htail
          have hplain := hcontrol c (.head s)
          simp only [isControl, isPlain] at hplain ⊢
          grind

/-! ### All forms -/

/-- A form without escapes is for texts that have no controls and no long rows of apostrophes. -/
lemma fits_of_formOf (h : formOf s = .literal ∨ formOf s = .literalLines) :
    (∀ c ∈ s, isControl c = false) ∧ longestRow apostrophe 0 s ≤ 2 ∧
      (formOf s = .literal → longestRow apostrophe 0 s = 0 ∧ '\n' ∉ s) := by
  unfold formOf at h ⊢
  grind

/-- A string of one line is read back. -/
lemma string?_of_line (h : Spells mark false 0 w s) (hmark : IsMark mark)
    (hrest : rest.head? ≠ some mark) :
    string? (mark :: (w ++ mark :: rest)) = some (s, rest) := by
  have hread : shortString? (mark :: (w ++ mark :: rest)) = some (s, rest) :=
    (if_pos hmark).trans (h.line? hmark (by rw [List.length_append]; omega))
  have hhead := h.head?_ne hmark
  unfold string?
  split
  next a b c t heq =>
    -- The string does not begin with three marks.
    obtain ⟨rfl, htail⟩ := List.cons.inj heq
    rw [if_neg, hread]
    rintro ⟨-, hb, hc⟩
    rw [hb, hc] at htail
    cases w with
    | nil =>
        rw [List.nil_append, List.cons.injEq] at htail
        exact hrest (by rw [htail.2, List.head?_cons])
    | cons d w =>
        rw [List.cons_append, List.cons.injEq] at htail
        exact hhead (congrArg some htail.1)
  next => exact hread

/-- Three marks begin a string of several lines; a line end right behind them does not count. -/
lemma string?_triple (hmark : IsMark mark) :
    string? (mark :: mark :: mark :: w) =
      Toml.lines? mark (((lineEnd? w).getD w).length + 1) ((lineEnd? w).getD w) :=
  if_pos ⟨hmark, rfl, rfl⟩

/-- A string of several lines is read back. -/
lemma string?_of_lines (h : Spells mark true 0 w s) (hmark : IsMark mark)
    (hrest : rest.head? ≠ some mark) :
    string? (List.replicate 3 mark ++ opening s ++ w ++ List.replicate 3 mark ++ rest) =
      some (s, rest) := by
  obtain ⟨t, ht⟩ : ∃ t, t = w ++ (List.replicate 3 mark ++ rest) := ⟨_, rfl⟩
  have hopening : (lineEnd? (opening s ++ t)).getD (opening s ++ t) = t := by
    rw [opening]
    split_ifs with hfeed
    · rfl
    · have hnone : lineEnd? t = none :=
        ht ▸ h.lineEnd?_eq_none hmark (by simpa using hfeed)
      rw [List.nil_append, hnone, Option.getD_none]
  have hread : Toml.lines? mark (t.length + 1) t = some (s, rest) := by
    rw [ht]
    exact h.lines? hmark (Nat.zero_le 2) (Nat.lt_succ_of_le (by simp)) hrest
  have hall : List.replicate 3 mark ++ opening s ++ w ++ List.replicate 3 mark ++ rest =
      mark :: mark :: mark :: (opening s ++ t) := by simp [ht]
  rw [hall, string?_triple hmark, hopening, hread]

/-- Whichever form the writer chooses for a text, the text is read back. -/
theorem string?_quoteAs (hquote : rest.head? ≠ some '"')
    (hapostrophe : rest.head? ≠ some apostrophe) :
    string? (quoteAs (formOf s) s ++ rest) = some (s, rest) := by
  cases hform : formOf s with
  | basic =>
      have hspells : Spells '"' false 0 (escaped false 0 0 s) s :=
        spells_escaped (Nat.le_refl 0) (Nat.zero_le 2) fun _ => rfl
      simpa [quoteAs] using string?_of_line hspells (.inl rfl) hquote
  | literal =>
      obtain ⟨hcontrol, -, hline⟩ := fits_of_formOf (.inl hform)
      obtain ⟨hrow, hfeed⟩ := hline hform
      have hspells : Spells apostrophe false 0 s s :=
        spells_self hcontrol (Nat.le_of_eq hrow) (Nat.zero_le 2) fun _ => ⟨rfl, hfeed⟩
      simpa [quoteAs] using string?_of_line hspells (.inr rfl) hapostrophe
  | basicLines =>
      have hspells : Spells '"' true 0 (escaped true 2 0 s) s :=
        spells_escaped (Nat.zero_le 2) (Nat.le_refl 2) nofun
      exact string?_of_lines hspells (.inl rfl) hquote
  | literalLines =>
      obtain ⟨hcontrol, hrow, -⟩ := fits_of_formOf (.inr hform)
      have hspells : Spells apostrophe true 0 s s :=
        spells_self hcontrol hrow (Nat.le_refl 2) nofun
      exact string?_of_lines hspells (.inr rfl) hapostrophe

end LabTrust.Toml
