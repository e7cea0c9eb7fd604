/-
Blocks of bytes come back from text.

* `Base64.decode?_encode`: the bytes of a text in sixty-four characters.
* `Pem.read?_write`: a written block is read back, whatever label it has, as long as no dash and no
  gap stands in the label. The body has no empty lines, so no part of it is taken for headers.
-/
import LabTrust.Pem
import Mathlib.Tactic.Common

namespace LabTrust

/-! ### Base64 -/

namespace Bytes

/-- The last byte of a number is what it leaves when divided. -/
lemma ofNat_succ (width n : ℕ) (b : UInt8) :
    ofNat (width + 1) (n * 256 + b.toNat) = ofNat width n ++ [b] := by
  have hb : b.toNat < 256 := b.toNat_lt
  have hdiv : (n * 256 + b.toNat) / 256 = n := by omega
  have hmod : (n * 256 + b.toNat) % 256 = b.toNat := by omega
  rw [ofNat, hdiv, hmod, UInt8.ofNat_toNat]

lemma ofNat_one (a : UInt8) : ofNat 1 a.toNat = [a] := by
  simp [ofNat]

lemma ofNat_two (a b : UInt8) : ofNat 2 (a.toNat * 256 + b.toNat) = [a, b] := by
  rw [ofNat_succ, ofNat_one]
  rfl

lemma ofNat_three (a b c : UInt8) :
    ofNat 3 ((a.toNat * 256 + b.toNat) * 256 + c.toNat) = [a, b, c] := by
  rw [ofNat_succ, ofNat_two]
  rfl

end Bytes

namespace Base64

/-- The digits of a number of three bytes add up to it. -/
lemma sum_of_digits (n : ℕ) :
    ((n / 262144 * 64 + n / 4096 % 64) * 64 + n / 64 % 64) * 64 + n % 64 = n := by
  omega

/-- A single byte takes two digits and two signs that fill up. -/
lemma decode?_one (a : UInt8) : decode? (encode [a]) = some [a] := by
  have ha := a.toNat_lt
  have hsum : a.toNat * 16 / 64 * 64 + a.toNat * 16 % 64 = a.toNat * 16 := by omega
  have hlow : a.toNat * 16 % 16 = 0 := by omega
  have hdiv : a.toNat * 16 / 16 = a.toNat := by omega
  simp only [encode, decode?, decodeLast?, value?_digit (show a.toNat * 16 / 64 < 64 by omega),
    value?_digit (show a.toNat * 16 % 64 < 64 by omega), Option.bind_eq_bind, Option.bind_some,
    ne_eq, not_true_eq_false, if_false, hsum, hlow, if_true, hdiv, Bytes.ofNat_one]
  rfl

/-- Two bytes take three digits and one such sign. -/
lemma decode?_two (a b : UInt8) : decode? (encode [a, b]) = some [a, b] := by
  have ha := a.toNat_lt
  have hb := b.toNat_lt
  have htwo := Bytes.ofNat_two a b
  simp only [encode]
  set m := (a.toNat * 256 + b.toNat) * 4 with hm
  have hsum : (m / 4096 * 64 + m / 64 % 64) * 64 + m % 64 = m := by omega
  have hlow : m % 4 = 0 := by omega
  have hdiv : m / 4 = a.toNat * 256 + b.toNat := by omega
  simp only [decode?, decodeLast?, value?_digit (show m / 4096 < 64 by omega),
    value?_digit (show m / 64 % 64 < 64 by omega), value?_digit (show m % 64 < 64 by omega),
    digit_ne_pad (show m % 64 < 64 by omega), Option.bind_eq_bind, Option.bind_some,
    ne_eq, not_true_eq_false, not_false_eq_true, if_false, hsum, hlow, if_true, hdiv, htwo]
  rfl

/-- Three bytes take four digits, and what follows is read after them. -/
lemma decode?_three (a b c : UInt8) {rest : Bytes} (h : decode? (encode rest) = some rest) :
    decode? (encode (a :: b :: c :: rest)) = some (a :: b :: c :: rest) := by
  have ha := a.toNat_lt
  have hb := b.toNat_lt
  have hc := c.toNat_lt
  have hthree := Bytes.ofNat_three a b c
  simp only [encode]
  set m := (a.toNat * 256 + b.toNat) * 256 + c.toNat with hm
  have h₁ := value?_digit (show m / 262144 < 64 by omega)
  have h₂ := value?_digit (show m / 4096 % 64 < 64 by omega)
  have h₃ := value?_digit (show m / 64 % 64 < 64 by omega)
  have h₄ := value?_digit (show m % 64 < 64 by omega)
  -- the last four digits are read by a function of their own
  cases hrest : encode rest with
  | nil =>
      rw [hrest] at h
      obtain rfl : [] = rest := Option.some.inj h
      simp only [decode?, decodeLast?, h₁, h₂, h₃, h₄, digit_ne_pad (show m % 64 < 64 by omega),
        Option.bind_eq_bind, Option.bind_some, ne_eq, not_false_eq_true, if_true, sum_of_digits,
        hthree]
      rfl
  | cons x xs =>
      rw [hrest] at h
      simp only [decode?, h₁, h₂, h₃, h₄, h, Option.bind_eq_bind, Option.bind_some,
        sum_of_digits, hthree]
      rfl

/-- Written bytes come back. -/
lemma decode?_encode (bs : Bytes) : decode? (encode bs) = some bs := by
  induction bs using encode.induct with
  | case1 => rfl
  | case2 a => exact decode?_one a
  | case3 a b => exact decode?_two a b
  | case4 a b c rest ih => exact decode?_three a b c ih

/-- What the body of a block consists of. -/
lemma encode_plain (bs : Bytes) : ∀ c ∈ encode bs, c ≠ '-' ∧ c ≠ '\n' ∧ Text.isBlank c = false := by
  have hdigit : ∀ n < 64, digit n ≠ '-' ∧ digit n ≠ '\n' ∧ Text.isBlank (digit n) = false := by
    decide
  have hpad : '=' ≠ '-' ∧ '=' ≠ '\n' ∧ Text.isBlank '=' = false := by decide
  induction bs using encode.induct with
  | case1 => simp [encode]
  | case2 a =>
      have ha := a.toNat_lt
      have h₁ := hdigit (a.toNat * 16 / 64) (by omega)
      have h₂ := hdigit (a.toNat * 16 % 64) (by omega)
      simp only [encode, List.forall_mem_cons]
      exact ⟨h₁, h₂, hpad, hpad, fun _ h => absurd h List.not_mem_nil⟩
  | case3 a b =>
      have ha := a.toNat_lt
      have hb := b.toNat_lt
      simp only [encode, List.forall_mem_cons]
      exact ⟨hdigit _ (by omega), hdigit _ (by omega), hdigit _ (by omega), hpad,
        fun _ h => absurd h List.not_mem_nil⟩
  | case4 a b c rest ih =>
      have ha := a.toNat_lt
      have hb := b.toNat_lt
      have hc := c.toNat_lt
      simp only [encode, List.forall_mem_cons]
      exact ⟨hdigit _ (by omega), hdigit _ (by omega), hdigit _ (by omega), hdigit _ (by omega), ih⟩

end Base64

/-! ### Blocks -/

namespace Pem

variable {m : Char} {ms before after s : List Char}

/-- The first place of a mark is not before its first character. -/
lemma splitAt?_append (h : m ∉ before) :
    splitAt? (m :: ms) (before ++ after) =
      (splitAt? (m :: ms) after).map fun split => (before ++ split.1, split.2) := by
  induction before with
  | nil => simp
  | cons c before ih =>
      simp only [List.mem_cons, not_or] at h
      obtain ⟨hc, hbefore⟩ := h
      have hmark : (m :: ms).isPrefixOf (c :: (before ++ after)) = false := by
        simp [List.isPrefixOf, hc]
      rw [List.cons_append, splitAt?, hmark, ih hbefore]
      cases splitAt? (m :: ms) after <;> rfl

lemma splitAt?_mark (h : m ∉ before) :
    splitAt? (m :: ms) (before ++ ((m :: ms) ++ after)) = some (before, after) := by
  have hmark : (m :: ms).isPrefixOf (m :: (ms ++ after)) = true := by
    simp [List.isPrefixOf_iff_prefix]
  rw [splitAt?_append h, List.cons_append, splitAt?, hmark]
  simp

lemma splitAt?_dash {mark : List Char} (hmark : mark.head? = some '-') (h : '-' ∉ before)
    (after : List Char) : splitAt? mark (before ++ (mark ++ after)) = some (before, after) := by
  cases mark with
  | nil => simp at hmark
  | cons c ms =>
      obtain rfl : c = '-' := Option.some.inj hmark
      exact splitAt?_mark h

lemma splitAt?_eq_none (h : m ∉ s) : splitAt? (m :: ms) s = none := by
  rw [← List.append_nil s, splitAt?_append h]
  rfl

/-- Characters of a body. -/
def Plain (s : List Char) : Prop := ∀ c ∈ s, c ≠ '-' ∧ c ≠ '\n' ∧ Text.isBlank c = false

lemma Plain.take (h : Plain s) (n : ℕ) : Plain (s.take n) :=
  fun c hc => h c (List.mem_of_mem_take hc)

lemma Plain.drop (h : Plain s) (n : ℕ) : Plain (s.drop n) :=
  fun c hc => h c (List.mem_of_mem_drop hc)

lemma Plain.trimEnd (h : Plain s) : Text.trimEnd s = s := by
  have hdrop : s.reverse.dropWhile Text.isBlank = s.reverse := by
    cases hs : s.reverse with
    | nil => rfl
    | cons c rest =>
        have hc : c ∈ s := List.mem_reverse.mp (hs ▸ List.mem_cons_self)
        rw [List.dropWhile_cons, (h c hc).2.2]
        rfl
  rw [Text.trimEnd, hdrop, List.reverse_reverse]

/-- Wrapped text consists of its characters and ends of lines. -/
lemma mem_wrap {bound : ℕ} {c : Char} (h : c ∈ wrap bound s) : c ∈ s ∨ c = '\n' := by
  induction bound generalizing s with
  | zero => simp [wrap] at h
  | succ bound ih =>
      rw [wrap] at h
      split at h
      · simp at h
      · rcases List.mem_append.mp h with h | h
        · exact Or.inl (List.mem_of_mem_take h)
        · rcases List.mem_cons.mp h with h | h
          · exact Or.inr h
          · rcases ih h with h | h
            · exact Or.inl (List.mem_of_mem_drop h)
            · exact Or.inr h

/-- Wrapped text does not begin with the end of a line. -/
lemma head?_wrap (h : Plain s) (bound : ℕ) : ∀ c, (wrap bound s).head? = some c → c ∈ s := by
  intro c hc
  cases bound with
  | zero => simp [wrap] at hc
  | succ bound =>
      cases s with
      | nil => simp [wrap] at hc
      | cons d rest =>
          simp only [wrap, reduceCtorEq, if_false, List.take_succ_cons, List.cons_append,
            List.head?_cons, Option.some.injEq] at hc
          rw [← hc]
          exact List.mem_cons_self

/-- Wrapped text has no empty line. -/
lemma splitAt?_wrap (h : Plain s) (bound : ℕ) : splitAt? ['\n', '\n'] (wrap bound s) = none := by
  induction bound generalizing s with
  | zero => rfl
  | succ bound ih =>
      rw [wrap]
      split
      · rfl
      · have hfirst : '\n' ∉ s.take 64 := fun hmem => ((h.take 64) _ hmem).2.1 rfl
        have hnext : ['\n', '\n'].isPrefixOf ('\n' :: wrap bound (s.drop 64)) = false := by
          cases hw : wrap bound (s.drop 64) with
          | nil => rfl
          | cons c rest =>
              have hc := (h.drop 64) c (head?_wrap (h.drop 64) bound c (by rw [hw]; rfl))
              simp [List.isPrefixOf, hc.2.1.symm]
        rw [splitAt?_append hfirst, splitAt?, hnext, ih (h.drop 64)]
        rfl

/-- The lines of wrapped text hold its characters in order. -/
lemma splitOn_wrap (h : Plain s) {bound : ℕ} (hbound : s.length ≤ bound) :
    ∃ parts : List (List Char), (wrap bound s).splitOn '\n' = parts ++ [[]] ∧ parts.flatten = s ∧
      ∀ part ∈ parts, Plain part := by
  induction bound generalizing s with
  | zero =>
      obtain rfl := List.eq_nil_of_length_eq_zero (Nat.le_zero.mp hbound)
      exact ⟨[], rfl, rfl, by simp⟩
  | succ bound ih =>
      cases s with
      | nil => exact ⟨[], rfl, rfl, by simp⟩
      | cons c rest =>
          have hlength : ((c :: rest).drop 64).length ≤ bound := by
            simp only [List.length_drop, List.length_cons] at hbound ⊢
            omega
          obtain ⟨parts, hsplit, hflat, hplain⟩ := ih (h.drop 64) hlength
          have hfirst : '\n' ∉ (c :: rest).take 64 := fun hmem => ((h.take 64) _ hmem).2.1 rfl
          refine ⟨(c :: rest).take 64 :: parts, ?_, ?_, ?_⟩
          · rw [wrap, if_neg (List.cons_ne_nil c rest), List.splitOn_append_cons_self, hsplit,
              List.splitOn_eq_singleton hfirst]
            rfl
          · rw [List.flatten_cons, hflat, List.take_append_drop]
          · exact List.forall_mem_cons.mpr ⟨h.take 64, hplain⟩

lemma Plain.line (h : Plain s) : (if s.getLast? = some '\x0d' then s.dropLast else s) = s := by
  refine if_neg fun hlast => ?_
  have hblank := (h _ (List.mem_of_getLast? hlast)).2.2
  exact absurd hblank (by decide)

/-- Wrapped text is put together again. -/
lemma flatMap_lines_wrap (h : Plain s) {bound : ℕ} (hbound : s.length ≤ bound) :
    (lines (wrap bound s)).flatMap Text.trimEnd = s := by
  obtain ⟨parts, hsplit, hflat, hplain⟩ := splitOn_wrap h hbound
  have hlines : lines (wrap bound s) = parts := by
    rw [lines, hsplit]
    simp only [List.getLast?_concat, if_true, List.dropLast_concat]
    exact (List.map_congr_left fun part hpart => (hplain part hpart).line).trans (List.map_id parts)
  have htrim : parts.map Text.trimEnd = parts :=
    (List.map_congr_left fun part hpart => (hplain part hpart).trimEnd).trans (List.map_id parts)
  rw [hlines, List.flatMap_def, htrim, hflat]

lemma splitHeaders_wrap (h : Plain s) (bound : ℕ) :
    splitHeaders (wrap bound s) = ([], wrap bound s) := by
  have hreturn : '\x0d' ∉ wrap bound s := by
    intro hmem
    rcases mem_wrap hmem with hmem | hmem
    · exact absurd (h _ hmem).2.2 (by decide)
    · exact absurd hmem (by decide)
  rw [splitHeaders, splitAt?_wrap h]
  simp only [splitAt?_eq_none hreturn]

/-- A line end before a body, and nothing more, is a gap. -/
lemma dropWhile_isGap_wrap (h : Plain s) (bound : ℕ) (after : List Char) :
    ('\n' :: (wrap bound s ++ '-' :: after)).dropWhile isGap = wrap bound s ++ '-' :: after := by
  have hgap : ∀ c, Text.isBlank c = false → isGap c = false := by
    intro c hc
    by_contra hgap
    simp only [isGap, Bool.or_eq_true, decide_eq_true_eq, Bool.not_eq_false] at hgap
    rcases hgap with ((rfl | rfl) | rfl) | rfl <;> exact absurd hc (by decide)
  rw [List.dropWhile_cons, if_pos (by decide)]
  cases hw : wrap bound s with
  | nil => rfl
  | cons c rest =>
      have hc := h c (head?_wrap h bound c (by rw [hw]; rfl))
      rw [List.cons_append, List.dropWhile_cons, hgap c hc.2.2]
      rfl

/-- The characters of a block as text. -/
lemma toList_write (block : Pem) :
    (write block).toList = "-----BEGIN ".toList ++ (block.label.toList ++ ("-----".toList ++
      ('\n' :: (wrap (Base64.encode block.content).length (Base64.encode block.content) ++
        ("-----END ".toList ++ (block.label.toList ++ ("-----".toList ++ ['\n']))))))) := by
  have hline : "-----\n".toList = "-----".toList ++ ['\n'] := rfl
  obtain ⟨label, content⟩ := block
  obtain ⟨body, hbody⟩ : ∃ body, Base64.encode content = body := ⟨_, rfl⟩
  have hwrite : write ⟨label, content⟩ = "-----BEGIN " ++ label ++ "-----\n" ++
      String.ofList (wrap body.length body) ++ "-----END " ++ label ++ "-----\n" := by
    subst hbody
    rfl
  simp only [hwrite, hbody, hline, String.toList_append, String.toList_ofList, List.append_assoc,
    List.cons_append, List.nil_append]

/-- A written block is read back. -/
lemma read?_write (block : Pem) (hne : block.label.toList ≠ [])
    (hlabel : '-' ∉ block.label.toList) : read? (write block).toList = some block := by
  obtain ⟨label, content⟩ := block
  obtain ⟨body, hbody⟩ : ∃ body, Base64.encode content = body := ⟨_, rfl⟩
  have hplain : Plain body := hbody ▸ Base64.encode_plain content
  have hdecode : Base64.decode? body = some content := hbody ▸ Base64.decode?_encode content
  have hwrap : '-' ∉ wrap body.length body := by
    intro hmem
    rcases mem_wrap hmem with hmem | hmem
    · exact (hplain _ hmem).1 rfl
    · exact absurd hmem (by decide)
  have htext := toList_write ⟨label, content⟩
  rw [hbody] at htext
  have hbegin : ∀ rest, splitAt? "-----BEGIN ".toList ("-----BEGIN ".toList ++ rest) =
      some ([], rest) := splitAt?_dash rfl List.not_mem_nil
  have hgap : ∀ rest, ('\n' :: (wrap body.length body ++ ("-----END ".toList ++ rest))).dropWhile
      isGap = wrap body.length body ++ ("-----END ".toList ++ rest) :=
    fun rest => dropWhile_isGap_wrap hplain body.length ("----END ".toList ++ rest)
  have hmark : "-----".toList.head? = some '-' := rfl
  have hend : "-----END ".toList.head? = some '-' := rfl
  have hheaders : lines [] = [] := rfl
  rw [htext, read?, hbegin]
  simp only [Option.bind_eq_bind, Option.bind_some, splitAt?_dash hmark hlabel, hgap,
    splitAt?_dash hend hwrap, splitHeaders_wrap hplain,
    flatMap_lines_wrap hplain (Nat.le_refl body.length), hdecode, hheaders]
  simp [hne]

end Pem

end LabTrust
