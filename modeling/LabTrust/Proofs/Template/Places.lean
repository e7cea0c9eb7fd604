/-
Templates of texts with places between them.

A place is a name between the marks of a value. Where the texts have no mark of a tag in them, the
scanner finds the places and nothing else, whatever else stands in the texts; so the template is
filled in place by place, and one name that stands for nothing stops all of it.
* `Template.Outline`: texts with places between them.
* `Token.scan_source`, `read?_source`: the tokens and the pieces that are found in them.
* `Outline.fillAll_pieces`, `Outline.fillAll_pieces_of_isUnknown`: what becomes of the
  pieces.
* `Template.outline_is_filled_or_refused`: what becomes of the template.
-/
import LabTrust.Proofs.Template.Rendered

namespace LabTrust

namespace Template

/-! ### Outlines -/

/-- A text in which no tag begins. -/
def IsLiteral (s : List Char) : Prop := ∀ c ∈ ['\x7b', '%', '#'], ¬ ['\x7b', c] <:+: s

instance (s : List Char) : Decidable (IsLiteral s) := List.decidableBAll _ _

/-- A name as it may stand in a place: a letter or a line below, then letters, digits and lines. -/
def IsIdentifier (s : List Char) : Prop :=
  ∃ c rest, s = c :: rest ∧ Token.isWordStart c = true ∧ ∀ d ∈ rest, Token.isWordRest d = true

/-- The words that do not stand for a name. -/
def keywords : List String := ["not", "true", "True", "false", "False", "none", "None"]

/-- Texts with places between them: the names of the places, each with the text before it, and the
text after the last place. -/
structure Outline where
  places : List (String × String)
  last : String
  literal : ∀ p ∈ places, IsLiteral p.1.toList ∧ p.1.toList.getLast? ≠ some '\x7b'
  identifier : ∀ p ∈ places, IsIdentifier p.2.toList
  last_literal : IsLiteral last.toList

namespace Outline

/-- The names of the places. -/
def identifiers (o : Outline) : List String := o.places.map Prod.snd

/-- The texts of an outline with something in each place. -/
def fillWith (value : String → String) : List (String × String) → String → String
  | [], last => last
  | (text, name) :: rest, last => text ++ value name ++ fillWith value rest last

/-- A template with an outline: each place is a name between the marks of a value. -/
def source (o : Outline) : String :=
  fillWith (fun name => "\x7b\x7b " ++ name ++ " \x7d\x7d") o.places o.last

/-- The tokens of places and of the text after them. -/
def tokens : List (String × String) → String → List Token
  | [], last => if last = "" then [] else [.data last.toList]
  | (text, name) :: rest, last =>
    .data text.toList :: .valueStart :: .word name :: .valueEnd :: tokens rest last

/-- Their pieces. -/
def pieces : List (String × String) → String → List Piece
  | [], last => if last = "" then [] else [.text last.toList]
  | (text, name) :: rest, last => .text text.toList :: .value (.name name) :: pieces rest last

end Outline

/-! ### Tokens -/

variable {s rest : List Char} {c d : Char}

lemma IsLiteral.tail (h : IsLiteral (c :: s)) : IsLiteral s :=
  fun d hd hwithin => h d hd (hwithin.trans (List.suffix_cons c s).isInfix)

/-- In a literal text no character begins a tag with the next one. -/
lemma IsLiteral.tag?_eq_none (h : IsLiteral (c :: d :: s)) :
    (if c = '\x7b' then Token.tag? d else none) = none := by
  split
  · next hc =>
    subst hc
    have hne : ∀ m ∈ ['\x7b', '%', '#'], d ≠ m := by
      rintro m hm rfl
      exact h d hm ⟨[], s, rfl⟩
    rw [Token.tag?, if_neg (hne _ (by simp)), if_neg (hne _ (by simp)), if_neg (hne _ (by simp))]
  · rfl

namespace Token

/-- A literal text has no tag in it. -/
lemma splitMark_of_isLiteral (h : IsLiteral s) : splitMark s = (s, none) := by
  induction s with
  | nil => rfl
  | cons c s ih =>
      cases s with
      | nil => rfl
      | cons d s =>
          rw [splitMark, h.tag?_eq_none]
          simp only [ih h.tail]

/-- Before a value, a literal text has no tag in it either, unless it ends with half a mark. -/
lemma splitMark_append (h : IsLiteral s) (hlast : s.getLast? ≠ some '\x7b') (rest : List Char) :
    splitMark (s ++ '\x7b' :: '\x7b' :: rest) = (s, some (.value, rest)) := by
  induction s with
  | nil => rfl
  | cons c s ih =>
      cases s with
      | nil =>
          have hc : c ≠ '\x7b' := by simpa using hlast
          rw [List.singleton_append, splitMark, if_neg hc]
          rfl
      | cons d s =>
          have hrest := ih h.tail (by simpa using hlast)
          rw [List.cons_append] at hrest
          rw [List.cons_append, List.cons_append, splitMark, h.tag?_eq_none]
          simp only [hrest]

lemma scanFrom_outside {fuel : ℕ} (hs : s ≠ []) : scanFrom (fuel + 1) (.outside false) s =
    (outsideStep s).bind fun (tokens, place, rest) =>
      (scanFrom fuel place rest).map (tokens ++ ·) := by
  cases s with
  | nil => exact absurd rfl hs
  | cons c s => rfl

lemma scanFrom_space (fuel : ℕ) (rest : List Char) :
    scanFrom (fuel + 1) .inValue (' ' :: rest) = scanFrom fuel .inValue rest := rfl

lemma scanFrom_valueEnd (fuel : ℕ) (rest : List Char) :
    scanFrom (fuel + 1) .inValue ('\x7d' :: '\x7d' :: rest) =
      (scanFrom fuel (.outside false) rest).map (.valueEnd :: ·) := rfl

/-- A character that words begin with begins nothing else. -/
lemma ne_of_isWordStart (hc : isWordStart c = true) (hd : isWordStart d = false) : c ≠ d := by
  rintro rfl
  simp [hc] at hd

lemma isDigit_of_isWordStart (hc : isWordStart c = true) : c.isDigit = false := by
  rw [← Bool.not_eq_true]
  intro hdigit
  simp only [isWordStart, Char.isAlpha, Char.isUpper, Char.isLower, Char.isDigit, Bool.or_eq_true,
    Bool.and_eq_true, decide_eq_true_eq, ge_iff_le, UInt32.le_iff_toNat_le] at hc hdigit
  rcases hc with rfl | hc
  · exact absurd hdigit (by decide)
  · simp only [Char.reduceVal, UInt32.reduceToNat] at hc hdigit
    omega

/-- A word is the lexeme at the front of a text that goes on with a blank. -/
lemma lexeme?_word (hc : isWordStart c = true) (hword : ∀ d ∈ s, isWordRest d = true) :
    lexeme? (c :: s ++ ' ' :: rest) = some (.word (String.ofList (c :: s)), ' ' :: rest) := by
  have hne : ∀ d, isWordStart d = false → c ≠ d := fun d hd => ne_of_isWordStart hc hd
  have hlong : longMarks.find? (fun m => m.toList.isPrefixOf (c :: s ++ ' ' :: rest)) = none := by
    have hheads : ∀ m ∈ longMarks, m.toList ≠ [] ∧ isWordStart (m.toList.headD 'a') = false := by
      decide
    refine List.find?_eq_none.mpr fun m hm hprefix => ?_
    obtain ⟨hnil, hhead⟩ := hheads m hm
    obtain ⟨d, t, hd⟩ := List.exists_cons_of_ne_nil hnil
    rw [hd] at hhead hprefix
    exact hne d hhead (List.cons_prefix_cons.mp (List.isPrefixOf_iff_prefix.mp hprefix)).1.symm
  have hshort : shortMarks.contains c = false := by
    have hmarks : shortMarks.all (fun m => !isWordStart m) = true := by decide
    rw [List.contains_eq_mem, decide_eq_false_iff_not]
    intro hmem
    simpa [hc] using List.all_eq_true.mp hmarks c hmem
  have hquote : ¬ (c = '"' ∨ c.toNat = 39) := by
    rintro (h | h)
    · exact hne '"' (by decide) h
    · exact hne (Char.ofNat 39) (by decide) (Char.toNat_inj.mp h)
  have hwhole : ∀ d ∈ c :: s, isWordRest d = true := by
    refine List.forall_mem_cons.mpr ⟨?_, hword⟩
    simp only [isWordStart, isWordRest, Char.isAlphanum, Bool.or_eq_true] at hc ⊢
    exact hc.imp_right Or.inl
  have hspace : isWordRest ' ' = false := by decide
  rw [lexeme?.eq_def, hlong]
  simp only [List.cons_append, hshort, hquote, isDigit_of_isWordStart hc, hc, if_true, if_false,
    Bool.false_eq_true]
  rw [← List.cons_append, List.takeWhile_append_of_pos hwhole, List.dropWhile_append_of_pos hwhole,
    List.takeWhile_cons_of_neg (by simp [hspace]), List.dropWhile_cons_of_neg (by simp [hspace]),
    List.append_nil]

/-- In a value, a word is read up to the blank after it. -/
lemma scanFrom_word {name : List Char} (h : IsIdentifier name) (fuel : ℕ) (rest : List Char) :
    scanFrom (fuel + 1) .inValue (name ++ ' ' :: rest) =
      (scanFrom fuel .inValue (' ' :: rest)).map (.word (String.ofList name) :: ·) := by
  obtain ⟨c, s, rfl, hc, hword⟩ := h
  have hne : ∀ d, isWordStart d = false → c ≠ d := fun d hd => ne_of_isWordStart hc hd
  have hgap : isGap c = false := by
    simp only [isGap, hne ' ' (by decide), hne '\t' (by decide), hne '\n' (by decide),
      hne '\x0d' (by decide), hne '\x0c' (by decide)]
    rfl
  have hclosing : closing (c :: (s ++ ' ' :: rest)) .inValue = none := by
    have hsign : trimSign (c :: (s ++ ' ' :: rest)) = (false, c :: (s ++ ' ' :: rest)) := by
      rw [trimSign]
      · exact fun t ht => hne '-' (by decide) (List.cons.inj ht).1
      · exact fun t ht => hne '+' (by decide) (List.cons.inj ht).1
    rw [closing, hsign]
    split
    · next heq => exact absurd (List.cons.inj (Prod.mk.inj heq).2).1 (hne _ (by decide))
    · rfl
  rw [List.cons_append, scanFrom, if_neg (by simp [hgap]), hclosing]
  · simp only [← List.cons_append, lexeme?_word hc hword, Option.bind_some]
  · simp

/-- A place is found behind the text before it. -/
lemma scanFrom_place {text name : List Char} (htext : IsLiteral text)
    (hlast : text.getLast? ≠ some '\x7b') (hname : IsIdentifier name) (fuel : ℕ)
    (rest : List Char) : scanFrom (fuel + 5) (.outside false)
      (text ++ '\x7b' :: '\x7b' :: ' ' :: (name ++ ' ' :: '\x7d' :: '\x7d' :: rest)) =
    (scanFrom fuel (.outside false) rest).map
      ([.data text, .valueStart, .word (String.ofList name), .valueEnd] ++ ·) := by
  have hstep : outsideStep
      (text ++ '\x7b' :: '\x7b' :: ' ' :: (name ++ ' ' :: '\x7d' :: '\x7d' :: rest)) =
        some ([.data text, .valueStart], .inValue,
          ' ' :: (name ++ ' ' :: '\x7d' :: '\x7d' :: rest)) := by
    rw [outsideStep, splitMark_append htext hlast]
    rfl
  rw [scanFrom_outside (by simp), hstep]
  simp only [Option.bind_some]
  rw [scanFrom_space, scanFrom_word hname, scanFrom_space, scanFrom_valueEnd]
  cases scanFrom fuel (.outside false) rest <;> rfl

lemma scanFrom_last {text : List Char} (htext : IsLiteral text) (hne : text ≠ []) (fuel : ℕ) :
    scanFrom (fuel + 1) (.outside false) text = some [.data text] := by
  have hstep : outsideStep text = some ([.data text], .outside false, []) := by
    rw [outsideStep, splitMark_of_isLiteral htext]
  rw [scanFrom_outside hne, hstep, Option.bind_some]
  cases fuel <;> rfl

/-- The places are found one after the other. -/
lemma scanFrom_fillWith {places : List (String × String)} {last : String}
    (hliteral : ∀ p ∈ places, IsLiteral p.1.toList ∧ p.1.toList.getLast? ≠ some '\x7b')
    (hidentifier : ∀ p ∈ places, IsIdentifier p.2.toList) (hlast : IsLiteral last.toList) {fuel : ℕ}
    (hfuel : (Outline.fillWith (fun name => "\x7b\x7b " ++ name ++ " \x7d\x7d") places
      last).toList.length < fuel) :
    scanFrom fuel (.outside false) (Outline.fillWith
      (fun name => "\x7b\x7b " ++ name ++ " \x7d\x7d") places last).toList =
        some (Outline.tokens places last) := by
  induction places generalizing fuel with
  | nil =>
      obtain ⟨fuel, rfl⟩ := Nat.exists_eq_add_of_lt hfuel
      rw [Outline.fillWith, Outline.tokens]
      split
      · next hempty => rw [hempty]; cases fuel <;> rfl
      · next hne => exact scanFrom_last hlast (by simpa using hne) _
  | cons p rest ih =>
      obtain ⟨text, name⟩ := p
      obtain ⟨hplace, hliteral⟩ := List.forall_mem_cons.mp hliteral
      obtain ⟨hname, hidentifier⟩ := List.forall_mem_cons.mp hidentifier
      have hsource : (Outline.fillWith (fun name => "\x7b\x7b " ++ name ++ " \x7d\x7d")
          ((text, name) :: rest) last).toList = text.toList ++ '\x7b' :: '\x7b' :: ' ' ::
            (name.toList ++ ' ' :: '\x7d' :: '\x7d' :: (Outline.fillWith
              (fun name => "\x7b\x7b " ++ name ++ " \x7d\x7d") rest last).toList) := by
        simp [Outline.fillWith, String.toList_append]
      rw [hsource] at hfuel ⊢
      simp only [List.length_append, List.length_cons] at hfuel
      obtain ⟨fuel, rfl⟩ : ∃ k, fuel = k + 5 := ⟨fuel - 5, by omega⟩
      rw [scanFrom_place hplace.1 hplace.2 hname, ih hliteral hidentifier (by omega),
        String.ofList_toList]
      rfl

lemma scan_source (o : Outline) : scan o.source.toList = some (Outline.tokens o.places o.last) :=
  scanFrom_fillWith o.literal o.identifier o.last_literal (Nat.lt_succ_self _)

end Token

/-! ### Pieces -/

namespace Reader

/-- The end of a value ends the operators of every level. -/
lemma chain?_valueEnd (fuel depth : ℕ) (level : Level) (e : Expr) (ts : List Token) :
    chain? (fuel + 1) depth level e (.valueEnd :: ts) = some (e, .valueEnd :: ts) := by
  rw [chain?]
  rfl

lemma factor?_name {name : String} (hname : literal? name = none) (fuel depth : ℕ)
    (ts : List Token) : factor? (fuel + 3) depth (.word name :: .valueEnd :: ts) =
      some (.name name, .valueEnd :: ts) := by
  have hprimary : primary? (fuel + 1) depth (.word name :: .valueEnd :: ts) =
      some (.name name, .valueEnd :: ts) := by
    rw [primary?, hname]
  have hsigned : signed? (fuel + 2) depth (.word name :: .valueEnd :: ts) =
      some (.name name, .valueEnd :: ts) := by
    rw [signed?]
    · exact hprimary
    · rfl
  have hparts : parts? (fuel + 2) depth (.name name) (.valueEnd :: ts) =
      some (.name name, .valueEnd :: ts) := by
    rw [parts?] <;> simp
  have hfilters : filters? (fuel + 2) depth (.name name) (.valueEnd :: ts) =
      some (.name name, .valueEnd :: ts) := by
    rw [filters?] <;> simp
  rw [factor?, hsigned]
  simp only [Option.bind_some, hparts, hfilters]

/-- An operand of a level is one of the next level. -/
lemma operand?_of_next {name : String} {ts : List Token} {fuel depth : ℕ} {level next : Level}
    (hnot : name ≠ "not") (hnext : level.next? = some next)
    (h : operand? (fuel + 1) depth next (.word name :: .valueEnd :: ts) =
      some (.name name, .valueEnd :: ts)) :
    operand? (fuel + 2) depth level (.word name :: .valueEnd :: ts) =
      some (.name name, .valueEnd :: ts) := by
  have hword : word? "not" (.word name :: .valueEnd :: ts) = none := by
    simp [word?, isWord, hnot.symm]
  rw [operand?, hnext, hword]
  simp only [h, Option.bind_some, chain?_valueEnd]

lemma operand?_name {name : String} (hname : literal? name = none) (hnot : name ≠ "not")
    (fuel depth : ℕ) (ts : List Token) :
    operand? (fuel + 11) depth .either (.word name :: .valueEnd :: ts) =
      some (.name name, .valueEnd :: ts) := by
  have hpower : operand? (fuel + 4) depth .power (.word name :: .valueEnd :: ts) =
      some (.name name, .valueEnd :: ts) := by
    rw [operand?]
    simp only [Level.next?, factor?_name hname, Option.bind_some, chain?_valueEnd]
  exact operand?_of_next hnot rfl <| operand?_of_next hnot rfl <| operand?_of_next hnot rfl <|
    operand?_of_next hnot rfl <| operand?_of_next hnot rfl <| operand?_of_next hnot rfl <|
    operand?_of_next hnot rfl hpower

/-- A name alone is a whole expression, unless it is a word of the grammar. -/
lemma whole?_name {name : String} (hname : literal? name = none) (hnot : name ≠ "not")
    (depth : ℕ) (ts : List Token) : whole? (depth + 1) (.word name :: .valueEnd :: ts) =
      some (.name name, .valueEnd :: ts) := by
  have hsteps : steps (.word name :: .valueEnd :: ts) = 24 * ts.length + 60 + 12 := by
    simp [steps]
    omega
  have hchoices : choices? (24 * ts.length + 71) depth (.name name) (.valueEnd :: ts) =
      some (.name name, .valueEnd :: ts) := by
    rw [choices?]
    rfl
  rw [whole?, hsteps, expr?, operand?_name hname hnot]
  exact hchoices

lemma literal?_of_notMem {name : String} (h : name ∉ keywords) :
    literal? name = none ∧ name ≠ "not" := by
  have hne : ∀ word ∈ keywords, name ≠ word := fun word hword heq => h (heq ▸ hword)
  have hneither : ∀ word ∈ keywords, ∀ word' ∈ keywords, ¬ (name = word ∨ name = word') :=
    fun word hword word' hword' => not_or.mpr ⟨hne word hword, hne word' hword'⟩
  refine ⟨?_, hne "not" (by decide)⟩
  rw [literal?, if_neg (hneither "true" (by decide) "True" (by decide)),
    if_neg (hneither "false" (by decide) "False" (by decide)),
    if_neg (hneither "none" (by decide) "None" (by decide))]

/-- The pieces of an outline are read off its tokens. -/
lemma pieces?_tokens {places : List (String × String)} (last : String)
    (hwords : ∀ p ∈ places, p.2 ∉ keywords) {fuel : ℕ} (depth : ℕ)
    (hfuel : (Outline.tokens places last).length < fuel) :
    pieces? fuel (depth + 1) [] (Outline.tokens places last) =
      some (Outline.pieces places last, []) := by
  induction places generalizing fuel with
  | nil =>
      rw [Outline.tokens, Outline.pieces] at *
      split at hfuel
      · next hempty =>
        obtain ⟨fuel, rfl⟩ : ∃ k, fuel = k + 1 := ⟨fuel - 1, by omega⟩
        rw [if_pos hempty, if_pos hempty, pieces?]
      · next hne =>
        rw [List.length_singleton] at hfuel
        obtain ⟨fuel, rfl⟩ : ∃ k, fuel = k + 2 := ⟨fuel - 2, by omega⟩
        rw [if_neg hne, if_neg hne, pieces?, pieces?]
        rfl
  | cons p rest ih =>
      obtain ⟨text, name⟩ := p
      obtain ⟨hword, hwords⟩ := List.forall_mem_cons.mp hwords
      obtain ⟨hname, hnot⟩ := literal?_of_notMem hword
      rw [Outline.tokens] at hfuel ⊢
      simp only [List.length_cons] at hfuel
      obtain ⟨fuel, rfl⟩ : ∃ k, fuel = k + 2 := ⟨fuel - 2, by omega⟩
      rw [pieces?, pieces?, whole?_name hname hnot]
      have hrest := @ih hwords fuel (by omega)
      simp only [Option.bind_some, endOfValue?, hrest]
      rfl

end Reader

/-- What is read of the source of an outline. -/
lemma read?_source (o : Outline) (hwords : ∀ x ∈ o.identifiers, x ∉ keywords) :
    read? o.source.toList = some (Outline.pieces o.places o.last) := by
  have hpieces := @Reader.pieces?_tokens o.places o.last
    (fun p hp => hwords p.2 (List.mem_map_of_mem hp)) (Reader.steps _) 149
    (show (Outline.tokens o.places o.last).length <
      24 * (Outline.tokens o.places o.last).length + 24 by omega)
  rw [read?, Token.scan_source, Option.bind_some, Reader.deepest, hpieces]

/-! ### Filling in -/

/-- A name that is neither a field nor a function stands for nothing. -/
def IsUnknown (input : Data) (name : String) : Prop :=
  input.get? name = none ∧ name ∉ Bindings.functions

lemma lookup_names (input : Data) (name : String) :
    (names input).lookup name = (input.get? name).map Value.ofData := by
  cases input with
  | record fields =>
      rw [names, Data.get?]
      induction fields with
      | nil => rfl
      | cons field rest ih =>
          rw [List.map_cons, List.lookup_cons, List.lookup_cons]
          split
          · rfl
          · exact ih
  | _ => rfl

lemma find_of_text {input : Data} {name s : String} (h : input.get? name = some (.text s)) :
    (names input).find name = .ofText s := by
  rw [Bindings.find, lookup_names, h]
  rfl

lemma find_of_isUnknown {input : Data} {name : String} (h : IsUnknown input name) :
    (names input).find name = .undefined false := by
  have hfunction : Bindings.functions.contains name = false := by
    simpa [List.contains_eq_mem] using h.2
  rw [Bindings.find, lookup_names, h.1, Option.map_none, hfunction]
  rfl

/-- A text before other pieces comes before what becomes of these. -/
lemma fillAll_text_cons (b : Bindings) (s : String) (ps : List Piece) :
    fillAll b (.text s.toList :: ps) = (fillAll b ps).map fun r => (s ++ r.1, r.2) := by
  rw [fillAll, Piece.fill, String.ofList_toList]
  simp only [bind, Except.bind]
  cases fillAll b ps <;> rfl

/-- A name before other pieces stops all if it stands for nothing. -/
lemma fillAll_name_cons (b : Bindings) (name : String) (ps : List Piece) :
    fillAll b (.value (.name name) :: ps) =
      if (b.find name).isMissing then .error .missingValue
      else (fillAll b ps).map fun r => ((b.find name).print ++ r.1, r.2) := by
  rw [fillAll, Piece.fill]
  simp only [Expr.eval, bind, Except.bind]
  by_cases hmissing : (b.find name).isMissing = true
  · simp only [hmissing, if_true]
  · simp only [hmissing, Bool.false_eq_true, if_false, pure, Except.pure]
    cases fillAll b ps <;> rfl

namespace Outline

variable {places : List (String × String)} {input : Data}

/-- Where each name is a text, the texts come into the places. -/
lemma fillAll_pieces {value : String → String} (last : String)
    (h : ∀ p ∈ places, input.get? p.2 = some (.text (value p.2))) :
    fillAll (names input) (pieces places last) =
      .ok (fillWith value places last, names input) := by
  induction places with
  | nil =>
      rw [pieces, fillWith]
      split
      · next hempty => rw [hempty]; rfl
      · have hlast := fillAll_text last (fillAll_nil (names input))
        rwa [String.append_empty] at hlast
  | cons p rest ih =>
      obtain ⟨text, name⟩ := p
      obtain ⟨hname, hrest⟩ := List.forall_mem_cons.mp h
      rw [pieces, fillWith, String.append_assoc]
      exact fillAll_text text (fillAll_name (find_of_text hname) (ih hrest))

/-- A place that stands for nothing stops all, wherever it is. -/
lemma fillAll_pieces_of_isUnknown (last : String) (h : ∃ p ∈ places, IsUnknown input p.2) :
    fillAll (names input) (pieces places last) = .error .missingValue := by
  induction places with
  | nil => exact absurd h (by simp)
  | cons p rest ih =>
      obtain ⟨text, name⟩ := p
      rw [pieces, fillAll_text_cons, fillAll_name_cons]
      by_cases hmissing : ((names input).find name).isMissing = true
      · rw [if_pos hmissing]
        rfl
      · -- what stands for something is no reason to stop, whatever it prints
        have hrest : ∃ p ∈ rest, IsUnknown input p.2 := by
          obtain ⟨p, hp, hunknown⟩ := h
          rcases List.mem_cons.mp hp with rfl | hp
          · exact absurd (by rw [find_of_isUnknown hunknown]; rfl) hmissing
          · exact ⟨p, hp, hunknown⟩
        rw [if_neg hmissing, ih hrest]
        rfl

end Outline

lemma render_of_fillAll_error {template : Template} {input : Data} {ps : List Piece} {fault : Fault}
    (hp : template.pieces = ps) (h : fillAll (names input) ps = .error fault) :
    template.render input = .error (.unfilledTemplate template.name fault.message) := by
  have hfill : fill template.pieces input = .error fault := by
    rw [hp]
    cases input <;> exact congrArg (Except.map (·.1)) h
  rw [render, hfill]

/-- A template with an outline whose names are not words of the grammar is accepted. For a document
whose fields give a text for each name, it is these texts in the places of the outline, as they are;
for a document without a field for one of the names, the name not being that of a function either,
there is no text at all, wherever the name stands. -/
theorem outline_is_filled_or_refused (o : Outline) (name : String)
    (hwords : ∀ x ∈ o.identifiers, x ∉ keywords) :
    ∃ t, compile name o.source = .ok t ∧ ∀ input : Data,
      (∀ value : String → String,
        (∀ x ∈ o.identifiers, input.get? x = some (.text (value x))) →
          t.render input = .ok (Outline.fillWith value o.places o.last)) ∧
      ((∃ x ∈ o.identifiers, input.get? x = none ∧ x ∉ Bindings.functions) →
        ∃ e, t.render input = .error e ∧ e.kind = .template) := by
  refine ⟨⟨name, Outline.pieces o.places o.last⟩, ?_, fun input => ⟨fun value hvalue => ?_, ?_⟩⟩
  · rw [compile, read?_source o hwords]
  · exact render_of_fillAll rfl (Outline.fillAll_pieces o.last fun p hp =>
      hvalue p.2 (List.mem_map_of_mem hp))
  · rintro ⟨x, hx, hunknown⟩
    obtain ⟨p, hp, rfl⟩ := List.mem_map.mp hx
    have hfault := Outline.fillAll_pieces_of_isUnknown o.last ⟨p, hp, hunknown⟩
    exact ⟨_, render_of_fillAll_error rfl hfault, rfl⟩

/-- A template with braces and ends of tags in its texts, and line ends behind its last place. -/
def braces : Outline where
  places := [("\x7b \"CN\": \"", "name"), ("\x7d\x7d #\x7d %\x7d ", "prefix")]
  last := " \x7b\n\n"
  literal := by decide
  identifier := by
    refine List.forall_mem_cons.mpr ⟨?_, List.forall_mem_singleton.mpr ?_⟩
    · exact ⟨'n', "ame".toList, rfl, rfl, List.all_eq_true.mp rfl⟩
    · exact ⟨'p', "refix".toList, rfl, rfl, List.all_eq_true.mp rfl⟩
  last_literal := by decide

/-- Every identity of a node is filled into it. No identity of a root is, for a root has no field of
the first name. -/
theorem braces_are_filled_or_refused :
    (∀ x ∈ braces.identifiers, x ∉ keywords) ∧ ∃ t, compile "braces" braces.source = .ok t ∧
      (∀ i : LeafInput, t.render i.toData = .ok ("\x7b \"CN\": \"" ++ i.name ++
        ("\x7d\x7d #\x7d %\x7d " ++ i.labName ++ " \x7b\n\n"))) ∧
      ∀ i : RootInput, ∃ e, t.render i.toData = .error e ∧ e.kind = .template := by
  have hwords : ∀ x ∈ braces.identifiers, x ∉ keywords := by decide
  obtain ⟨t, ht, hrender⟩ := outline_is_filled_or_refused braces "braces" hwords
  refine ⟨hwords, t, ht, fun i => ?_, fun i => ?_⟩
  · refine (hrender i.toData).1 (fun x => if x = "name" then i.name else i.labName) fun x hx => ?_
    rcases List.mem_cons.mp hx with rfl | hx
    · rfl
    · obtain rfl := List.mem_singleton.mp hx
      rfl
  · exact (hrender i.toData).2 ⟨"name", List.mem_cons_self, rfl, by decide⟩

end Template

end LabTrust
