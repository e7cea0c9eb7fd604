/-
Documents of TOML that were written are read back.

* `Means`: a spelling of a value, at the end of its line.
* `means_quote`, `means_writeList`: the writer's spellings of texts and of lists of texts.
* `ReadsAs`: the lines that a text is read as.
* `Pair`, `document`: a key and a spelling of its value; pairs, and further pairs under a header.
* `read_document`: if no key stands twice, such a document is read as a record of its pairs.
-/
import LabTrust.Proofs.Toml.Strings
import LabTrust.Toml.Reader

namespace LabTrust.Toml

variable {c : Char} {fuel depth : ℕ} {s rest : List Char} {x : String}

/-! ### Blanks and line ends -/

lemma skipGap_cons (h : isGap c = false) : skipGap (c :: s) = c :: s :=
  List.dropWhile_cons_of_neg (by simp [h])

lemma skipGap_blank : skipGap (' ' :: s) = skipGap s := rfl

lemma skipSpace_feed : skipSpace (fuel + 1) ('\n' :: s) = skipSpace fuel s := rfl

lemma skipSpace_of_skipGap (h : skipGap s = c :: rest) (hremark : c ≠ '#') (hfeed : c ≠ '\n')
    (hreturn : c ≠ '\x0d') : skipSpace (fuel + 1) s = some (c :: rest) := by
  rw [skipSpace, h]
  split
  · next heq => exact absurd (List.cons.inj heq).1 hremark
  · rw [lineEnd?_of_ne hfeed hreturn]

/-! ### Texts -/

/-- A written text begins with a mark. -/
lemma exists_quote (x : String) : ∃ mark w, IsMark mark ∧ (quote x).toList = mark :: w := by
  rw [quote, String.toList_ofList]
  cases formOf x.toList
  · exact ⟨_, _, .inl rfl, rfl⟩
  · exact ⟨_, _, .inr rfl, rfl⟩
  · exact ⟨_, _, .inl rfl, rfl⟩
  · exact ⟨_, _, .inr rfl, rfl⟩

lemma skipGap_quote : skipGap ((quote x).toList ++ rest) = (quote x).toList ++ rest := by
  obtain ⟨mark, w, hmark, hw⟩ := exists_quote x
  rw [hw]
  exact skipGap_cons (by rcases hmark with rfl | rfl <;> rfl)

lemma skipSpace_quote (h : skipGap s = (quote x).toList ++ rest) (hfuel : 0 < fuel) :
    skipSpace fuel s = some ((quote x).toList ++ rest) := by
  obtain ⟨n, rfl⟩ := Nat.exists_eq_add_one_of_ne_zero (Nat.ne_zero_of_lt hfuel)
  obtain ⟨mark, w, hmark, hw⟩ := exists_quote x
  rw [hw] at h ⊢
  have hremark : mark ≠ '#' := by rcases hmark with rfl | rfl <;> decide
  have hreturn : mark ≠ '\x0d' := by rcases hmark with rfl | rfl <;> decide
  exact skipSpace_of_skipGap h hremark hmark.ne_feed hreturn

/-- A written text is read as a value. -/
lemma value?_quote (hquote : rest.head? ≠ some '"')
    (hapostrophe : rest.head? ≠ some apostrophe) :
    value? (fuel + 1) depth ((quote x).toList ++ rest) = some (.text x, rest) := by
  have hread : string? ((quote x).toList ++ rest) = some (x.toList, rest) := by
    rw [quote, String.toList_ofList]
    exact string?_quoteAs hquote hapostrophe
  obtain ⟨mark, w, hmark, hw⟩ := exists_quote x
  have hbracket : mark ≠ '[' := by rcases hmark with rfl | rfl <;> decide
  have hbrace : mark ≠ '\x7b' := by rcases hmark with rfl | rfl <;> decide
  rw [hw, List.cons_append] at hread ⊢
  rw [value?, if_pos hmark, hread]
  · simp only [Option.map_some, String.ofList_toList]
  · simpa using hbracket
  · simpa using hbrace

/-! ### Lists of texts -/

/-- After a text, a list goes on behind a comma and ends with a bracket. -/
lemma items?_quote (hskip : skipSpace s.length s = some ((quote x).toList ++ c :: rest))
    (hc : c = ',' ∨ c = ']') :
    items? (fuel + 2) depth s =
      if c = ',' then (items? (fuel + 1) depth rest).map fun (ds, rest) => (.text x :: ds, rest)
      else some ([.text x], rest) := by
  have hvalue : value? (fuel + 1) depth ((quote x).toList ++ c :: rest) =
      some (.text x, c :: rest) := by
    rcases hc with rfl | rfl <;> exact value?_quote (by simp) (by simp [apostrophe])
  have hnext : skipSpace (c :: rest).length (c :: rest) = some (c :: rest) := by
    rcases hc with rfl | rfl <;>
      exact skipSpace_of_skipGap (skipGap_cons rfl) (by decide) (by decide) (by decide)
  rw [items?, hskip, Option.bind_some]
  split
  · next heq =>
      obtain ⟨mark, w, hmark, hw⟩ := exists_quote x
      have hclose : mark ≠ ']' := by rcases hmark with rfl | rfl <;> decide
      rw [hw, List.cons_append, List.cons.injEq] at heq
      exact absurd heq.1 hclose
  · rw [hvalue, Option.bind_some]
    simp only [hnext, Option.bind_some]
    rcases hc with rfl | rfl <;> rfl

/-- A line of a list that takes several lines. -/
def itemLine (x : String) : String := "    " ++ quote x ++ ",\n"

lemma length_le_itemLines (xs : List String) :
    xs.length ≤ (String.join (xs.map itemLine)).toList.length := by
  induction xs with
  | nil => exact Nat.zero_le _
  | cons x xs ih =>
      rw [List.map_cons, String.join_cons, String.toList_append, List.length_append, itemLine,
        String.toList_append, List.length_append, List.length_cons]
      have hend : ",\n".toList.length = 2 := by decide
      omega

/-- The lines of a list are read as its items. -/
lemma items?_itemLines {xs : List String} (hfuel : xs.length < fuel) :
    items? fuel depth ('\n' :: ((String.join (xs.map itemLine)).toList ++ ']' :: rest)) =
      some (xs.map .text, rest) := by
  induction xs generalizing fuel with
  | nil =>
      obtain ⟨n, rfl⟩ := Nat.exists_eq_add_one_of_ne_zero (Nat.ne_zero_of_lt hfuel)
      rfl
  | cons x xs ih =>
      rw [List.length_cons] at hfuel
      obtain ⟨n, rfl⟩ : ∃ n, fuel = n + 2 := Nat.exists_eq_add_of_le' (by omega)
      have htext : (String.join ((x :: xs).map itemLine)).toList ++ ']' :: rest =
          [' ', ' ', ' ', ' '] ++ ((quote x).toList ++ ',' :: '\n' ::
            ((String.join (xs.map itemLine)).toList ++ ']' :: rest)) := by
        simp [itemLine, String.join_cons]
      -- The item stands behind a line end and four blanks.
      have hskip : ∀ t k, skipSpace (k + 2) ('\n' :: ([' ', ' ', ' ', ' '] ++
          ((quote x).toList ++ t))) = some ((quote x).toList ++ t) := by
        intro t k
        have hgap : skipGap ([' ', ' ', ' ', ' '] ++ ((quote x).toList ++ t)) =
            (quote x).toList ++ t := by
          simp only [List.cons_append, List.nil_append, skipGap_blank, skipGap_quote]
        exact skipSpace_feed.trans (skipSpace_quote hgap k.succ_pos)
      rw [htext, items?_quote (hskip _ _) (.inl rfl), if_pos rfl, ih (by omega)]
      rfl

/-! ### Values at the end of a line -/

/-- A spelling of a value, at the end of its line. -/
structure Means (v : List Char) (d : Data) : Prop where
  skip : ∀ t, skipGap (v ++ t) = v ++ t
  read : ∀ t n, 2 * v.length + 2 ≤ n → value? n deepest (v ++ '\n' :: t) = some (d, '\n' :: t)

lemma means_quote (x : String) : Means (quote x).toList (.text x) where
  skip _ := skipGap_quote
  read t n hn := by
    obtain ⟨k, rfl⟩ : ∃ k, n = k + 1 := Nat.exists_eq_add_of_le' (by omega)
    exact value?_quote (by simp) (by simp [apostrophe])

/-- A bracket begins a list; the items and the closing bracket are what follows it. -/
lemma means_list {v : List Char} {ds : List Data}
    (h : ∀ depth t n, v.length < n → items? n depth (v ++ '\n' :: t) = some (ds, '\n' :: t)) :
    Means ('[' :: v) (.list ds) where
  skip _ := skipGap_cons rfl
  read t n hn := by
    obtain ⟨k, rfl⟩ : ∃ k, n = k + 1 := Nat.exists_eq_add_of_le' (by omega)
    have hitems := h 79 t k (by rw [List.length_cons] at hn; omega)
    rw [List.cons_append, deepest, value?, hitems]
    rfl

/-- A written list of texts is read back; two or more texts take a line each. -/
lemma means_writeList (xs : List String) : Means (writeList xs).toList (.list (xs.map .text)) := by
  match xs with
  | [] =>
      refine means_list (v := [']']) fun depth t n hn => ?_
      obtain ⟨k, rfl⟩ : ∃ k, n = k + 1 := Nat.exists_eq_add_of_le' (by omega)
      rfl
  | [x] =>
      have hv : (writeList [x]).toList = '[' :: ((quote x).toList ++ [']']) := by simp [writeList]
      rw [hv]
      refine means_list fun depth t n hn => ?_
      obtain ⟨k, rfl⟩ : ∃ k, n = k + 2 := Nat.exists_eq_add_of_le' (by simp at hn; omega)
      rw [List.append_assoc]
      have hfuel : 0 < ((quote x).toList ++ ([']'] ++ '\n' :: t)).length :=
        List.length_pos_iff.2 (List.append_ne_nil_of_right_ne_nil _ (List.cons_ne_nil _ _))
      exact items?_quote (skipSpace_quote skipGap_quote hfuel) (.inr rfl)
  | x :: y :: xs =>
      have hv : (writeList (x :: y :: xs)).toList =
          '[' :: '\n' :: ((String.join ((x :: y :: xs).map itemLine)).toList ++ [']']) := by
        rw [writeList]
        · exact (String.toList_append).trans (congrArg (· ++ [']']) String.toList_append)
        · simp
        · simp
      rw [hv]
      refine means_list fun depth t n hn => ?_
      have hlength := length_le_itemLines (x :: y :: xs)
      rw [List.cons_append, List.append_assoc]
      exact items?_itemLines (by rw [List.length_cons, List.length_append] at hn; omega)

/-! ### Lines -/

/-- A key that needs no quotes. -/
def IsKey (key : String) : Prop := key.toList ≠ [] ∧ key.toList.all isBare = true

instance (key : String) : Decidable (IsKey key) :=
  inferInstanceAs (Decidable (_ ∧ _))

lemma IsKey.isBare_of_mem {key : String} (h : IsKey key) : ∀ c ∈ key.toList, isBare c = true :=
  List.all_eq_true.1 h.2

lemma IsKey.exists_cons {key : String} (h : IsKey key) :
    ∃ k ks, key.toList = k :: ks ∧ isBare k = true := by
  obtain ⟨k, ks, hks⟩ := List.exists_cons_of_ne_nil h.1
  exact ⟨k, ks, hks, h.isBare_of_mem k (hks ▸ .head ks)⟩

lemma ne_of_isBare {d : Char} (h : isBare c = true) (hd : isBare d = false) : c ≠ d := by
  rintro rfl
  rw [h] at hd
  cases hd

lemma isGap_of_isBare (h : isBare c = true) : isGap c = false := by
  have hblank : c ≠ ' ' := ne_of_isBare h (by decide)
  have htab : c ≠ '\t' := ne_of_isBare h (by decide)
  simp [isGap, hblank, htab]

/-- A key ends at the first character that no key holds. -/
lemma key?_key {key : String} (hkey : IsKey key) (hend : ∀ d ∈ s.head?, isBare d = false)
    (hgap : skipGap s = c :: rest) (hc : c ≠ '.') :
    key? (fuel + 1) (key.toList ++ s) = some ([key], c :: rest) := by
  have htake : s.takeWhile isBare = [] := by cases s <;> simp_all
  have hdrop : s.dropWhile isBare = s := by cases s <;> simp_all
  have hpart : keyPart? (skipGap (key.toList ++ s)) = some (key, s) := by
    obtain ⟨k, ks, hks, hk⟩ := hkey.exists_cons
    rw [hks, List.cons_append, skipGap_cons (isGap_of_isBare hk), keyPart?, if_pos hk,
      ← List.cons_append, ← hks, List.takeWhile_append_of_pos hkey.isBare_of_mem,
      List.dropWhile_append_of_pos hkey.isBare_of_mem, htake, hdrop, List.append_nil, String.ofList_toList]
  rw [key?, hpart, Option.bind_some]
  simp only [hgap]
  split
  · next heq => exact absurd (List.cons.inj heq).1 hc
  · rfl

/-- A line with a key and its value. -/
lemma documentLine?_pair {key : String} {v : List Char} {d : Data} (hkey : IsKey key)
    (hv : Means v d) :
    documentLine? (key.toList ++ ([' ', '=', ' '] ++ v) ++ '\n' :: s) =
      some (.pair [key] d, '\n' :: s) := by
  obtain ⟨k, ks, hks, hk⟩ := hkey.exists_cons
  have hread : key? ((key.toList ++ ([' ', '=', ' '] ++ v) ++ '\n' :: s).length + 1)
      (key.toList ++ ([' ', '=', ' '] ++ v) ++ '\n' :: s) =
        some ([key], '=' :: ' ' :: (v ++ '\n' :: s)) := by
    rw [List.append_assoc]
    refine key?_key hkey ?_ rfl (by decide)
    rintro d ⟨⟩
    rfl
  have hvalue : value? (2 * (' ' :: (v ++ '\n' :: s)).length + 2) deepest
      (skipGap (' ' :: (v ++ '\n' :: s))) = some (d, '\n' :: s) := by
    rw [skipGap_blank, hv.skip]
    exact hv.read s _ (by simp only [List.length_cons, List.length_append]; omega)
  rw [hks, List.cons_append, List.cons_append] at hread ⊢
  rw [documentLine?, skipGap_cons (isGap_of_isBare hk)]
  split
  · next heq => exact absurd (List.cons.inj heq).1 (ne_of_isBare hk (by decide))
  · next heq => exact absurd (List.cons.inj heq).1 (ne_of_isBare hk (by decide))
  · next heq => exact absurd (List.cons.inj heq).1 (ne_of_isBare hk (by decide))
  · next heq => cases heq
  · rw [lineEnd?_of_ne (ne_of_isBare hk (by decide)) (ne_of_isBare hk (by decide))]
    simp only [hread, Option.bind_some, hvalue, Option.map_some]

/-- A header of a table. -/
lemma documentLine?_table {key : String} (hkey : IsKey key) :
    documentLine? ('[' :: (key.toList ++ [']']) ++ '\n' :: s) = some (.table [key], '\n' :: s) := by
  obtain ⟨k, ks, hks, hk⟩ := hkey.exists_cons
  have hread : key? ((key.toList ++ [']'] ++ '\n' :: s).length + 1)
      (key.toList ++ [']'] ++ '\n' :: s) = some ([key], ']' :: '\n' :: s) := by
    rw [List.append_assoc]
    refine key?_key hkey ?_ rfl (by decide)
    rintro d ⟨⟩
    rfl
  rw [List.cons_append, documentLine?, skipGap_cons rfl]
  split
  · next heq =>
      rw [hks, List.cons_append, List.cons_append, List.cons.injEq, List.cons.injEq] at heq
      exact absurd heq.2.1 (ne_of_isBare hk (by decide))
  · next heq =>
      obtain rfl := (List.cons.inj heq).2
      rw [hread]
      rfl
  · next heq => cases heq
  · next heq => cases heq
  · next hbracket _ _ => exact absurd rfl (hbracket _)

/-- The lines that a text is read as. -/
def ReadsAs (s : List Char) (ls : List Line) : Prop := ∀ n, s.length < n → lines n s = some ls

lemma readsAs_nil : ReadsAs [] [.empty] := by
  intro n hn
  obtain ⟨k, rfl⟩ := Nat.exists_eq_add_one_of_ne_zero (Nat.ne_zero_of_lt hn)
  rfl

/-- What ends at a line feed is a line of its own. -/
lemma ReadsAs.line {w : List Char} {line : Line} {ls : List Line} (h : ReadsAs s ls)
    (hline : documentLine? (w ++ '\n' :: s) = some (line, '\n' :: s)) :
    ReadsAs (w ++ '\n' :: s) (line :: ls) := by
  intro n hn
  obtain ⟨k, rfl⟩ := Nat.exists_eq_add_one_of_ne_zero (Nat.ne_zero_of_lt hn)
  have hrest : lines k s = some ls := h k (by simp at hn; omega)
  rw [lines, hline]
  show (lines k s).map (line :: ·) = _
  rw [hrest]
  rfl

/-! ### Tables -/

section Entries

variable {es : Entries} {key : String} {node : Node}

lemma Entries.set_append (h : key ∉ es.map (·.1)) (t : Entries) :
    set key node (es ++ t) = es ++ set key node t := by
  induction es with
  | nil => rfl
  | cons e es ih =>
      rw [List.map_cons, List.mem_cons, not_or] at h
      rw [List.cons_append, set, if_neg (Ne.symm h.1), ih h.2, List.cons_append]

lemma Entries.find?_append (h : key ∉ es.map (·.1)) (t : Entries) :
    find? (es ++ t) key = find? t key := by
  have hnone : es.lookup key = none := by
    refine List.lookup_eq_none_iff.2 fun e he => ?_
    simpa using fun heq : key = e.1 => h (heq ▸ List.mem_map_of_mem he)
  rw [find?, List.lookup_append, hnone, Option.none_or, find?]

/-- What is new stands at the end. -/
lemma Entries.alter_new (h : key ∉ es.map (·.1)) (f : Option Node → Option Node) :
    es.alter key f = (f none).map fun node => es ++ [(key, node)] := by
  have hfind : es.find? key = none := by
    simpa [find?] using find?_append h []
  have hset : ∀ node, es.set key node = es ++ [(key, node)] := fun node => by
    simpa [set] using set_append h []
  simp only [alter, hfind, hset]

/-- What stands at the end is changed there. -/
lemma Entries.alter_last (h : key ∉ es.map (·.1)) (f : Option Node → Option Node) :
    (es ++ [(key, node)]).alter key f = (f (some node)).map fun node => es ++ [(key, node)] := by
  have hfind : find? (es ++ [(key, node)]) key = some node := by
    rw [find?_append h]
    exact List.lookup_cons_self
  have hset : ∀ n, set key n (es ++ [(key, node)]) = es ++ [(key, n)] := fun n => by
    simp [set_append h, set]
  simp only [alter, hfind, hset]

/-- A header at the end leads to its table. -/
lemma Entries.within_last (h : key ∉ es.map (·.1)) (f : Entries → Option Entries)
    (inner : Entries) :
    within f [key] (es ++ [(key, .table .header inner)]) =
      (f inner).map fun inner => es ++ [(key, .table .header inner)] := by
  rw [within, alter_last h]
  simp [within, Function.comp_def]

lemma closeEntries_append (es t : Entries) :
    closeEntries (es ++ t) = closeEntries es ++ closeEntries t := by
  induction es with
  | nil => rfl
  | cons e es ih => rw [List.cons_append, closeEntries, ih, closeEntries, List.cons_append]

end Entries

/-! ### Documents -/

/-- A key, and a spelling of its value. -/
structure Pair where
  key : String
  value : String
  data : Data
  isKey : IsKey key
  means : Means value.toList data

namespace Pair

/-- The line of a pair. -/
def text (p : Pair) : String := Toml.pair p.key p.value

def line (p : Pair) : Line := .pair [p.key] p.data

/-- What a pair is read as. -/
def field (p : Pair) : String × Data := (p.key, p.data)

def entry (p : Pair) : String × Node := (p.key, .value p.data)

/-- A key with a text. -/
def ofText (key : String) (h : IsKey key) (x : String) : Pair where
  key := key
  value := quote x
  data := .text x
  isKey := h
  means := means_quote x

/-- A key with a list of texts. -/
def ofList (key : String) (h : IsKey key) (xs : List String) : Pair where
  key := key
  value := writeList xs
  data := .list (xs.map .text)
  isKey := h
  means := means_writeList xs

end Pair

lemma readsAs_pairs {ls : List Line} (ps : List Pair) (h : ReadsAs s ls) :
    ReadsAs ((String.join (ps.map Pair.text)).toList ++ s) (ps.map Pair.line ++ ls) := by
  induction ps with
  | nil => exact h
  | cons p ps ih =>
      have htext : (String.join ((p :: ps).map Pair.text)).toList ++ s =
          p.key.toList ++ ([' ', '=', ' '] ++ p.value.toList) ++
            '\n' :: ((String.join (ps.map Pair.text)).toList ++ s) := by
        simp [Pair.text, Toml.pair]
      rw [htext]
      exact ih.line (documentLine?_pair p.isKey p.means)

lemma closeEntries_pairs (ps : List Pair) :
    closeEntries (ps.map Pair.entry) = ps.map Pair.field := by
  induction ps with
  | nil => rfl
  | cons p ps ih =>
      rw [List.map_cons, List.map_cons, ← ih]
      rfl

/-- Pairs with new keys are added in their order to the table that is open; `place` is where that
table stands in the document. -/
lemma foldlM_add_pairs {place : Entries → Entries} {path : List String} {inner : Entries}
    (hplace : ∀ f inner, (place inner).within f path = (f inner).map place) (ps : List Pair)
    (hkeys : (inner.map (·.1) ++ ps.map (·.key)).Nodup) :
    (ps.map Pair.line).foldlM add (place inner, path) =
      some (place (inner ++ ps.map Pair.entry), path) := by
  induction ps generalizing inner with
  | nil => simp
  | cons p ps ih =>
      have hnew : p.key ∉ inner.map (·.1) := fun hmem =>
        (List.nodup_append.1 hkeys).2.2 p.key hmem p.key (.head _) rfl
      have hstep : add (place inner, path) p.line = some (place (inner ++ [p.entry]), path) := by
        show ((place inner).within (Entries.put p.key p.data []) path).map _ = _
        rw [hplace, Entries.put, Entries.alter_new hnew]
        rfl
      rw [List.map_cons, List.foldlM_cons, hstep]
      show (ps.map Pair.line).foldlM add _ = _
      rw [ih, List.append_assoc]
      · rfl
      · rw [List.map_append, List.append_assoc]
        exact hkeys

/-- No mark of the byte order stands before a key or a line end. -/
lemma toNat_ne_byteOrder (h : isBare c = true ∨ c = '\n') : c.toNat ≠ 0xfeff := by
  rcases h with h | rfl
  · have hne : c ≠ Char.ofNat 0xfeff := ne_of_isBare h (by decide)
    exact fun hc => hne (by rw [← hc, Char.ofNat_toNat])
  · decide

lemma read_of_lines {text : String} {ls : List Line} {state : Open}
    (hstart : ∀ c ∈ text.toList.head?, c.toNat ≠ 0xfeff) (hlines : ReadsAs text.toList ls)
    (hstate : ls.foldlM add ([], []) = some state) :
    Toml.read text = some (.record (closeEntries state.1)) := by
  have hread := hlines (text.toList.length + 1) (Nat.lt_succ_self _)
  rw [Toml.read]
  cases htext : text.toList with
  | nil =>
      rw [htext] at hread
      simp only [hread, Option.bind_some, hstate, Option.map_some]
  | cons c s =>
      rw [htext] at hread hstart
      simp only [if_neg (hstart c rfl), hread, Option.bind_some, hstate, Option.map_some]

/-- Pairs, and further pairs under a header. -/
def document (ps : List Pair) (name : String) (qs : List Pair) : String :=
  String.join (ps.map Pair.text) ++ "\n[" ++ name ++ "]\n" ++ String.join (qs.map Pair.text)

def documentLines (ps : List Pair) (name : String) (qs : List Pair) : List Line :=
  ps.map Pair.line ++ (.empty :: .table [name] :: (qs.map Pair.line ++ [.empty]))

variable {ps qs : List Pair} {name : String}

lemma readsAs_document (hname : IsKey name) :
    ReadsAs (document ps name qs).toList (documentLines ps name qs) := by
  have hqs := readsAs_pairs qs readsAs_nil
  have hheader := hqs.line (documentLine?_table hname)
  have hblank := hheader.line (w := []) rfl
  have htext : (document ps name qs).toList = (String.join (ps.map Pair.text)).toList ++ ([] ++
      '\n' :: ('[' :: (name.toList ++ [']']) ++
        '\n' :: ((String.join (qs.map Pair.text)).toList ++ []))) := by
    simp [document]
  rw [htext]
  exact readsAs_pairs ps hblank

lemma foldlM_add_document (hps : (ps.map (·.key) ++ [name]).Nodup)
    (hqs : (qs.map (·.key)).Nodup) :
    (documentLines ps name qs).foldlM add ([], []) =
      some (ps.map Pair.entry ++ [(name, .table .header (qs.map Pair.entry))], [name]) := by
  have hkeys : (ps.map Pair.entry).map (·.1) = ps.map (·.key) := by
    simp [Pair.entry, Function.comp_def]
  have hname : name ∉ (ps.map Pair.entry).map (·.1) := fun hmem =>
    (List.nodup_append.1 hps).2.2 name (hkeys ▸ hmem) name (.head _) rfl
  have hfirst : (ps.map Pair.line).foldlM add ([], []) = some (ps.map Pair.entry, []) := by
    have hplace : ∀ (f : Entries → Option Entries) inner,
        (id inner).within f [] = (f inner).map id := fun f inner => by
      rw [Option.map_id]
      rfl
    exact foldlM_add_pairs hplace ps (List.nodup_append.1 hps).1
  have hheader : add (ps.map Pair.entry, []) (.table [name]) =
      some (ps.map Pair.entry ++ [(name, .table .header [])], [name]) := by
    show (Entries.openTable name (ps.map Pair.entry)).map (·, [name]) = _
    rw [Entries.openTable, Entries.alter_new hname]
    rfl
  have hrest : (qs.map Pair.line).foldlM add
      (ps.map Pair.entry ++ [(name, .table .header [])], [name]) =
        some (ps.map Pair.entry ++ [(name, .table .header (qs.map Pair.entry))], [name]) :=
    foldlM_add_pairs (Entries.within_last hname) qs hqs
  rw [documentLines, List.foldlM_append, hfirst]
  show (add (ps.map Pair.entry, []) (.table [name])).bind
    ((qs.map Pair.line ++ [Line.empty]).foldlM add) = _
  rw [hheader, Option.bind_some, List.foldlM_append, hrest]
  rfl

/-- Pairs, and further pairs under a header, are read as a record whose last field is the record
under the header. -/
theorem read_document (hname : IsKey name) (hps : (ps.map (·.key) ++ [name]).Nodup)
    (hqs : (qs.map (·.key)).Nodup) :
    Toml.read (document ps name qs) =
      some (.record (ps.map Pair.field ++ [(name, .record (qs.map Pair.field))])) := by
  have hstart : ∀ c ∈ (document ps name qs).toList.head?, c.toNat ≠ 0xfeff := by
    intro c hc
    refine toNat_ne_byteOrder ?_
    cases ps with
    | nil =>
        refine .inr ?_
        simpa [document] using hc.symm
    | cons p ps =>
        obtain ⟨k, ks, hks, hk⟩ := p.isKey.exists_cons
        have hck : c = k := by
          simpa [document, Pair.text, Toml.pair, hks] using hc.symm
        exact .inl (hck ▸ hk)
  rw [read_of_lines hstart (readsAs_document hname) (foldlM_add_document hps hqs),
    closeEntries_append, closeEntries_pairs, closeEntries, Node.close, closeEntries_pairs]
  rfl

end LabTrust.Toml
