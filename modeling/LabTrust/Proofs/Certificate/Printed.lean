/-
Names as people read them.

A leaf is held against its issuer by names as they are printed. Values stand there as they are, so
what looks like two attributes may be one whose value holds a mark, a type and a sign.
* `Attribute.arcs_eq_of_typeName_eq`: types that are printed alike are the same.
* `DistinguishedName.spell_entries`: a printed name is a row of entries, each with a mark, a type, a
  sign and a value.
* `DistinguishedName.IsClear`: names of strings in which nothing looks like another attribute.
* `DistinguishedName.content_eq_of_text_eq`: clear names that are printed alike are the same.
* `DistinguishedName.exists_text_eq_of_not_isClear`: every other name of strings is printed like one
  that it is not.
* `Certificate.clear_names_are_told_apart`: what it means that a leaf is found to be issued by the
  holder of a certificate.
-/
import LabTrust.Proofs.Certificate.Issuers
import LabTrust.Proofs.Host

namespace LabTrust

/-! ### Types -/

namespace Der

variable {id id' : Bytes}

/-- Numbers with dots between them are told apart. -/
lemma dotted_injective :
    Function.Injective fun ns : List ℕ => ['.'].intercalate (ns.map (Nat.toDigits 10)) := by
  have hdigits : Function.Injective (Nat.toDigits 10) :=
    Function.LeftInverse.injective fun n => Nat.ofDigitChars_ten_toDigits
  have hsplit : ∀ ns ≠ [], (['.'].intercalate (ns.map (Nat.toDigits 10))).splitOn '.' =
      ns.map (Nat.toDigits 10) := by
    intro ns hne
    refine List.splitOn_intercalate '.' (fun part hpart hmem => ?_) (mt List.map_eq_nil_iff.mp hne)
    obtain ⟨n, -, rfl⟩ := List.mem_map.mp hpart
    exact absurd (Nat.isDigit_of_mem_toDigits (by decide) (by decide) hmem) (by decide)
  -- numbers have digits, so only no numbers at all leave nothing
  have hempty : ∀ ns ≠ [], ['.'].intercalate (ns.map (Nat.toDigits 10)) ≠ [] := by
    intro ns hne hnil
    have hmap := hsplit ns hne
    rw [hnil, List.splitOn_nil] at hmap
    obtain ⟨n, -, hn⟩ := List.mem_map.mp (hmap ▸ List.mem_singleton_self ([] : List Char))
    exact Nat.toDigits_ne_nil hn
  intro ns ms h
  dsimp only at h
  rcases eq_or_ne ns [] with rfl | hns <;> rcases eq_or_ne ms [] with rfl | hms
  · rfl
  · exact absurd h.symm (hempty ms hms)
  · exact absurd h (hempty ns hns)
  · exact List.map_injective_iff.mpr hdigits (by rw [← hsplit ns hns, h, hsplit ms hms])

lemma toList_idText (id : Bytes) :
    (idText id).toList = ['.'].intercalate ((arcs id).map (Nat.toDigits 10)) := by
  rw [idText, String.toList_intercalate, List.map_map]
  congr 1
  exact List.map_congr_left fun n _ => by simp [Nat.repr_eq_ofList_toDigits]

/-- Identifiers that are printed alike are the same numbers. -/
lemma arcs_eq_of_idText_eq (h : idText id = idText id') : arcs id = arcs id' := by
  have hlist := congrArg String.toList h
  rw [toList_idText, toList_idText] at hlist
  exact dotted_injective hlist

/-- An identifier is printed with digits and dots. -/
lemma isDigit_of_mem_idText {c : Char} (h : c ∈ (idText id).toList) :
    c = '.' ∨ c.isDigit = true := by
  rw [toList_idText] at h
  refine (Host.mem_intercalate h).imp_right fun ⟨part, hpart, hc⟩ => ?_
  obtain ⟨n, -, rfl⟩ := List.mem_map.mp hpart
  exact Nat.isDigit_of_mem_toDigits (by decide) (by decide) hc

end Der

namespace Attribute

variable {id id' : Bytes}

/-- A type has a name of its own or is printed as numbers. -/
lemma typeName_cases (id : Bytes) :
    (id, typeName id) ∈ names ∨ typeName id = "OID(" ++ Der.idText id ++ ")" := by
  cases h : names.lookup id with
  | none => exact .inr (by rw [typeName, h, Option.getD_none])
  | some name =>
      obtain ⟨before, after, hnames, -⟩ := List.lookup_eq_some_iff.mp h
      rw [typeName, h, Option.getD_some, hnames]
      exact .inl (List.mem_append_right _ List.mem_cons_self)

/-- Types that are printed alike are the same numbers. -/
lemma arcs_eq_of_typeName_eq (h : typeName id = typeName id') : Der.arcs id = Der.arcs id' := by
  have hnames : ∀ p ∈ names, ∀ q ∈ names, p.2 = q.2 → p.1 = q.1 := by decide
  have hnumbers : ∀ p ∈ names, ∀ s : String, p.2 ≠ "OID(" ++ s := by
    have htake : ∀ p ∈ names, p.2.toList.take 4 ≠ ['O', 'I', 'D', '('] := by decide
    intro p hp s hs
    exact htake p hp (by rw [hs, String.toList_append]; rfl)
  rcases typeName_cases id with hid | hid <;> rcases typeName_cases id' with hid' | hid'
  · exact congrArg Der.arcs (hnames _ hid _ hid' h)
  · exact absurd (h.trans (hid'.trans (String.append_assoc ..))) (hnumbers _ hid _)
  · exact absurd (h.symm.trans (hid.trans (String.append_assoc ..))) (hnumbers _ hid' _)
  · rw [hid, hid', String.append_left_inj, String.append_right_inj] at h
    exact Der.arcs_eq_of_idText_eq h

/-- The characters of a type. -/
lemma isAlphanum_of_mem_typeName {c : Char} (h : c ∈ (typeName id).toList) :
    c.isAlphanum = true ∨ c ∈ ['.', '(', ')'] := by
  have hnames : ∀ p ∈ names, p.2.toList.all Char.isAlphanum = true := by decide
  rcases typeName_cases id with hid | hid
  · exact .inl (List.all_eq_true.mp (hnames _ hid) c h)
  · rw [hid, String.toList_append, String.toList_append, List.mem_append, List.mem_append] at h
    rcases h with (h | h) | h
    · have hfront : ∀ c ∈ ['O', 'I', 'D', '('], c.isAlphanum = true ∨ c ∈ ['.', '(', ')'] :=
        List.forall_mem_cons.mpr ⟨by decide, by simp⟩
      exact hfront c h
    · rcases Der.isDigit_of_mem_idText h with rfl | h
      · exact .inr (by decide)
      · exact .inl (by rw [Char.isAlphanum, h, Bool.or_true])
    · exact .inr (by simp_all)

/-- Neither a sign nor a space stands in a type. -/
lemma not_mem_typeName {c : Char} (hc : c = '=' ∨ c = ' ') : c ∉ (typeName id).toList := by
  intro hmem
  have hchars := isAlphanum_of_mem_typeName hmem
  rcases hc with rfl | rfl <;> exact absurd hchars (by decide)

/-- The value of an attribute as it is printed. -/
def shown (a : Attribute) : String := a.valueText?.getD ""

/-- An attribute as it is printed: its type, a sign and its value. -/
def printed (a : Attribute) : String := typeName a.id ++ "=" ++ a.shown

/-- An attribute whose value is a string that can be read. -/
def IsText (a : Attribute) : Prop :=
  (octetStrings.contains a.tag = true ∨ a.tag = Der.bmpString) ∧ a.valueText? = some a.shown

instance : DecidablePred IsText := fun a =>
  inferInstanceAs (Decidable ((octetStrings.contains a.tag = true ∨ a.tag = Der.bmpString) ∧ _))

/-- What an attribute says: the numbers of its type, and its value as text. -/
def content (a : Attribute) : List ℕ × Option String := (Der.arcs a.id, a.valueText?)

end Attribute

/-- Rows are told apart at the first place where something stands. -/
lemma eq_of_append_cons_eq {α : Type} {a : α} {x y z w : List α} (hx : a ∉ x) (hy : a ∉ y)
    (h : x ++ a :: z = y ++ a :: w) : x = y ∧ z = w := by
  induction x generalizing y with
  | nil =>
      cases y with
      | nil => exact ⟨rfl, List.tail_eq_of_cons_eq h⟩
      | cons b y => exact absurd (List.head_eq_of_cons_eq h ▸ List.mem_cons_self) hy
  | cons b x ih =>
      cases y with
      | nil => exact absurd (List.head_eq_of_cons_eq h ▸ List.mem_cons_self) hx
      | cons c y =>
          rw [List.cons_append, List.cons_append] at h
          obtain ⟨rfl, htail⟩ := List.cons_eq_cons.mp h
          obtain ⟨rfl, rfl⟩ := ih (List.not_mem_of_not_mem_cons hx)
            (List.not_mem_of_not_mem_cons hy) htail
          exact ⟨rfl, rfl⟩

namespace DistinguishedName

open Attribute (typeName)

/-! ### Entries -/

/-- What stands before an attribute: a comma if it is the first of its set, else a plus. -/
def marks : List String := [", ", " + "]

/-- An attribute as it stands in a printed name. -/
@[ext]
structure Entry where
  mark : String
  type : String
  value : String

/-- What is printed of an entry. -/
def Entry.spell (e : Entry) : List Char :=
  e.mark.toList ++ e.type.toList ++ '=' :: e.value.toList

/-- The attributes of a set, or those that are left of it; the first stands behind a mark. -/
def row (mark : String) : List Attribute → List Entry
  | [] => []
  | a :: rest => ⟨mark, typeName a.id, a.shown⟩ :: row " + " rest

/-- The attributes of a name in a row. -/
def entries (n : DistinguishedName) : List Entry := n.flatMap (row ", ")

/-- A name whose values are strings that can be read. -/
def IsText (n : DistinguishedName) : Prop := ∀ set ∈ n, ∀ a ∈ set, a.IsText

instance : DecidablePred IsText := fun n =>
  inferInstanceAs (Decidable (∀ set ∈ n, ∀ a ∈ set, a.IsText))

/-- What a name says: its sets of types and values, in order. -/
def content (n : DistinguishedName) : List (List (List ℕ × Option String)) :=
  n.map fun set => set.map Attribute.content

variable {n m : DistinguishedName} {set : List Attribute} {mark : String}

lemma joinWith_cons_ne_empty {t : String} (ht : t ≠ "") (texts : List String) :
    joinWith mark (t :: texts) ≠ "" := by
  rw [ne_eq, ← String.toList_inj, toList_joinWith_cons ht]
  exact fun hnil => ht (String.toList_inj.mp (List.append_eq_nil_iff.mp hnil).1)

/-- A name of strings is printed with marks between its sets and between their attributes. -/
lemma text_of_isText (h : n.IsText) :
    n.text = joinWith ", " (n.map fun set => joinWith " + " (set.map Attribute.printed)) := by
  have hprinted : ∀ set ∈ n, ∀ a ∈ set, a.text? = some a.printed := by
    intro set hset a ha
    rw [Attribute.text?, (h set hset a ha).2, Option.map_some, Attribute.printed]
  rw [text_eq_joinWith fun set hset a ha => ⟨_, hprinted set hset a ha⟩]
  refine congrArg _ (List.map_congr_left fun set hset => congrArg _ ?_)
  exact List.map_congr_left fun a ha => by rw [hprinted set hset a ha, Option.getD_some]

lemma spell_mk (mark : String) (a : Attribute) :
    Entry.spell ⟨mark, typeName a.id, a.shown⟩ = mark.toList ++ a.printed.toList := by
  simp [Entry.spell, Attribute.printed]

lemma printed_ne_empty (a : Attribute) : a.printed ≠ "" := by
  simp [Attribute.printed]

lemma joinWith_printed_ne_empty (hne : set ≠ []) :
    joinWith " + " (set.map Attribute.printed) ≠ "" := by
  obtain ⟨a, rest, rfl⟩ := List.exists_cons_of_ne_nil hne
  exact joinWith_cons_ne_empty (printed_ne_empty a) _

/-- A set is printed as its row, but for the mark at the front. -/
lemma spell_row (mark : String) (hne : set ≠ []) :
    (row mark set).flatMap Entry.spell =
      mark.toList ++ (joinWith " + " (set.map Attribute.printed)).toList := by
  have hrow : ∀ rest : List Attribute, (row " + " rest).flatMap Entry.spell =
      (rest.map Attribute.printed).flatMap fun t => " + ".toList ++ t.toList := by
    intro rest
    induction rest with
    | nil => rfl
    | cons a rest ih =>
        rw [row, List.flatMap_cons, spell_mk, ih, List.map_cons, List.flatMap_cons]
  obtain ⟨a, rest, rfl⟩ := List.exists_cons_of_ne_nil hne
  rw [row, List.flatMap_cons, spell_mk, hrow, List.map_cons,
    toList_joinWith_cons (printed_ne_empty a), List.append_assoc]

/-- A name is printed as its row of entries, but for the mark at the front. -/
lemma spell_entries (h : n.IsText) (hfull : [] ∉ n) (hne : n ≠ []) :
    n.entries.flatMap Entry.spell = ", ".toList ++ n.text.toList := by
  have hspell : ∀ sets : DistinguishedName, [] ∉ sets → sets.entries.flatMap Entry.spell =
      (sets.map fun set => joinWith " + " (set.map Attribute.printed)).flatMap fun t =>
        ", ".toList ++ t.toList := by
    intro sets hsets
    rw [entries, List.flatMap_assoc, List.flatMap_map]
    exact List.flatMap_congr fun set hset =>
      spell_row ", " (ne_of_mem_of_not_mem hset hsets)
  obtain ⟨set, rest, rfl⟩ := List.exists_cons_of_ne_nil hne
  have hset : set ≠ [] := fun hnil => hfull (hnil ▸ List.mem_cons_self)
  rw [hspell _ hfull, text_of_isText h, List.map_cons, List.flatMap_cons,
    toList_joinWith_cons (joinWith_printed_ne_empty hset), List.append_assoc]

lemma text_ne_empty (h : n.IsText) (hfull : [] ∉ n) (hne : n ≠ []) : n.text ≠ "" := by
  obtain ⟨set, rest, rfl⟩ := List.exists_cons_of_ne_nil hne
  rw [text_of_isText h]
  exact joinWith_cons_ne_empty
    (joinWith_printed_ne_empty fun hnil => hfull (hnil ▸ List.mem_cons_self)) _

/-- Names are printed alike if and only if their entries are. -/
lemma spell_eq_iff_text_eq (hn : n.IsText) (hm : m.IsText) (hfull : [] ∉ n) (hfull' : [] ∉ m) :
    n.entries.flatMap Entry.spell = m.entries.flatMap Entry.spell ↔ n.text = m.text := by
  have hmark : ∀ s : List Char, [] ≠ ", ".toList ++ s := fun s => List.cons_ne_nil _ _ |>.symm
  rcases eq_or_ne n [] with rfl | hne <;> rcases eq_or_ne m [] with rfl | hne'
  · exact iff_of_true rfl rfl
  · rw [spell_entries hm hfull' hne']
    exact iff_of_false (hmark _) (text_ne_empty hm hfull' hne').symm
  · rw [spell_entries hn hfull hne]
    exact iff_of_false (hmark _).symm (text_ne_empty hn hfull hne)
  · rw [spell_entries hn hfull hne, spell_entries hm hfull' hne', List.append_right_inj,
      String.toList_inj]

/-- The row of entries tells which attributes stand together. -/
def gather : List Entry → List (String × String) × List (List (String × String))
  | [] => ([], [])
  | e :: rest =>
    if e.mark = ", " then ([], ((e.type, e.value) :: (gather rest).1) :: (gather rest).2)
    else ((e.type, e.value) :: (gather rest).1, (gather rest).2)

lemma gather_row (set : List Attribute) (rest : List Entry) :
    gather (row " + " set ++ rest) =
      (set.map (fun a => (typeName a.id, a.shown)) ++ (gather rest).1, (gather rest).2) := by
  induction set with
  | nil => rfl
  | cons a set ih =>
      rw [row, List.cons_append, gather, if_neg (show " + " ≠ ", " by decide), ih, List.map_cons,
        List.cons_append]

lemma gather_entries (hfull : [] ∉ n) :
    gather n.entries = ([], n.map fun set => set.map fun a => (typeName a.id, a.shown)) := by
  induction n with
  | nil => rfl
  | cons set n ih =>
      rw [List.mem_cons, not_or] at hfull
      obtain ⟨a, rest, rfl⟩ := List.exists_cons_of_ne_nil (Ne.symm hfull.1)
      have hentries : entries ((a :: rest) :: n) =
          ⟨", ", typeName a.id, a.shown⟩ :: (row " + " rest ++ entries n) := rfl
      rw [hentries, gather, if_pos rfl, gather_row, ih hfull.2, List.append_nil, List.map_cons,
        List.map_cons]

/-- Names with the same entries say the same. -/
lemma content_eq_of_entries_eq (hn : n.IsText) (hm : m.IsText) (hfull : [] ∉ n) (hfull' : [] ∉ m)
    (h : n.entries = m.entries) : n.content = m.content := by
  obtain ⟨numbers, hnumbers⟩ := (Function.factorsThrough_iff Der.arcs).mp
    fun _ _ h => Attribute.arcs_eq_of_typeName_eq h
  have hcontent : ∀ {k : DistinguishedName}, k.IsText → [] ∉ k →
      k.content = (gather k.entries).2.map (·.map fun p => (numbers p.1, some p.2)) := by
    intro k hk hfull
    rw [gather_entries hfull, List.map_map]
    refine List.map_congr_left fun set hset => ?_
    rw [Function.comp_apply, List.map_map]
    refine List.map_congr_left fun a ha => ?_
    rw [Attribute.content, (hk set hset a ha).2, hnumbers]
    rfl
  rw [hcontent hn hfull, hcontent hm hfull', h]

/-! ### Clear names -/

/-- What stands before the value of an attribute: a mark, a type and a sign. -/
def IsOpening (s : List Char) : Prop :=
  ∃ mark ∈ marks, ∃ id, s = mark.toList ++ (typeName id).toList ++ ['=']

/-- A name of strings in which nothing looks like the opening of another attribute. -/
def IsClear (n : DistinguishedName) : Prop :=
  n.IsText ∧ ∀ set ∈ n, ∀ a ∈ set, ∀ opening, IsOpening opening → ¬ opening <:+: a.shown.toList

/-- A name of strings without signs is clear. -/
lemma isClear_of_not_mem (h : n.IsText) (hsign : ∀ set ∈ n, ∀ a ∈ set, '=' ∉ a.shown.toList) :
    n.IsClear := by
  refine ⟨h, fun set hset a ha opening hopening hwithin => hsign set hset a ha (hwithin.subset ?_)⟩
  obtain ⟨mark, -, id, rfl⟩ := hopening
  exact List.mem_append_right _ (List.mem_singleton_self '=')

/-- An entry of a clear name. -/
structure Entry.IsClear (e : Entry) : Prop where
  mark : e.mark ∈ marks
  type : ∃ id, e.type = typeName id
  value : ∀ opening, IsOpening opening → ¬ opening <:+: e.value.toList

/-- What stands before the value. -/
def Entry.head (e : Entry) : List Char := e.mark.toList ++ e.type.toList

variable {e e' : Entry} {es es' : List Entry}

lemma Entry.spell_eq (e : Entry) : e.spell = e.head ++ '=' :: e.value.toList := rfl

namespace Entry.IsClear

lemma isOpening (h : e.IsClear) : IsOpening (e.head ++ ['=']) := by
  obtain ⟨id, hid⟩ := h.type
  exact ⟨e.mark, h.mark, id, by rw [Entry.head, hid]⟩

lemma not_mem_head (h : e.IsClear) : '=' ∉ e.head := by
  obtain ⟨id, hid⟩ := h.type
  have hmarks : ∀ mark ∈ marks, '=' ∉ mark.toList := by decide
  rw [Entry.head, hid, List.mem_append, not_or]
  exact ⟨hmarks _ h.mark, Attribute.not_mem_typeName (.inl rfl)⟩

/-- The head of an entry is not the end of another one's: a mark is what stands up to the last
space, and no mark is the end of another. -/
lemma head_inj (h : e.IsClear) (h' : e'.IsClear) {w : List Char} (heq : w ++ e.head = e'.head) :
    w = [] ∧ e.mark = e'.mark ∧ e.type = e'.type := by
  have hspace : ∀ mark ∈ marks, mark.toList = mark.toList.dropLast ++ [' '] := by decide
  have hends : ∀ mark ∈ marks, ∀ mark' ∈ marks, mark.toList <:+ mark'.toList → mark = mark' := by
    decide
  obtain ⟨id, hid⟩ := h.type
  obtain ⟨id', hid'⟩ := h'.type
  have hword : ∀ id, ' ' ∉ (typeName id).toList.reverse := fun id hmem =>
    Attribute.not_mem_typeName (.inr rfl) (List.mem_reverse.mp hmem)
  have hreverse := congrArg List.reverse heq
  rw [Entry.head, Entry.head, hid, hid', hspace _ h.mark, hspace _ h'.mark] at hreverse
  simp only [List.reverse_append, List.reverse_cons, List.nil_append, List.append_assoc,
    List.cons_append] at hreverse
  obtain ⟨htype, -⟩ := eq_of_append_cons_eq (hword id) (hword id') hreverse
  have htype : e.type = e'.type := by
    rw [hid, hid', ← String.toList_inj, ← List.reverse_inj, htype]
  have hmark : w ++ e.mark.toList = e'.mark.toList := by
    rw [Entry.head, Entry.head, htype, ← List.append_assoc] at heq
    exact List.append_cancel_right heq
  have hsame := hends _ h.mark _ h'.mark ⟨w, hmark⟩
  rw [hsame] at hmark
  exact ⟨List.append_left_eq_self.mp hmark, hsame, htype⟩

end Entry.IsClear

/-- A value does not go on where another one ends: what stands there is an opening, which can
neither be in the value nor begin in it. -/
lemma eq_nil_of_append (he : e.IsClear) (hes : ∀ d ∈ es, d.IsClear) (hes' : ∀ d ∈ es', d.IsClear)
    {front w : List Char} (hvalue : e.value.toList = front ++ w)
    (h : es.flatMap Entry.spell = w ++ es'.flatMap Entry.spell) : w = [] := by
  cases es with
  | nil => exact (List.append_eq_nil_iff.mp h.symm).1
  | cons d ds =>
      have hd := hes d List.mem_cons_self
      have hwhole : ∀ later, w ≠ d.head ++ ['='] ++ later := by
        rintro later rfl
        exact he.value _ hd.isOpening (hvalue ▸ List.infix_append' front _ later)
      rw [List.flatMap_cons, Entry.spell_eq, List.append_assoc, List.cons_append,
        ← List.singleton_append, ← List.append_assoc] at h
      rcases List.append_eq_append_iff.mp h with ⟨later, hw, -⟩ | ⟨tail, htail, hrest⟩
      · exact absurd hw (hwhole later)
      rcases List.eq_nil_or_concat tail with rfl | ⟨x, c, rfl⟩
      · exact absurd (by rw [htail, List.append_nil, List.append_nil]) (hwhole [])
      · -- the opening begins in the value and ends in the entries after it
        rw [List.concat_eq_append, ← List.append_assoc] at htail
        obtain ⟨hhead, hsign⟩ := List.append_inj' htail rfl
        obtain rfl := List.head_eq_of_cons_eq hsign
        cases es' with
        | nil => simp at hrest
        | cons d' ds' =>
            rw [List.flatMap_cons, Entry.spell_eq, List.append_assoc, List.cons_append,
              List.concat_eq_append, List.append_assoc, List.singleton_append] at hrest
            have hd' := hes' d' List.mem_cons_self
            have hx : '=' ∉ x := fun hmem =>
              hd.not_mem_head (hhead ▸ List.mem_append_right w hmem)
            obtain ⟨rfl, -⟩ := eq_of_append_cons_eq hd'.not_mem_head hx hrest
            exact (hd'.head_inj hd hhead.symm).1

/-- Rows of clear entries that are printed alike are the same. -/
lemma eq_of_spell_eq (hes : ∀ d ∈ es, d.IsClear) (hes' : ∀ d ∈ es', d.IsClear)
    (h : es.flatMap Entry.spell = es'.flatMap Entry.spell) : es = es' := by
  have hne : ∀ (e : Entry) (ds : List Entry), [] ≠ (e :: ds).flatMap Entry.spell := by
    intro e ds
    simp [Entry.spell_eq]
  induction es generalizing es' with
  | nil =>
      cases es' with
      | nil => rfl
      | cons e' ds' => exact absurd h (hne e' ds')
  | cons e ds ih =>
      cases es' with
      | nil => exact absurd h.symm (hne e ds)
      | cons e' ds' =>
          obtain ⟨he, hds⟩ := List.forall_mem_cons.mp hes
          obtain ⟨he', hds'⟩ := List.forall_mem_cons.mp hes'
          simp only [List.flatMap_cons, Entry.spell_eq, List.append_assoc, List.cons_append] at h
          obtain ⟨hhead, hvalues⟩ := eq_of_append_cons_eq he.not_mem_head he'.not_mem_head h
          obtain ⟨-, hmark, htype⟩ := he.head_inj he' (w := []) hhead
          obtain ⟨hvalue, hrest⟩ : e.value.toList = e'.value.toList ∧
              ds.flatMap Entry.spell = ds'.flatMap Entry.spell := by
            rcases List.append_eq_append_iff.mp hvalues with ⟨w, hw, hrest⟩ | ⟨w, hw, hrest⟩
            · obtain rfl := eq_nil_of_append he' hds hds' hw hrest
              exact ⟨by rw [hw, List.append_nil], hrest⟩
            · obtain rfl := eq_nil_of_append he hds' hds hw hrest
              exact ⟨by rw [hw, List.append_nil], hrest.symm⟩
          rw [ih hds hds' hrest, Entry.ext hmark htype (String.toList_inj.mp hvalue)]

lemma IsClear.entries (h : n.IsClear) : ∀ e ∈ n.entries, e.IsClear := by
  have hrow : ∀ set : List Attribute, ∀ mark ∈ marks, ∀ e ∈ row mark set, e.mark ∈ marks ∧
      ∃ a ∈ set, e.type = typeName a.id ∧ e.value = a.shown := by
    intro set
    induction set with
    | nil => simp [row]
    | cons a set ih =>
        intro mark hmark e he
        rcases List.mem_cons.mp he with rfl | he
        · exact ⟨hmark, a, List.mem_cons_self, rfl, rfl⟩
        · obtain ⟨hmark, b, hb, heq⟩ := ih " + " (by decide) e he
          exact ⟨hmark, b, List.mem_cons_of_mem a hb, heq⟩
  intro e he
  obtain ⟨set, hset, he⟩ := List.mem_flatMap.mp he
  obtain ⟨hmark, a, ha, htype, hvalue⟩ := hrow set ", " (by decide) e he
  exact ⟨hmark, ⟨a.id, htype⟩, hvalue ▸ h.2 set hset a ha⟩

/-- Clear names that are printed alike say the same. -/
lemma content_eq_of_text_eq (hn : n.IsClear) (hm : m.IsClear) (hfull : [] ∉ n) (hfull' : [] ∉ m)
    (h : n.text = m.text) : n.content = m.content :=
  content_eq_of_entries_eq hn.1 hm.1 hfull hfull' (eq_of_spell_eq hn.entries hm.entries
    ((spell_eq_iff_text_eq hn.1 hm.1 hfull hfull').mpr h))

/-! ### Names that are not clear -/

lemma isText_ofText (id : Bytes) (s : String) :
    (Attribute.ofText id s).IsText ∧ (Attribute.ofText id s).shown = s := by
  rw [Attribute.IsText, Attribute.shown, Attribute.valueText?_ofText]
  exact ⟨⟨.inl rfl, rfl⟩, rfl⟩

lemma row_append (mark : String) (front back : List Attribute) :
    row mark (front ++ back) = row mark front ++ row (if front = [] then mark else " + ") back := by
  induction front generalizing mark with
  | nil => rfl
  | cons a front ih =>
      rw [List.cons_append, row, row, ih, if_neg (List.cons_ne_nil a front), ite_self,
        List.cons_append]

/-- There are as many entries as attributes. -/
lemma length_entries (n : DistinguishedName) :
    n.entries.length = (n.content.map List.length).sum := by
  have hrow : ∀ mark (set : List Attribute), (row mark set).length = set.length := by
    intro mark set
    induction set generalizing mark with
    | nil => rfl
    | cons a set ih => rw [row, List.length_cons, ih, List.length_cons]
  rw [entries, List.length_flatMap, content, List.map_map]
  exact congrArg List.sum (List.map_congr_left fun set _ => by simp [hrow])

/-- An attribute of a name can be replaced by two: behind a comma the second begins a new set. -/
lemma exists_entries_split {before after : DistinguishedName} {front back : List Attribute}
    {a a' b : Attribute} (h : IsText (before ++ (front ++ a :: back) :: after))
    (hfull : [] ∉ before ++ (front ++ a :: back) :: after) (hmark : mark ∈ marks)
    (ha' : a'.IsText) (hb : b.IsText) (hid : a'.id = a.id) :
    ∃ (m : DistinguishedName) (left right : List Entry) (sign : String), m.IsText ∧ [] ∉ m ∧
      entries (before ++ (front ++ a :: back) :: after) =
        left ++ ⟨sign, typeName a.id, a.shown⟩ :: right ∧
      m.entries =
        left ++ ⟨sign, typeName a.id, a'.shown⟩ :: ⟨mark, typeName b.id, b.shown⟩ :: right := by
  let left : List Entry := entries before ++ row ", " front
  let right : List Entry := row " + " back ++ entries after
  let sign : String := if front = [] then ", " else " + "
  have hentries : entries (before ++ (front ++ a :: back) :: after) =
      left ++ ⟨sign, typeName a.id, a.shown⟩ :: right := by
    simp [entries, row_append, row, left, right, sign]
  obtain ⟨hbefore, hset, hafter⟩ := (List.forall_mem_append.mp h).imp_right List.forall_mem_cons.mp
  obtain ⟨hfront, -, hback⟩ := (List.forall_mem_append.mp hset).imp_right List.forall_mem_cons.mp
  rw [List.mem_append, List.mem_cons, not_or, not_or] at hfull
  obtain rfl | rfl : mark = ", " ∨ mark = " + " := by simpa [marks] using hmark
  · refine ⟨before ++ (front ++ [a']) :: (b :: back) :: after, left, right, sign, ?_, ?_,
      hentries, ?_⟩
    · simp only [IsText, List.forall_mem_append, List.forall_mem_cons]
      exact ⟨hbefore, ⟨hfront, ha', by simp⟩, ⟨hb, hback⟩, hafter⟩
    · simp [hfull]
    · simp [entries, row_append, row, left, right, sign, hid]
  · refine ⟨before ++ (front ++ a' :: b :: back) :: after, left, right, sign, ?_, ?_, hentries, ?_⟩
    · simp only [IsText, List.forall_mem_append, List.forall_mem_cons]
      exact ⟨hbefore, ⟨hfront, ha', hb, hback⟩, hafter⟩
    · simp [hfull]
    · simp [entries, row_append, row, left, right, sign, hid]

/-- A name of strings that is not clear is printed like one that it is not. -/
theorem exists_text_eq_of_not_isClear (h : n.IsText) (hfull : [] ∉ n) (hclear : ¬ n.IsClear) :
    ∃ m : DistinguishedName, m.IsText ∧ [] ∉ m ∧ m.text = n.text ∧ m.content ≠ n.content := by
  simp only [IsClear, not_and, not_forall, not_not] at hclear
  obtain ⟨set, hset, a, ha, opening, ⟨mark, hmark, id, rfl⟩, x, y, hvalue⟩ := hclear h
  obtain ⟨before, after, rfl⟩ := List.append_of_mem hset
  obtain ⟨front, back, rfl⟩ := List.append_of_mem ha
  -- the value ends where the opening is, and what follows is the value of a new attribute
  obtain ⟨hx, hx'⟩ := isText_ofText a.id (String.ofList x)
  obtain ⟨hy, hy'⟩ := isText_ofText id (String.ofList y)
  obtain ⟨m, left, right, sign, hm, hfull', hentries, hentries'⟩ :=
    exists_entries_split h hfull hmark hx hy rfl
  refine ⟨m, hm, hfull', ?_, fun hcontent => ?_⟩
  · refine (spell_eq_iff_text_eq hm h hfull' hfull).mp ?_
    rw [hentries, hentries', hx', hy']
    simp [Entry.spell, ← hvalue, Attribute.ofText]
  · have hlength := congrArg (fun c => (c.map List.length).sum) hcontent
    simp only [← length_entries, hentries, hentries', List.length_append, List.length_cons]
      at hlength
    omega

end DistinguishedName

/-! ### Names of certificates -/

namespace Der

/-- What holds of every item that can be read holds of all items that are. -/
lemma forall_mem_many {α : Type} {item : Bytes → Option (α × Bytes)} {P : α → Prop}
    (hitem : ∀ bs a rest, item bs = some (a, rest) → P a) (bound : ℕ) (bs : Bytes) :
    ∀ a ∈ (many item bound bs).1, P a := by
  induction bound generalizing bs with
  | zero => simp [many]
  | succ bound ih =>
      rw [many]
      split
      · simp
      · next a rest h => exact List.forall_mem_cons.mpr ⟨hitem bs a rest h, ih rest⟩

end Der

/-- There are attributes in every set of a name that was read. -/
lemma DistinguishedName.nil_not_mem_of_read? {bs rest : Bytes} {n : DistinguishedName}
    (h : read? bs = some (n, rest)) : [] ∉ n := by
  obtain ⟨⟨body, after⟩, -, hn⟩ := Option.bind_eq_some_iff.mp h
  obtain ⟨rfl, -⟩ := Prod.mk.inj (Option.some.inj hn)
  have hset : ∀ bs set rest, readSet? bs = some (set, rest) → set ≠ [] := by
    intro bs set rest hread
    obtain ⟨⟨body, after⟩, -, hread⟩ := Option.bind_eq_some_iff.mp hread
    dsimp only at hread
    split at hread
    · exact absurd hread (by simp)
    · next hne =>
      obtain ⟨rfl, -⟩ := Prod.mk.inj (Option.some.inj hread)
      exact fun hnil => hne (List.isEmpty_iff.mpr hnil)
  exact fun hmem => Der.forall_mem_many hset _ _ [] hmem rfl

namespace Certificate

/-- The names of a certificate that was read. -/
lemma nil_not_mem_of_ofPem {text : String} {c : Certificate} (h : ofPem text = .ok c) :
    [] ∉ c.issuer ∧ [] ∉ c.subject := by
  obtain ⟨bs, -, h⟩ := Except.bind_eq_ok_iff.mp h
  rw [ofBytes] at h
  split at h
  · simp at h
  next c' hread =>
  obtain rfl := Except.ok.inj h
  rw [read?] at hread
  iterate 5 obtain ⟨_, -, hread⟩ := Option.bind_eq_some_iff.mp hread
  obtain ⟨issuer, hissuer, hread⟩ := Option.bind_eq_some_iff.mp hread
  iterate 3 obtain ⟨_, -, hread⟩ := Option.bind_eq_some_iff.mp hread
  obtain ⟨subject, hsubject, hread⟩ := Option.bind_eq_some_iff.mp hread
  iterate 6 obtain ⟨_, -, hread⟩ := Option.bind_eq_some_iff.mp hread
  obtain rfl := Option.some.inj hread
  exact ⟨DistinguishedName.nil_not_mem_of_read? hissuer,
    DistinguishedName.nil_not_mem_of_read? hsubject⟩

/-- A certificate is found to be issued by the holder of another if and only if both can be read,
its signature is good under the other's key, and its issuer is printed like the other's subject. -/
lemma checkIssuedBy_eq_ok_iff_exists {suite : Suite} {leafText authorityText : String} :
    checkIssuedBy suite leafText authorityText = .ok () ↔
      ∃ leaf authority, ofPem leafText = .ok leaf ∧ ofPem authorityText = .ok authority ∧
        isSignedBy suite leaf authority = true ∧ leaf.issuer.text = authority.subject.text := by
  have hsteps : ∀ leaf authority : Certificate,
      ((checkIssuerName leaf authority).bind fun _ =>
        if isSignedBy suite leaf authority then (.ok () : Except Error Unit)
        else .error (.badSignature "the signature is not the authority's")) = .ok () ↔
      isSignedBy suite leaf authority = true ∧ leaf.issuer.text = authority.subject.text := by
    intro leaf authority
    rw [checkIssuerName]
    split <;> split <;> simp_all [Except.bind]
  constructor
  · intro h
    obtain ⟨leafBytes, hleafBytes, h⟩ := Except.bind_eq_ok_iff.mp h
    obtain ⟨authorityBytes, hauthorityBytes, h⟩ := Except.bind_eq_ok_iff.mp h
    obtain ⟨leaf, hleaf, h⟩ := Except.bind_eq_ok_iff.mp h
    obtain ⟨authority, hauthority, h⟩ := Except.bind_eq_ok_iff.mp h
    exact ⟨leaf, authority, Except.bind_eq_ok_iff.mpr ⟨_, hleafBytes, hleaf⟩,
      Except.bind_eq_ok_iff.mpr ⟨_, hauthorityBytes, hauthority⟩, (hsteps leaf authority).mp h⟩
  · rintro ⟨leaf, authority, hleaf, hauthority, h⟩
    obtain ⟨leafBytes, hleafBytes, hleaf⟩ := Except.bind_eq_ok_iff.mp hleaf
    obtain ⟨authorityBytes, hauthorityBytes, hauthority⟩ := Except.bind_eq_ok_iff.mp hauthority
    exact Except.bind_eq_ok_iff.mpr ⟨_, hleafBytes, Except.bind_eq_ok_iff.mpr ⟨_, hauthorityBytes,
      Except.bind_eq_ok_iff.mpr ⟨_, hleaf, Except.bind_eq_ok_iff.mpr ⟨_, hauthority,
        (hsteps leaf authority).mpr h⟩⟩⟩⟩

/-- A certificate is found to be issued by the holder of another if and only if both can be read,
its signature is good under the other's key, and its issuer is printed like the other's subject. If
both names are clear, they are the same then: the same types and values in the same sets, in the
same order. -/
theorem clear_names_are_told_apart (suite : Suite) (leafText authorityText : String) :
    (checkIssuedBy suite leafText authorityText = .ok () ↔
      ∃ leaf authority, ofPem leafText = .ok leaf ∧ ofPem authorityText = .ok authority ∧
        isSignedBy suite leaf authority = true ∧ leaf.issuer.text = authority.subject.text) ∧
    ∀ leaf authority, ofPem leafText = .ok leaf → ofPem authorityText = .ok authority →
      checkIssuedBy suite leafText authorityText = .ok () →
      leaf.issuer.IsClear → authority.subject.IsClear →
        leaf.issuer.content = authority.subject.content := by
  refine ⟨checkIssuedBy_eq_ok_iff_exists,
    fun leaf authority hleaf hauthority hcheck hissuer hsubject => ?_⟩
  obtain ⟨leaf', authority', hleaf', hauthority', -, htext⟩ :=
    checkIssuedBy_eq_ok_iff_exists.mp hcheck
  obtain rfl := Except.ok.inj (hleaf.symm.trans hleaf')
  obtain rfl := Except.ok.inj (hauthority.symm.trans hauthority')
  exact DistinguishedName.content_eq_of_text_eq hissuer hsubject (nil_not_mem_of_ofPem hleaf).1
    (nil_not_mem_of_ofPem hauthority).2 htext

end Certificate

namespace Issuance

lemma heldBy_foreign {subject : DistinguishedName} (hname : subject.WellFormed)
    (hshort : (foreignRoot subject).IsShort rootKey) :
    (foreignCertificate subject).HeldBy (foreignSigner subject).certificate :=
  heldBy_unsigned ⟨hname, hname, ⟨_, _, wellFormed_algorithm rootKey, rfl⟩, rfl⟩
    (show root.serial < UInt64.size by decide) hshort

/-- A leaf that the holder of a name signed is found to be issued by the holder of another name, if
the two are printed alike. -/
lemma exists_leaf_taken {subject other : DistinguishedName}
    (hsubject : (foreignCertificate subject).HeldBy (foreignSigner subject).certificate)
    (hother : (foreignCertificate other).HeldBy (foreignSigner other).certificate)
    (hcopy : subject.copy? = some subject) (hlength : subject.encode.length ≤ 500)
    (htext : subject.text = other.text) :
    ∃ text leaf, Certificate.ofPem text = .ok leaf ∧ leaf.issuer = subject ∧
      Certificate.checkIssuedBy .marked text (foreignSigner other).certificate = .ok () := by
  obtain ⟨hissuer, text, e', hsign⟩ := exists_sign_bare hsubject hcopy hlength
  obtain ⟨leaf, issuer, accepted, names, validity, hsettled⟩ := exists_settled hsign
  obtain rfl := Except.ok.inj (hissuer.symm.trans hsettled.loadIssuer)
  obtain ⟨document, hpem, hread⟩ := hother
  have hhalf : (foreignCertificate other).key.IsHalfOf rootKey := ⟨rfl, rfl⟩
  have hsigned : Certificate.isSignedBy .marked leaf (foreignCertificate other) = true :=
    hsettled.isSignedBy (Suite.reliable_marked _ _ _ ofPem?_rootKey hhalf)
  refine ⟨text, leaf, hsettled.held.ofPem_eq, hsettled.issuer_eq, ?_⟩
  exact (Certificate.checkIssuedBy_eq_ok_iff hsettled.held hpem hread hsigned).mpr
    ⟨rfl, (congrArg DistinguishedName.text hsettled.issuer_eq).trans htext⟩

/-- A leaf that the holder of two clear attributes signed, and what its issuer says. -/
theorem country_is_told_apart : ∃ text leaf,
    Certificate.ofPem text = .ok leaf ∧
    Certificate.checkIssuedBy .marked text (foreignSigner countrySubject).certificate = .ok () ∧
    leaf.issuer.IsClear ∧ countrySubject.IsClear ∧
    leaf.issuer.content = countrySubject.content := by
  have hclear : countrySubject.IsClear :=
    DistinguishedName.isClear_of_not_mem (by decide) (by decide)
  obtain ⟨text, leaf, hleaf, hissuer, hcheck⟩ :=
    exists_leaf_taken heldBy_country heldBy_country (by rfl) (by decide) rfl
  refine ⟨text, leaf, hleaf, hcheck, hissuer ▸ hclear, hclear, ?_⟩
  exact (Certificate.clear_names_are_told_apart .marked text _).2 leaf _ hleaf
    heldBy_country.ofPem_eq hcheck (hissuer ▸ hclear) hclear

/-- A subject with one attribute, whose value looks like two. -/
def joinedSubject : DistinguishedName := [[.ofText Attribute.commonName "lab Root CA, O=Nokia"]]

/-- A subject with these two. -/
def splitSubject : DistinguishedName :=
  [[.ofText Attribute.commonName "lab Root CA"], [.ofText Attribute.organization "Nokia"]]

/-- A leaf of the one is found to be issued by the other. -/
theorem joined_is_taken_for_split : ∃ text leaf,
    Certificate.ofPem text = .ok leaf ∧
    Certificate.ofPem (foreignSigner splitSubject).certificate =
      .ok (foreignCertificate splitSubject) ∧
    Certificate.checkIssuedBy .marked text (foreignSigner splitSubject).certificate = .ok () ∧
    leaf.issuer.content ≠ (foreignCertificate splitSubject).subject.content := by
  have hjoined : joinedSubject.WellFormed :=
    show ∀ set ∈ joinedSubject, set ≠ [] ∧ ∀ a ∈ set, Der.IsShort a.tag by decide
  have hsplit : splitSubject.WellFormed :=
    show ∀ set ∈ splitSubject, set ≠ [] ∧ ∀ a ∈ set, Der.IsShort a.tag by decide
  have hheld := heldBy_foreign hsplit (by decide)
  obtain ⟨text, leaf, hleaf, hissuer, hcheck⟩ :=
    @exists_leaf_taken joinedSubject splitSubject (heldBy_foreign hjoined (by decide)) hheld
      (by rfl) (by decide) (by decide)
  exact ⟨text, leaf, hleaf, hheld.ofPem_eq, hcheck, hissuer ▸ by decide⟩

end Issuance

end LabTrust
