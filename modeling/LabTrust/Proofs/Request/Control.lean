/-
Control characters in the validity of a root.

The template of a root pastes its validity last. What stands before it is read as far as it goes,
and then the string of the validity has to be read; a control character ends that.
* `Json.fields?_of_record`, `Json.value?_of_fields?`, `Json.fields?_of_more`: when a record is read,
  so are its fields, the value of the first one, and what follows one of them.
* `Json.forall_of_pieces?`: a string without escapes that is read holds no control character.
* `RootInput.read_document_iff`: which validities leave the document of a root readable.
-/
import LabTrust.Proofs.Expiry
import LabTrust.Proofs.Request.Names

namespace LabTrust

/-! ### Reading on -/

namespace Json

variable {s t b r : List Symbol} {n : String} {d : Data} {fs : List (Option String × Data)}
  {depth : ℕ}

/-- Before a quote there is nothing to skip. -/
lemma skipSpace_of_quote (h : s.head? = some (some '"')) : skipSpace s = s := by
  obtain ⟨t, rfl⟩ := List.head?_eq_some_iff.1 h
  exact skipSpace_cons rfl t

/-- When a record that begins with a field is read, so are its fields. -/
lemma fields?_of_record (gap : Blank b) (ht : t.head? = some (some '"'))
    (h : value? depth (some '\x7b' :: (b ++ t)) = some (d, r)) :
    ∃ depth' fs, fields? depth' t = some (fs, r) := by
  cases depth with
  | zero => cases h
  | succ depth =>
      have hskip : skipSpace (b ++ t) = t := by
        rw [skipSpace_append_of_blank gap, skipSpace_of_quote ht]
      rcases value?_record_iff.1 h with ⟨hclose, -⟩ | ⟨fs, hfs, -⟩
      · rw [hskip] at hclose
        simp [hclose] at ht
      · exact ⟨depth, fs, hskip ▸ hfs⟩

/-- When a record is read, so is the value of its first field. -/
lemma value?_of_fields? (hn : IsPlain n) (hs : skipSpace s = s)
    (h : fields? depth (quoted n ++ some ':' :: some ' ' :: s) = some (fs, r)) :
    ∃ depth' d s₄, value? depth' s = some (d, s₄) ∧ (skipSpace s₄ = some '}' :: r ∨
      ∃ s₅ fs', skipSpace s₄ = some ',' :: s₅ ∧ fields? depth' (skipSpace s₅) = some (fs', r)) := by
  cases depth with
  | zero => cases h
  | succ depth =>
      obtain ⟨s₁, name, s₂, s₃, d, s₄, hquote, hname, hcolon, hd, hnext⟩ := fields?_iff.1 h
      rw [quoted, List.cons_append, List.cons_append, List.append_assoc] at hquote
      obtain ⟨-, rfl⟩ := List.cons.inj hquote
      rw [List.singleton_append, string?_of_inside hn.inside] at hname
      cases hname
      rw [skipSpace_cons rfl] at hcolon
      obtain ⟨-, rfl⟩ := List.cons.inj hcolon
      rw [show some ' ' :: s = [some ' '] ++ s from rfl, skipSpace_append_of_blank blank_space,
        hs] at hd
      refine ⟨depth, d, s₄, hd, ?_⟩
      rcases hnext with ⟨hclose, -⟩ | ⟨s₅, fs', hcomma, hmore, -⟩
      · exact Or.inl hclose
      · exact Or.inr ⟨s₅, fs', hcomma, hmore⟩

/-- When a record is read, so is what follows a field of it. -/
lemma fields?_of_more (hn : IsPlain n) (value : Spells s d) (gap : Blank b)
    (ht : t.head? = some (some '"'))
    (h : fields? depth (quoted n ++ some ':' :: some ' ' :: s ++ some ',' :: b ++ t) =
      some (fs, r)) : ∃ depth' fs', fields? depth' t = some (fs', r) := by
  have hend : Ends (some ',' :: (b ++ t)) := ends_cons (by decide) _
  have htext : quoted n ++ some ':' :: some ' ' :: s ++ some ',' :: b ++ t =
      quoted n ++ some ':' :: some ' ' :: (s ++ some ',' :: (b ++ t)) := by simp
  rw [htext] at h
  obtain ⟨depth', d', s₄, hd, hnext⟩ := value?_of_fields? hn (value.skipSpace _) h
  obtain ⟨-, rfl⟩ := value?_unique hd (value.value? (Nat.le_refl _) hend)
  rw [skipSpace_cons rfl] at hnext
  rcases hnext with hclose | ⟨s₅, fs', hcomma, hmore⟩
  · exact absurd (List.cons.inj hclose).1 (by decide)
  · obtain ⟨-, rfl⟩ := List.cons.inj hcomma
    rw [skipSpace_append_of_blank gap, skipSpace_of_quote ht] at hmore
    exact ⟨depth', fs', hmore⟩

/-- A string without escapes that is read holds no control character. -/
lemma forall_of_pieces? {cs : List Char} (hcs : ∀ c ∈ cs, c ≠ '"' ∧ c ≠ '\\')
    {found : List Piece × List Symbol} (h : pieces? (cs.map some ++ t) = some found) :
    ∀ c ∈ cs, ¬ c.toNat < 32 := by
  induction cs generalizing found with
  | nil => simp
  | cons c cs ih =>
      obtain ⟨⟨hquote, hslash⟩, hcs⟩ := List.forall_mem_cons.mp hcs
      by_cases hcontrol : c.toNat < 32
      · rw [List.map_cons, List.cons_append, pieces?, if_pos hcontrol] at h
        · cases h
        all_goals simp [hquote, hslash]
      · rw [List.map_cons, List.cons_append, pieces?, if_neg hcontrol] at h
        · obtain ⟨rest, hrest, -⟩ := Option.map_eq_some_iff.mp h
          exact List.forall_mem_cons.mpr ⟨hcontrol, ih hcs hrest⟩
        all_goals simp [hquote, hslash]

end Json

/-! ### The validity of a root -/

open Json

namespace RootInput

variable {i : RootInput}

/-- The validity, and the end of the document. -/
def expiryField (i : RootInput) : List Symbol :=
  quoted "expiry" ++ some ':' :: some ' ' :: some '"' ::
    (ofText i.expiry ++ some '"' :: ofText "\n    \x7d\n\x7d\n")

/-- The last field of the document. -/
def lastField (i : RootInput) : List Symbol :=
  quoted "ca" ++ some ':' :: some ' ' :: some '\x7b' :: (ofText "\n       " ++ i.expiryField)

/-- What stands before the last field is three fields. -/
lemma ofText_document (hsubject : ∀ s ∈ [i.country, i.locality, i.organization, i.unit], Pastes s) :
    ∃ key names, Spells key keyData ∧ (∃ d, Spells names d) ∧
      ofText i.document = some '\x7b' :: (ofText "\n    " ++
        (quoted "CN" ++ some ':' :: some ' ' :: quoted (i.labName ++ " Root CA") ++
          some ',' :: ofText "\n    " ++
        (quoted "key" ++ some ':' :: some ' ' :: key ++ some ',' :: ofText "\n    " ++
        (quoted "names" ++ some ':' :: some ' ' :: names ++ some ',' :: ofText "\n    " ++
          i.lastField)))) := by
  have hgap : Blank (ofText "\n    ") := by decide
  have hline : Blank (ofText "\n       ") := by decide
  refine ⟨_, _, spells_key hline hgap, ⟨_, .list blank_nil
    (.last (spells_subject hline hgap hsubject) blank_nil)⟩, ?_⟩
  unfold document lastField expiryField
  simp only [ofText_append, List.append_assoc]
  simp [quoted, ofText]

/-- When the document is read, so is the string of the validity. -/
lemma pieces?_of_read (hlab : Pastes i.labName)
    (hsubject : ∀ s ∈ [i.country, i.locality, i.organization, i.unit], Pastes s) {d : Data}
    (h : Json.read (.ofText i.document) = some d) :
    ∃ found, pieces? (ofText i.expiry ++ some '"' :: ofText "\n    \x7d\n\x7d\n") =
      some found := by
  have hgap : Blank (ofText "\n    ") := by decide
  have hplain : IsPlain " Root CA" := by decide
  have hline : Blank (ofText "\n       ") := by decide
  obtain ⟨key, names, hkey, ⟨_, hnames⟩, hdoc⟩ := ofText_document hsubject
  rw [Json.read_ofText, readSymbols, hdoc, skipSpace_cons rfl] at h
  split at h
  · next d' r hd =>
    obtain ⟨_, _, hfs⟩ := fields?_of_record hgap rfl hd
    have hname := (hlab.append hplain.pastes).spells
    obtain ⟨_, _, hfs⟩ := fields?_of_more (by decide) hname hgap rfl hfs
    obtain ⟨_, _, hfs⟩ := fields?_of_more (by decide) hkey hgap rfl hfs
    obtain ⟨_, _, hfs⟩ := fields?_of_more (by decide) hnames hgap rfl hfs
    obtain ⟨_, _, _, hca, -⟩ := value?_of_fields? (by decide) (skipSpace_cons rfl _) hfs
    obtain ⟨_, _, hfs⟩ := fields?_of_record hline rfl hca
    obtain ⟨depth, _, _, hexpiry, -⟩ := value?_of_fields? (by decide) (skipSpace_of_quote rfl) hfs
    cases depth with
    | zero => cases hexpiry
    | succ depth =>
        rw [value?_string] at hexpiry
        obtain ⟨found, hfound, -⟩ := Option.map_eq_some_iff.1 hexpiry
        obtain ⟨found, hfound, -⟩ := Option.map_eq_some_iff.1 hfound
        exact ⟨found, hfound⟩
  · cases h

/-- The texts around the validity that the template of a root pastes. -/
def otherTexts (i : RootInput) : List String :=
  [i.labName, i.country, i.locality, i.organization, i.unit]

variable {n : ℕ}

/-- Beside other texts that need no escapes, a validity without control characters leaves the
document readable. -/
lemma read_document (h : ∀ s ∈ i.otherTexts, IsPlain s) (hn : Expiry.parse i.expiry = .ok n)
    (hcontrol : Text.LacksControl i.expiry) :
    Request.read (.ofText i.document) = .ok i.request := by
  refine Template.read_document_root (standsFor_of_plain fun s hs => ?_)
  rcases List.mem_append.mp (show s ∈ i.otherTexts ++ [i.expiry] from hs) with hs | hs
  · exact h s hs
  · exact List.mem_singleton.mp hs ▸ (Expiry.isPlain_iff_of_parse hn).mpr hcontrol

/-- A validity with one does not. -/
theorem read_document_iff (h : ∀ s ∈ i.otherTexts, IsPlain s) (hn : Expiry.parse i.expiry = .ok n) :
    (∃ r, Request.read (.ofText i.document) = .ok r) ↔ Text.LacksControl i.expiry := by
  refine ⟨fun ⟨r, hr⟩ => ?_, fun hcontrol => ⟨_, read_document h hn hcontrol⟩⟩
  obtain ⟨hlab, hsubject⟩ := List.forall_mem_cons.mp h
  obtain ⟨d, hd, -⟩ := Request.read_eq_ok_iff.mp hr
  obtain ⟨found, hfound⟩ := pieces?_of_read hlab.pastes (fun s hs => (hsubject s hs).pastes) hd
  exact forall_of_pieces? (Expiry.ne_of_parse hn) hfound

/-- The request asks for the validity that was pasted. -/
lemma authorityExpiry_request (hn : Expiry.parse i.expiry = .ok n) :
    i.request.authorityExpiry = .ok n := by
  have htrim : String.ofList (Text.trim i.expiry.toList) ≠ "" := fun heq =>
    Expiry.trim_ne_nil_of_parse hn (by simpa using congrArg String.toList heq)
  have hasked : (i.request.authority.map fun a => String.ofList (Text.trim a.expiry.toList)).getD ""
      = String.ofList (Text.trim i.expiry.toList) := rfl
  rw [Request.authorityExpiry, hasked, if_neg htrim]
  exact Expiry.parse_trim hn

end RootInput

end LabTrust
