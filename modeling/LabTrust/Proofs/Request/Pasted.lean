/-
Requests of pasted texts.

* `Json.quoted`, `Json.pasted`: a text between two quotes, and the value that it is read as.
* `LeafInput.spells_document`, `RootInput.spells_document`: the documents of the built-in templates
  follow the grammar, if each of the pasted texts makes a string.
-/
import LabTrust.Proofs.Json.Meaning
import LabTrust.Proofs.Json.Spelling
import LabTrust.Proofs.Template.Rendered

namespace LabTrust

open Json

/-! ### Pasted texts -/

namespace Json

/-- A text between two quotes. -/
def quoted (s : String) : List Symbol := some '"' :: ofText s ++ [some '"']

/-- The value of a text between two quotes. -/
def pasted (s : String) : Data := (meaning? s).elim .unreadable .text

lemma IsPlain.pasted {s : String} (h : IsPlain s) : pasted s = .text s := by
  rw [Json.pasted, meaning?_of_plain h, Option.elim_some]

lemma pasted_of_inside {s : String} {ps : List Piece} (h : Inside (ofText s) ps) :
    pasted s = stringOf ps := by
  rw [pasted, meaning?_of_inside h, stringOf]

lemma Pastes.spells {s : String} (h : Pastes s) : Spells (quoted s) (pasted s) := by
  obtain ⟨ps, hps⟩ := h
  rw [pasted_of_inside hps]
  exact .text hps

lemma text?_pasted (s : String) : (pasted s).text? = meaning? s := by
  rw [pasted]
  cases meaning? s <;> rfl

section fields

variable {n : String} {s b t : List Symbol} {d : Data} {fs : List (String × Data)}

/-- Fields whose names can be read. -/
def named (fs : List (String × Data)) : List (Option String × Data) :=
  fs.map fun (name, d) => (some name, d)

lemma recordOf_named (fs : List (String × Data)) : recordOf (named fs) = .record fs := by
  have hall : fs.mapM some = some fs := by
    simpa using List.mapM_pure (m := Option) (l := fs) (f := id)
  rw [recordOf, named, List.mapM_map]
  simp [Function.comp_def, hall]

lemma blank_nil : Blank [] := by decide

lemma blank_space : Blank [some ' '] := by decide

/-- The last field of a record, under a plain name. -/
lemma spellsFields_last (hn : IsPlain n) (value : Spells s d) (gap : Blank b) :
    SpellsFields (quoted n ++ some ':' :: some ' ' :: s ++ b ++ [some '}']) (named [(n, d)]) := by
  have h := SpellsFields.last hn.inside blank_nil blank_space value gap
  rw [assemble?_chars, Option.map_some, String.ofList_toList] at h
  simpa [quoted, named] using h

/-- A field of a record, under a plain name, and the fields that follow it. -/
lemma spellsFields_more (hn : IsPlain n) (value : Spells s d) (gap : Blank b)
    (fields : SpellsFields t (named fs)) :
    SpellsFields (quoted n ++ some ':' :: some ' ' :: s ++ some ',' :: b ++ t)
      (named ((n, d) :: fs)) := by
  have h := SpellsFields.more hn.inside blank_nil blank_space value blank_nil gap fields
  rw [assemble?_chars, Option.map_some, String.ofList_toList] at h
  simpa [quoted, named] using h

lemma spells_record (gap : Blank b) (fields : SpellsFields t (named fs)) :
    Spells (some '{' :: b ++ t) (.record fs) := by
  rw [← recordOf_named]
  exact .record gap fields

end fields

end Json

lemma Data.list?_pasted (ss : List String) :
    (Data.list (ss.map pasted)).list? Data.text? = ss.mapM meaning? := by
  rw [Data.list?, List.mapM_map]
  congr 1
  funext s
  exact text?_pasted s

/-! ### Names of nodes -/

namespace Json

variable {name lab : String}

/-- A node's qualified name makes a string if its parts do. -/
lemma Pastes.fqdn (hname : Pastes name) (hlab : Pastes lab) :
    Pastes (name ++ "." ++ lab ++ ".io") := by
  have hplain : IsPlain "." ∧ IsPlain ".io" := by decide
  exact ((hname.append hplain.1.pastes).append hlab).append hplain.2.pastes

/-- A node's long name makes a string if its parts do. -/
lemma Pastes.longName (hname : Pastes name) (hlab : Pastes lab) :
    Pastes ("clab-" ++ lab ++ "-" ++ name) := by
  have hplain : IsPlain "clab-" ∧ IsPlain "-" := by decide
  exact ((hplain.1.pastes.append hlab).append hplain.2.pastes).append hname

/-- The meaning of a node's qualified name. -/
lemma meaning?_fqdn (hname : Pastes name) (hlab : Pastes lab) :
    meaning? (name ++ "." ++ lab ++ ".io") =
      (meaning? name).bind fun n => (meaning? lab).map fun l => n ++ "." ++ l ++ ".io" := by
  have hpoint : IsPlain "." := by decide
  rw [meaning?_append_plain ((hname.append hpoint.pastes).append hlab) (by decide) (by decide),
    meaning?_append hname hpoint (by decide) hlab]
  cases meaning? name with
  | none => rfl
  | some n => cases meaning? lab <;> rfl

/-- The meaning of a node's long name. -/
lemma meaning?_longName (hname : Pastes name) (hlab : Pastes lab) :
    meaning? ("clab-" ++ lab ++ "-" ++ name) =
      (meaning? lab).bind fun l => (meaning? name).map fun n => "clab-" ++ l ++ "-" ++ n := by
  have hclab : IsPlain "clab-" := by decide
  rw [meaning?_append (hclab.pastes.append hlab) (by decide) (by decide) hname,
    meaning?_plain_append hclab hlab]
  cases meaning? lab <;> rfl

end Json

/-! ### Parts of the documents -/

section parts

variable {b b' : List Symbol}

/-- The key that both templates ask for. -/
lemma spells_key (hb : Blank b) (hb' : Blank b') :
    Spells (some '{' :: b ++ (quoted "algo" ++ some ':' :: some ' ' :: quoted "rsa" ++
        some ',' :: b ++ (quoted "size" ++ some ':' :: some ' ' :: ofText "2048" ++ b' ++
          [some '}'])))
      (.record [("algo", .text "rsa"), ("size", .number (.int 2048))]) := by
  have hrsa : Spells (quoted "rsa") (.text "rsa") := by
    have hplain : IsPlain "rsa" := by decide
    rw [← hplain.pasted]
    exact hplain.pastes.spells
  have hsize : Spells (ofText "2048") (.number (.int 2048)) :=
    @Spells.whole '2' ['0', '4', '8'] (by decide) (List.all_eq_true.1 (by decide))
  exact spells_record hb (spellsFields_more (by decide) hrsa hb
    (spellsFields_last (by decide) hsize hb'))

/-- The subject names of both templates. -/
lemma spells_subject (hb : Blank b) (hb' : Blank b') {c l o u : String}
    (h : ∀ s ∈ [c, l, o, u], Pastes s) :
    Spells (some '{' :: b ++ (quoted "C" ++ some ':' :: some ' ' :: quoted c ++ some ',' :: b ++
        (quoted "L" ++ some ':' :: some ' ' :: quoted l ++ some ',' :: b ++
          (quoted "O" ++ some ':' :: some ' ' :: quoted o ++ some ',' :: b ++
            (quoted "OU" ++ some ':' :: some ' ' :: quoted u ++ b' ++ [some '}'])))))
      (.record [("C", pasted c), ("L", pasted l), ("O", pasted o), ("OU", pasted u)]) := by
  simp only [List.forall_mem_cons] at h
  obtain ⟨hc, hl, ho, hu, -⟩ := h
  exact spells_record hb <| spellsFields_more (by decide) hc.spells hb <|
    spellsFields_more (by decide) hl.spells hb <| spellsFields_more (by decide) ho.spells hb <|
    spellsFields_last (by decide) hu.spells hb'

/-- Hosts on lines of their own. -/
lemma spellsItems_hosts (hb : Blank b) {host : String} {hosts : List String} (h : Pastes host)
    (hs : ∀ h ∈ hosts, Pastes h) :
    SpellsItems (quoted host ++ ofText (LeafInput.hostLines hosts) ++ b ++ [some ']'])
      ((host :: hosts).map pasted) := by
  induction hosts generalizing host with
  | nil => simpa [LeafInput.hostLines, ofText] using SpellsItems.last h.spells hb
  | cons next hosts ih =>
      have hline : Blank (ofText "\n      ") := by decide
      have hrest := ih (hs next List.mem_cons_self) fun h hm => hs h (List.mem_cons_of_mem _ hm)
      have hall := SpellsItems.more h.spells blank_nil hline hrest
      simpa [LeafInput.hostLines, ofText, quoted] using hall

end parts

/-! ### The documents -/

/-- The key of both templates as a document. -/
def keyData : Data := .record [("algo", .text "rsa"), ("size", .number (.int 2048))]

namespace LeafInput

variable {i : LeafInput}

/-- The document of a leaf's request, as a tree. -/
def requestData (i : LeafInput) : Data :=
  .record [("CN", pasted (i.name ++ "." ++ i.labName ++ ".io")), ("key", keyData),
    ("names", .list [.record [("C", pasted i.country), ("L", pasted i.locality),
      ("O", pasted i.organization), ("OU", pasted i.unit)]]),
    ("hosts", .list ((i.name :: i.longName :: i.fqdn :: i.hosts).map pasted))]

/-- The last field of the document holds the hosts. -/
lemma spells_hostsField (h : ∀ s ∈ i.name :: i.longName :: i.fqdn :: i.hosts, Pastes s) :
    SpellsFields (ofText i.hostsField ++ ofText "\n    ]\n\x7d")
      (named [("hosts", .list ((i.name :: i.longName :: i.fqdn :: i.hosts).map pasted))]) := by
  have hgap : Blank (ofText "\n    ") := by decide
  have hline : Blank (ofText "\n      ") := by decide
  have hend : Blank (ofText "\n") := by decide
  have hitems := spellsItems_hosts hgap (h i.name List.mem_cons_self) fun s hs =>
    h s (List.mem_cons_of_mem _ hs)
  have hfield := spellsFields_last (n := "hosts") (by decide) (.list hline hitems) hend
  convert hfield using 1
  unfold hostsField
  simp only [hostLines, ofText_append, List.append_assoc]
  simp [quoted, ofText]

/-- The document of a leaf follows the grammar. -/
theorem spells_document (hname : Pastes i.name) (hlab : Pastes i.labName)
    (hsubject : ∀ s ∈ [i.country, i.locality, i.organization, i.unit], Pastes s)
    (hhosts : ∀ s ∈ i.longName :: i.fqdn :: i.hosts, Pastes s) :
    ∃ s, ofText i.document = s ++ [some '\n'] ∧ Spells s i.requestData := by
  have hgap : Blank (ofText "\n    ") := by decide
  have hline : Blank (ofText "\n      ") := by decide
  have hdoc := spells_record hgap <|
    spellsFields_more (n := "CN") (by decide) (hname.fqdn hlab).spells hgap <|
    spellsFields_more (n := "key") (by decide) (spells_key hline hgap) hgap <|
    spellsFields_more (n := "names") (by decide)
      (.list blank_nil (.last (spells_subject hline hgap hsubject) blank_nil)) hgap <|
    spells_hostsField (List.forall_mem_cons.2 ⟨hname, hhosts⟩)
  refine ⟨_, ?_, hdoc⟩
  unfold document middle
  simp only [ofText_append, List.append_assoc]
  simp [quoted, ofText]

end LeafInput

namespace RootInput

variable {i : RootInput}

/-- The document of a root's request, as a tree. -/
def requestData (i : RootInput) : Data :=
  .record [("CN", pasted (i.labName ++ " Root CA")), ("key", keyData),
    ("names", .list [.record [("C", pasted i.country), ("L", pasted i.locality),
      ("O", pasted i.organization), ("OU", pasted i.unit)]]),
    ("ca", .record [("expiry", pasted i.expiry)])]

/-- The document of a root follows the grammar. -/
theorem spells_document (hlab : Pastes i.labName) (hsubject : ∀ s ∈ [i.country, i.locality,
    i.organization, i.unit], Pastes s) (hexpiry : Pastes i.expiry) :
    ∃ s, ofText i.document = s ++ [some '\n'] ∧ Spells s i.requestData := by
  have hgap : Blank (ofText "\n    ") := by decide
  have hline : Blank (ofText "\n       ") := by decide
  have hend : Blank (ofText "\n") := by decide
  have hplain : IsPlain " Root CA" := by decide
  have hcn : Pastes (i.labName ++ " Root CA") := hlab.append hplain.pastes
  have hdoc := spells_record hgap <| spellsFields_more (n := "CN") (by decide) hcn.spells hgap <|
    spellsFields_more (n := "key") (by decide) (spells_key hline hgap) hgap <|
    spellsFields_more (n := "names") (by decide)
      (.list blank_nil (.last (spells_subject hline hgap hsubject) blank_nil)) hgap <|
    spellsFields_last (n := "ca") (by decide) (spells_record hline <|
      spellsFields_last (n := "expiry") (by decide) hexpiry.spells hgap) hend
  refine ⟨_, ?_, hdoc⟩
  unfold document
  simp only [ofText_append, List.append_assoc]
  simp [quoted, ofText]

end RootInput

end LabTrust
