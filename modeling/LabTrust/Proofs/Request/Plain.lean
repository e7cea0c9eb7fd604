/-
What the requests of the built-in templates say.

* `LeafInput.request`, `RootInput.request`: the request of an identity, told from its texts.
* `LeafInput.StandsFor`, `RootInput.StandsFor`: the pasted texts of an identity stand for those of
  another one; `Template.read_document_leaf` and `Template.read_document_root` say that the document
  of the first is then read as the request of the second.
* `Template.requests_of_plain`: an identity whose texts need no escapes stands for itself, so that
  the templates and the reader of documents agree on it. Braces, commas and the marks of templates
  may stand in the texts.
-/
import LabTrust.Proofs.Request.Pasted
import LabTrust.Request

namespace LabTrust

open Json

/-! ### Reading a rendered document -/

lemma Json.read_ofText (s : String) : Json.read (.ofText s) = readSymbols (ofText s) := by
  rw [Json.read, Bytes.ofText, Bytes.symbols_ofChars, ofText]

lemma Request.read_of_spells {document : String} {s : List Symbol} {d : Data} {r : Request}
    (hdoc : ofText document = s ++ [some '\n']) (hs : Spells s d) (hr : ofData? d = some r) :
    read (.ofText document) = .ok r := by
  have hd : Json.read (.ofText document) = some d := by
    rw [Json.read_ofText, hdoc]
    exact hs.readSymbols (by decide)
  rw [read, hd]
  simp only [hr]

lemma mapM_meaning?_of_plain {ss : List String} (h : ∀ s ∈ ss, IsPlain s) :
    ss.mapM meaning? = some ss := by
  induction ss with
  | nil => rfl
  | cons s ss ih =>
      rw [List.forall_mem_cons] at h
      rw [List.mapM_cons, meaning?_of_plain h.1, ih h.2]
      rfl

lemma pastes_of_mapM {ss ms : List String} (h : ss.mapM meaning? = some ms) :
    ∀ s ∈ ss, Pastes s := by
  induction ss generalizing ms with
  | nil => simp
  | cons s ss ih =>
      rw [List.mapM_cons] at h
      obtain ⟨m, hm, h⟩ := Option.bind_eq_some_iff.1 h
      obtain ⟨rest, hrest, -⟩ := Option.bind_eq_some_iff.1 h
      exact List.forall_mem_cons.2 ⟨pastes_of_meaning? hm, ih hrest⟩

lemma pasted_of_meaning? {s m : String} (h : meaning? s = some m) : pasted s = .text m := by
  rw [pasted, h, Option.elim_some]

/-- A record of the fields of a leaf's request is read field by field. -/
lemma Request.ofData?_leaf {cn : String} {key names hosts : Data} {spec : KeySpec}
    {blocks : List SubjectNames} {texts : List String} (hkey : KeySpec.ofData? key = some spec)
    (hnames : Data.list? SubjectNames.ofData? names = some blocks)
    (hhosts : Data.list? Data.text? hosts = some texts) :
    ofData? (.record [("CN", .text cn), ("key", key), ("names", names), ("hosts", hosts)]) =
      some ⟨cn, spec, blocks, texts, none⟩ := by
  have hfields : Data.fields? ["CN", "key", "names", "hosts", "ca"]
      (.record [("CN", .text cn), ("key", key), ("names", names), ("hosts", hosts)]) =
      some [some (.text cn), some key, some names, some hosts, none] := rfl
  rw [ofData?, hfields]
  simp only [Data.fieldOr, Data.text?, hkey, hnames, hhosts]
  rfl

/-! ### Leaves -/

namespace LeafInput

/-- What the request of a leaf says, told from its identity. -/
def request (i : LeafInput) : Request where
  commonName := i.name ++ "." ++ i.labName ++ ".io"
  key := ⟨.rsa, 2048⟩
  names := [{ country := i.country, state := "", locality := i.locality,
              organization := i.organization, unit := i.unit }]
  hosts := [i.name, i.longName, i.fqdn] ++ i.hosts
  authority := none

/-- The texts that are pasted for one identity stand for the texts of another one. -/
structure StandsFor (i j : LeafInput) : Prop where
  name : meaning? i.name = some j.name
  labName : meaning? i.labName = some j.labName
  country : meaning? i.country = some j.country
  locality : meaning? i.locality = some j.locality
  organization : meaning? i.organization = some j.organization
  unit : meaning? i.unit = some j.unit
  longName : meaning? i.longName = some j.longName
  fqdn : meaning? i.fqdn = some j.fqdn
  hosts : i.hosts.mapM meaning? = some j.hosts

/-- The texts of an identity that the template of a node pastes. -/
def pastedTexts (i : LeafInput) : List String :=
  [i.name, i.labName, i.country, i.locality, i.organization, i.unit, i.longName, i.fqdn] ++ i.hosts

lemma standsFor_of_plain {i : LeafInput} (h : ∀ s ∈ i.pastedTexts, IsPlain s) : i.StandsFor i := by
  simp only [pastedTexts, List.forall_mem_append, List.forall_mem_cons] at h
  obtain ⟨⟨hname, hlab, hc, hl, ho, hu, hlong, hfqdn, -⟩, hhosts⟩ := h
  exact ⟨meaning?_of_plain hname, meaning?_of_plain hlab, meaning?_of_plain hc,
    meaning?_of_plain hl, meaning?_of_plain ho, meaning?_of_plain hu, meaning?_of_plain hlong,
    meaning?_of_plain hfqdn, mapM_meaning?_of_plain hhosts⟩

end LeafInput

/-- The document of a leaf says what its texts stand for. -/
lemma Template.read_document_leaf {i j : LeafInput} (h : i.StandsFor j) :
    Request.read (.ofText i.document) = .ok j.request := by
  have hname := pastes_of_meaning? h.name
  have hlab := pastes_of_meaning? h.labName
  obtain ⟨s, hdoc, hs⟩ := LeafInput.spells_document hname hlab
    (by simpa using ⟨pastes_of_meaning? h.country, pastes_of_meaning? h.locality,
      pastes_of_meaning? h.organization, pastes_of_meaning? h.unit⟩)
    (by simpa using ⟨pastes_of_meaning? h.longName, pastes_of_meaning? h.fqdn,
      pastes_of_mapM h.hosts⟩)
  have hcn : meaning? (i.name ++ "." ++ i.labName ++ ".io") =
      some (j.name ++ "." ++ j.labName ++ ".io") := by
    rw [meaning?_fqdn hname hlab, h.name, h.labName]
    rfl
  have hhosts : (Data.list ((i.name :: i.longName :: i.fqdn :: i.hosts).map pasted)).list?
      Data.text? = some j.request.hosts := by
    rw [Data.list?_pasted]
    simp [LeafInput.request, h.name, h.longName, h.fqdn, h.hosts]
  refine Request.read_of_spells hdoc hs ?_
  rw [LeafInput.requestData, pasted_of_meaning? hcn, pasted_of_meaning? h.country,
    pasted_of_meaning? h.locality, pasted_of_meaning? h.organization, pasted_of_meaning? h.unit]
  exact Request.ofData?_leaf rfl rfl hhosts

/-! ### Roots -/

namespace RootInput

/-- What the request of a root says, told from its identity. -/
def request (i : RootInput) : Request where
  commonName := i.labName ++ " Root CA"
  key := ⟨.rsa, 2048⟩
  names := [{ country := i.country, state := "", locality := i.locality,
              organization := i.organization, unit := i.unit }]
  hosts := []
  authority := some { expiry := i.expiry, pathLength := none }

/-- The texts that are pasted for one identity stand for the texts of another one. -/
structure StandsFor (i j : RootInput) : Prop where
  labName : meaning? i.labName = some j.labName
  country : meaning? i.country = some j.country
  locality : meaning? i.locality = some j.locality
  organization : meaning? i.organization = some j.organization
  unit : meaning? i.unit = some j.unit
  expiry : meaning? i.expiry = some j.expiry

/-- The texts of an identity that the template of a root pastes. -/
def pastedTexts (i : RootInput) : List String :=
  [i.labName, i.country, i.locality, i.organization, i.unit, i.expiry]

lemma standsFor_of_plain {i : RootInput} (h : ∀ s ∈ i.pastedTexts, IsPlain s) : i.StandsFor i := by
  simp only [pastedTexts, List.forall_mem_cons] at h
  obtain ⟨hlab, hc, hl, ho, hu, hexpiry, -⟩ := h
  exact ⟨meaning?_of_plain hlab, meaning?_of_plain hc, meaning?_of_plain hl, meaning?_of_plain ho,
    meaning?_of_plain hu, meaning?_of_plain hexpiry⟩

end RootInput

/-- The document of a root says what its texts stand for. -/
lemma Template.read_document_root {i j : RootInput} (h : i.StandsFor j) :
    Request.read (.ofText i.document) = .ok j.request := by
  have hlab := pastes_of_meaning? h.labName
  obtain ⟨s, hdoc, hs⟩ := RootInput.spells_document hlab
    (by simpa using ⟨pastes_of_meaning? h.country, pastes_of_meaning? h.locality,
      pastes_of_meaning? h.organization, pastes_of_meaning? h.unit⟩) (pastes_of_meaning? h.expiry)
  have hcn : meaning? (i.labName ++ " Root CA") = some (j.labName ++ " Root CA") := by
    rw [meaning?_append_plain hlab (by decide) (by decide), h.labName]
    rfl
  refine Request.read_of_spells hdoc hs ?_
  rw [RootInput.requestData, pasted_of_meaning? hcn, pasted_of_meaning? h.country,
    pasted_of_meaning? h.locality, pasted_of_meaning? h.organization, pasted_of_meaning? h.unit,
    pasted_of_meaning? h.expiry]
  rfl

/-! ### Plain identities -/

namespace Template

/-- Templates and the reader of documents agree on identities whose texts need no escapes. -/
theorem requests_of_plain :
    (∀ i : LeafInput, (∀ s ∈ i.pastedTexts, IsPlain s) →
      ∃ document, ofNode.render i.toData = .ok document ∧
        Request.read (.ofText document) = .ok i.request) ∧
    (∀ i : RootInput, (∀ s ∈ i.pastedTexts, IsPlain s) →
      ∃ document, ofRoot.render i.toData = .ok document ∧
        Request.read (.ofText document) = .ok i.request) :=
  ⟨fun i h => ⟨i.document, render_ofNode i, read_document_leaf (LeafInput.standsFor_of_plain h)⟩,
    fun i h => ⟨i.document, render_ofRoot i, read_document_root (RootInput.standsFor_of_plain h)⟩⟩

/-- Marks of templates and of documents inside the texts do no harm. -/
theorem requests_of_marks :
    (∃ document, ofNode.render (LeafInput.toData
        { name := "\x7b\x7b name \x7d\x7d", labName := "\x7d],", hosts := ["a, b", "", "é"] }) =
      .ok document ∧ Request.read (.ofText document) = .ok
        { commonName := "\x7b\x7b name \x7d\x7d.\x7d],.io"
          key := ⟨.rsa, 2048⟩
          names := [{}]
          hosts := ["\x7b\x7b name \x7d\x7d", "", "", "a, b", "", "é"] }) ∧
    ∃ document, ofRoot.render (RootInput.toData { labName := "\x7b% lab", expiry := "1y" }) =
      .ok document ∧ Request.read (.ofText document) = .ok
        { commonName := "\x7b% lab Root CA"
          key := ⟨.rsa, 2048⟩
          names := [{}]
          authority := some { expiry := "1y" } } :=
  ⟨requests_of_plain.1
      { name := "\x7b\x7b name \x7d\x7d", labName := "\x7d],", hosts := ["a, b", "", "é"] }
      (by decide),
    requests_of_plain.2 { labName := "\x7b% lab", expiry := "1y" } (by decide)⟩

end Template

end LabTrust
