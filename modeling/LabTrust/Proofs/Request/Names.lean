/-
The names that the request of a node carries.

* `Request.ofData?_mem`: a field of a document that makes a request is the only one of its name, and
  the request holds its value.
* `NodeInfo.request_names`: whatever was pasted, a request that a document of the built-in template
  makes has the common name and the hosts of its node, each as the text that it stands for.
* `NodeInfo.names_differ_iff`: two nodes of a lab have requests under different names if and only if
  their names stand for different texts.
-/
import LabTrust.Proofs.Json.Injection
import LabTrust.Proofs.Json.Tail
import LabTrust.Proofs.Request.Plain
import LabTrust.Store.Layout

namespace LabTrust

open Json

/-! ### Fields of a request -/

namespace Data

/-- A field is the only one of its name, if the name is given at most once. -/
lemma once?_of_mem {name : String} {fs : List (String × Data)} {d : Data} {x : Option Data}
    (hm : (name, d) ∈ fs) (h : once? name fs = some x) : x = some d := by
  have hf : (name, d) ∈ fs.filter (·.1 == name) := List.mem_filter.2 ⟨hm, by simp⟩
  rw [once?] at h
  split at h
  · next he =>
      rw [he] at hf
      cases hf
  · next field he =>
      rw [he, List.mem_singleton] at hf
      subst hf
      exact (Option.some.inj h).symm
  · cases h

end Data

namespace Request

/-- The fields of a document that makes a request. -/
lemma ofData?_mem {fs : List (String × Data)} {r : Request} (h : ofData? (.record fs) = some r) :
    (∀ d, ("CN", d) ∈ fs → d.text? = some r.commonName) ∧
      ∀ d, ("hosts", d) ∈ fs → d.list? Data.text? = some r.hosts := by
  rw [ofData?] at h
  split at h
  · next cn key names hosts ca hfields =>
      simp only [Data.fields?, List.mapM_cons, List.mapM_nil, Option.bind_eq_bind,
        Option.bind_eq_some_iff, Option.pure_def, Option.some.injEq, List.cons.injEq] at hfields
      obtain ⟨_, hcn, _, ⟨_, -, _, ⟨_, -, _, ⟨_, hhosts, _, -, rfl⟩, rfl⟩, rfl⟩, rfl, -, -, rfl,
        -⟩ := hfields
      simp only [Option.bind_eq_bind, Option.bind_eq_some_iff, Option.pure_def,
        Option.some.injEq] at h
      obtain ⟨_, hreadCn, _, -, _, -, _, hreadHosts, _, -, rfl⟩ := h
      refine ⟨fun d hd => ?_, fun d hd => ?_⟩
      · rwa [Data.once?_of_mem hd hcn] at hreadCn
      · rwa [Data.once?_of_mem hd hhosts] at hreadHosts
  · cases h

lemma mem_of_mapM {fs : List (Option String × Data)} {fs' : List (String × Data)}
    (h : fs.mapM (fun (name, value) => name.map (·, value)) = some fs') {n : String} {d : Data}
    (hm : (some n, d) ∈ fs) : (n, d) ∈ fs' := by
  induction fs generalizing fs' with
  | nil => cases hm
  | cons f fs ih =>
      rw [List.mapM_cons] at h
      obtain ⟨f', hf, h⟩ := Option.bind_eq_some_iff.1 h
      obtain ⟨rest, hrest, h⟩ := Option.bind_eq_some_iff.1 h
      obtain rfl : f' :: rest = fs' := Option.some.inj h
      rcases List.mem_cons.1 hm with rfl | hm
      · obtain rfl : (n, d) = f' := Option.some.inj hf
        exact List.mem_cons_self
      · exact List.mem_cons_of_mem _ (ih hrest hm)

/-- A record that makes a request has names that can be read. -/
lemma ofData?_recordOf {fs : List (Option String × Data)} {r : Request}
    (h : ofData? (recordOf fs) = some r) :
    (∀ d, (some "CN", d) ∈ fs → d.text? = some r.commonName) ∧
      ∀ d, (some "hosts", d) ∈ fs → d.list? Data.text? = some r.hosts := by
  rw [recordOf] at h
  split at h
  · next fs' hfs =>
      obtain ⟨hcn, hhosts⟩ := ofData?_mem h
      exact ⟨fun d hd => hcn d (mem_of_mapM hfs hd), fun d hd => hhosts d (mem_of_mapM hfs hd)⟩
  · cases h

end Request

/-! ### The document of a leaf -/

namespace LeafInput

variable {i : LeafInput}

/-- What stands between the common name and the seam. -/
def beforeSeam (i : LeafInput) : List Symbol := ofText "\n    " ++ ofText i.middle

/-- The last field, and the end of the document. -/
def lastField (i : LeafInput) : List Symbol := ofText i.hostsField ++ ofText "\n    ]\n\x7d\n"

/-- The fields of the document. -/
def allFields (i : LeafInput) : List Symbol :=
  some '"' :: (ofText "CN" ++ some '"' :: some ':' :: some ' ' :: some '"' :: (ofText i.name ++
    some '.' :: (ofText i.labName ++ some '.' :: (ofText "io" ++ some '"' :: some ',' ::
      (i.beforeSeam ++ seam i.lastField)))))

lemma ofText_document (i : LeafInput) :
    ofText i.document = some '\x7b' :: (ofText "\n    " ++ i.allFields) := by
  unfold document allFields beforeSeam lastField seam seamInner seamOuter
  simp only [ofText_append, List.append_assoc]
  simp [ofText]

/-- The list in the last field begins with the first two hosts, each on a line of its own. -/
lemma lastField_eq (i : LeafInput) : ∃ x, i.lastField =
    some '"' :: (ofText "hosts" ++ some '"' :: some ':' :: some ' ' :: some '[' ::
      (ofText "\n      " ++ some '"' :: (ofText i.name ++ some '"' :: some ',' ::
        (ofText "\n      " ++ some '"' :: (ofText i.longName ++ x))))) := by
  refine ⟨ofText ("\",\n      \"" ++ i.fqdn ++ "\"" ++ hostLines i.hosts) ++
    ofText "\n    ]\n\x7d\n", ?_⟩
  unfold lastField hostsField
  simp only [ofText_append, List.append_assoc]
  simp [ofText]

lemma skipSpace_lastField (i : LeafInput) : skipSpace i.lastField = i.lastField := by
  obtain ⟨x, hx⟩ := i.lastField_eq
  rw [hx, skipSpace_cons rfl]

/-- The last field cannot be taken for items of a list. -/
lemma items?_lastField (i : LeafInput) (depth : ℕ) :
    items? depth (skipSpace i.lastField) = none := by
  have hhosts : IsPlain "hosts" := by decide
  rw [skipSpace_lastField, Option.eq_none_iff_forall_ne_some]
  rintro ⟨ds, r⟩ h
  obtain ⟨x, hx⟩ := i.lastField_eq
  rw [hx] at h
  exact items?_named (named_iff.2 ⟨_, _, _, _, rfl, hhosts.inside, skipSpace_cons rfl _⟩) h

/-- If the last field is read as fields, its list is read as items. -/
lemma items?_of_fields? {depth : ℕ} {fs : List (Option String × Data)} {r x : List Symbol}
    (hx : i.lastField = some '"' :: (ofText "hosts" ++ some '"' :: some ':' :: some ' ' ::
      some '[' :: (ofText "\n      " ++ some '"' :: x)))
    (h : fields? depth i.lastField = some (fs, r)) :
    ∃ depth' ds r', items? depth' (some '"' :: x) = some (ds, r') := by
  have hhosts : IsPlain "hosts" := by decide
  have hgap : skipSpace (ofText "\n      " ++ some '"' :: x) = some '"' :: x :=
    skipSpace_gap (by decide) rfl x
  rcases depth with _ | _ | depth
  · cases h
  · obtain ⟨s₁, name, s₂, s₃, d, s₄, -, -, -, hd, -⟩ := fields?_iff.1 h
    cases hd
  · obtain ⟨s₁, name, s₂, s₃, d, s₄, hs, hname, hcolon, hd, -⟩ := fields?_iff.1 h
    rw [hx] at hs
    obtain ⟨-, rfl⟩ := List.cons.inj hs
    rw [string?_of_inside hhosts.inside] at hname
    cases hname
    rw [skipSpace_cons rfl] at hcolon
    obtain ⟨-, rfl⟩ := List.cons.inj hcolon
    rcases value?_list_iff.1 hd with ⟨hclose, -⟩ | ⟨ds, hds, -⟩
    · rw [hgap] at hclose
      exact absurd (List.cons.inj hclose).1 (by decide)
    · rw [hgap] at hds
      exact ⟨depth, ds, s₄, hds⟩

/-- A document that is read is a record with these fields, and nothing follows it. -/
lemma fields_of_read {d : Data} (h : Json.read (.ofText i.document) = some d) :
    ∃ depth fs r, fields? depth i.allFields = some (fs, r) ∧ skipSpace r = [] ∧
      d = recordOf fs := by
  have hgap : skipSpace (ofText "\n    " ++ i.allFields) = i.allFields :=
    skipSpace_gap (by decide) rfl _
  rw [Json.read_ofText, readSymbols, ofText_document, skipSpace_cons rfl] at h
  split at h
  · next d' r hd =>
      split at h
      · next hr =>
          cases h
          rcases value?_record_iff.1 hd with ⟨hclose, -⟩ | ⟨fs, hfs, rfl⟩
          · rw [hgap] at hclose
            exact absurd (List.cons.inj hclose).1 (by decide)
          · rw [hgap] at hfs
            exact ⟨_, fs, r, hfs, List.isEmpty_iff.1 hr, rfl⟩
      · cases h
  · cases h

lemma allFields_eq (i : LeafInput) : ∃ u, i.allFields = u ++ seam i.lastField := by
  refine ⟨some '"' :: (ofText "CN" ++ some '"' :: some ':' :: some ' ' :: some '"' ::
    (ofText i.name ++ some '.' :: (ofText i.labName ++ some '.' :: (ofText "io" ++ some '"' ::
      some ',' :: i.beforeSeam)))), ?_⟩
  simp [allFields]

/-- The first field of a document that is read is the common name, and other fields may follow. -/
lemma first_of_fields {depth : ℕ} {fs : List (Option String × Data)} {r : List Symbol}
    (h : fields? depth i.allFields = some (fs, r)) :
    ∃ ps s depth', pieces? (ofText i.name ++ some '.' :: (ofText i.labName ++ some '.' ::
        (ofText "io" ++ some '"' :: some ',' :: (i.beforeSeam ++ seam i.lastField)))) =
          some (ps, s) ∧ (some "CN", stringOf ps) ∈ fs ∧
      (skipSpace s = some '}' :: r ∨ ∃ w fs', skipSpace s = some ',' :: w ∧
        fields? depth' (skipSpace w) = some (fs', r)) := by
  have hcn : IsPlain "CN" := by decide
  rcases depth with _ | _ | depth
  · cases h
  · obtain ⟨s₁, name, s₂, s₃, d, s₄, -, -, -, hd, -⟩ := fields?_iff.1 h
    cases hd
  · obtain ⟨s₁, name, s₂, s₃, d, s₄, hs, hname, hcolon, hd, hnext⟩ := fields?_iff.1 h
    obtain ⟨-, rfl⟩ := List.cons.inj hs
    rw [string?_of_inside hcn.inside, assemble?_chars, Option.map_some,
      String.ofList_toList] at hname
    cases hname
    rw [skipSpace_cons rfl] at hcolon
    obtain ⟨-, rfl⟩ := List.cons.inj hcolon
    obtain ⟨⟨text, s⟩, htext, he⟩ := Option.map_eq_some_iff.1 hd
    obtain ⟨⟨ps, s⟩, hps, he'⟩ := Option.map_eq_some_iff.1 htext
    cases he'
    cases he
    refine ⟨ps, s₄, depth + 1, hps, ?_⟩
    rcases hnext with ⟨hclose, rfl⟩ | ⟨w, fs', hcomma, hmore, rfl⟩
    · exact ⟨List.mem_cons_self, .inl hclose⟩
    · exact ⟨List.mem_cons_self, .inr ⟨w, fs', hcomma, hmore⟩⟩

/-- In a document that is read, the first two texts do not end a string. -/
lemma pastes_of_fields {depth : ℕ} {fs : List (Option String × Data)} {r y : List Symbol}
    (hlong : ofText i.longName = ofText "clab-" ++ (ofText i.labName ++ y))
    (h : fields? depth i.allFields = some (fs, r)) (hr : skipSpace r = []) :
    Pastes i.name ∧ Pastes i.labName := by
  obtain ⟨ps, s, depth₁, hcn, -, hnext⟩ := first_of_fields h
  obtain ⟨u, hu⟩ := i.allFields_eq
  rw [hu] at h
  obtain ⟨depth₂, fs', r', hlast⟩ := exists_read (items?_lastField i) h hr
  rw [skipSpace_lastField] at hlast
  obtain ⟨x, hx⟩ := i.lastField_eq
  rw [hlong] at hx
  obtain ⟨depth₃, ds, r'', hlist⟩ := items?_of_fields? hx hlast
  rw [List.append_assoc, List.append_assoc] at hlist
  exact inside_of_both hcn (hnext.imp_left fun hclose => ⟨hclose, hr⟩) hlist

/-- A document that is read begins with the qualified name. -/
lemma commonName_of_fields {depth : ℕ} {fs : List (Option String × Data)} {r : List Symbol}
    (hcn : Pastes (i.name ++ "." ++ i.labName ++ ".io"))
    (h : fields? depth i.allFields = some (fs, r)) :
    (some "CN", pasted (i.name ++ "." ++ i.labName ++ ".io")) ∈ fs := by
  obtain ⟨qs, hqs⟩ := hcn
  obtain ⟨ps, s, _, hps, hmem, -⟩ := first_of_fields h
  have htext : ofText i.name ++ some '.' :: (ofText i.labName ++ some '.' :: (ofText "io" ++
      some '"' :: some ',' :: (i.beforeSeam ++ seam i.lastField))) =
      ofText (i.name ++ "." ++ i.labName ++ ".io") ++ some '"' :: some ',' ::
        (i.beforeSeam ++ seam i.lastField) := by
    simp [ofText]
  rw [htext, pieces?_eq_some_iff.2 ⟨_, rfl, hqs⟩] at hps
  cases hps
  rwa [pasted_of_inside hqs]

/-- A document that is read ends in the hosts. -/
lemma hosts_of_fields {depth : ℕ} {fs : List (Option String × Data)} {r : List Symbol}
    (hhosts : ∀ s ∈ i.name :: i.longName :: i.fqdn :: i.hosts, Pastes s)
    (h : fields? depth i.allFields = some (fs, r)) (hr : skipSpace r = []) :
    (some "hosts", .list ((i.name :: i.longName :: i.fqdn :: i.hosts).map pasted)) ∈ fs := by
  have hspells := spells_hostsField hhosts
  have hlast : i.lastField = ofText i.hostsField ++ ofText "\n    ]\n\x7d" ++ ofText "\n" := by
    unfold lastField
    simp [ofText]
  obtain ⟨u, hu⟩ := i.allFields_eq
  rw [hu] at h
  obtain ⟨fs', hsuffix, rfl⟩ := exists_suffix
    (Q := (· = named [("hosts", .list ((i.name :: i.longName :: i.fqdn :: i.hosts).map pasted))]))
    (items?_lastField i) (fun depth fs r hf => by
      rw [skipSpace_lastField, hlast] at hf
      obtain ⟨rfl, rfl⟩ := fields?_unique hf (hspells.fields? (Nat.le_refl _) (ofText "\n"))
      exact ⟨rfl, rfl⟩) h hr
  exact hsuffix.subset List.mem_cons_self

end LeafInput

/-! ### Nodes -/

lemma Request.read_eq_ok_iff {document : Bytes} {r : Request} :
    Request.read document = .ok r ↔ ∃ d, Json.read document = some d ∧ ofData? d = some r := by
  rw [Request.read]
  cases Json.read document with
  | none => simp
  | some d => cases h : ofData? d <;> simp [h]

namespace NodeInfo

variable {lab name kind : String} {subject : Subject} {document : String} {r : Request}

/-- Whatever was pasted, the request of a node is one under its own names. -/
theorem request_names
    (hdoc : Template.ofNode.render
      (LeafInput.ofNode (.ofLab lab name kind) lab subject).toData = .ok document)
    (hread : Request.read (.ofText document) = .ok r) :
    ∃ n l, meaning? name = some n ∧ meaning? lab = some l ∧
      r.commonName = n ++ "." ++ l ++ ".io" ∧
      r.hosts = [n, "clab-" ++ l ++ "-" ++ n, n ++ "." ++ l ++ ".io"] := by
  rw [Template.render_ofNode] at hdoc
  obtain rfl := Except.ok.inj hdoc
  obtain ⟨d, hd, hr⟩ := Request.read_eq_ok_iff.1 hread
  obtain ⟨depth, fs, rest, hfs, hrest, rfl⟩ := LeafInput.fields_of_read hd
  obtain ⟨hcn, hhosts⟩ := Request.ofData?_recordOf hr
  obtain ⟨hname, hlab⟩ : Pastes name ∧ Pastes lab :=
    LeafInput.pastes_of_fields (y := ofText ("-" ++ name))
      (by simp [LeafInput.ofNode, ofLab]) hfs hrest
  have hpastes : ∀ s ∈ [name, "clab-" ++ lab ++ "-" ++ name, name ++ "." ++ lab ++ ".io"],
      Pastes s := by
    simpa using ⟨hname, hname.longName hlab, hname.fqdn hlab⟩
  -- the common name is the qualified name, and the hosts are the three names of the node
  have hcommon : meaning? (name ++ "." ++ lab ++ ".io") = some r.commonName := by
    rw [← text?_pasted]
    exact hcn _ (LeafInput.commonName_of_fields
      (i := .ofNode (.ofLab lab name kind) lab subject) (hname.fqdn hlab) hfs)
  have hlist : [name, "clab-" ++ lab ++ "-" ++ name, name ++ "." ++ lab ++ ".io"].mapM meaning? =
      some r.hosts := by
    rw [← Data.list?_pasted]
    exact hhosts _ (LeafInput.hosts_of_fields
      (i := .ofNode (.ofLab lab name kind) lab subject) hpastes hfs hrest)
  have hqualified := hcommon
  rw [meaning?_fqdn hname hlab] at hqualified
  obtain ⟨n, hn, hqualified⟩ := Option.bind_eq_some_iff.1 hqualified
  obtain ⟨l, hl, hcn⟩ := Option.map_eq_some_iff.1 hqualified
  refine ⟨n, l, hn, hl, hcn.symm, ?_⟩
  have hvalue : [name, "clab-" ++ lab ++ "-" ++ name, name ++ "." ++ lab ++ ".io"].mapM meaning? =
      some [n, "clab-" ++ l ++ "-" ++ n, n ++ "." ++ l ++ ".io"] := by
    simp [hn, meaning?_longName hname hlab, hl, hcommon, ← hcn]
  exact Option.some.inj (hlist.symm.trans hvalue)

/-- Without a backslash a name stands for itself. -/
lemma meaning?_of_request
    (hdoc : Template.ofNode.render
      (LeafInput.ofNode (.ofLab lab name kind) lab subject).toData = .ok document)
    (hread : Request.read (.ofText document) = .ok r) (hname : '\\' ∉ name.toList) :
    meaning? name = some name := by
  obtain ⟨n, l, hn, -⟩ := request_names hdoc hread
  rw [meaning?] at hn
  split at hn
  · next ps hps => exact meaning?_of_plain ((inside_iff.2 hps).isPlain hname)
  · cases hn

section two

variable {name' kind' document' : String} {r' : Request}

/-- Two nodes of a lab have requests under different names if and only if their names stand for
different texts. Names without backslashes do so as soon as they differ. -/
theorem names_differ_iff
    (hdoc : Template.ofNode.render
      (LeafInput.ofNode (.ofLab lab name kind) lab subject).toData = .ok document)
    (hread : Request.read (.ofText document) = .ok r)
    (hdoc' : Template.ofNode.render
      (LeafInput.ofNode (.ofLab lab name' kind') lab subject).toData = .ok document')
    (hread' : Request.read (.ofText document') = .ok r') :
    (r.commonName ≠ r'.commonName ↔ meaning? name ≠ meaning? name') ∧
      (r.hosts.head? ≠ r'.hosts.head? ↔ meaning? name ≠ meaning? name') ∧
      ('\\' ∉ name.toList → '\\' ∉ name'.toList →
        (meaning? name ≠ meaning? name' ↔ name ≠ name')) := by
  obtain ⟨n, l, hn, hl, hcn, hhosts⟩ := request_names hdoc hread
  obtain ⟨n', l', hn', hl', hcn', hhosts'⟩ := request_names hdoc' hread'
  obtain rfl : l = l' := Option.some.inj (hl.symm.trans hl')
  refine ⟨not_congr ?_, not_congr ?_, fun hs hs' => ?_⟩
  · rw [hcn, hcn', hn, hn', Option.some.injEq]
    simp [← String.toList_inj]
  · rw [hhosts, hhosts', hn, hn']
    rfl
  · rw [meaning?_of_request hdoc hread hs, meaning?_of_request hdoc' hread' hs', ne_eq,
      Option.some.injEq]

/-- Two nodes, and the names in their requests. -/
theorem names_differ_pair : ∃ document document' r r',
    Template.ofNode.render
      (LeafInput.ofNode (.ofLab "lab" "srl1" "srl") "lab" .default).toData = .ok document ∧
    Request.read (.ofText document) = .ok r ∧
    Template.ofNode.render
      (LeafInput.ofNode (.ofLab "lab" "srl2" "srl") "lab" .default).toData = .ok document' ∧
    Request.read (.ofText document') = .ok r' ∧
    r.commonName ≠ r'.commonName ∧ r.hosts.head? ≠ r'.hosts.head? := by
  have hdoc := Template.render_ofNode (.ofNode (.ofLab "lab" "srl1" "srl") "lab" .default)
  have hdoc' := Template.render_ofNode (.ofNode (.ofLab "lab" "srl2" "srl") "lab" .default)
  have hread := Template.read_document_leaf (LeafInput.standsFor_of_plain
    (i := .ofNode (.ofLab "lab" "srl1" "srl") "lab" .default) (by decide))
  have hread' := Template.read_document_leaf (LeafInput.standsFor_of_plain
    (i := .ofNode (.ofLab "lab" "srl2" "srl") "lab" .default) (by decide))
  obtain ⟨hcn, hhosts, hplain⟩ := names_differ_iff hdoc hread hdoc' hread'
  have hne := (hplain (by decide) (by decide)).2 (by decide)
  exact ⟨_, _, _, _, hdoc, hread, hdoc', hread', hcn.2 hne, hhosts.2 hne⟩

/-- A name that spells another name with an escape gets the names of that other node. -/
theorem names_shared_by_escape : ∃ document document' r r',
    Text.blank "a" = false ∧ checkName "a" = .ok () ∧
    Text.blank "\\u0061" = false ∧ checkName "\\u0061" = .ok () ∧ "a" ≠ "\\u0061" ∧
    Template.ofNode.render
      (LeafInput.ofNode (.ofLab "lab" "a" "srl") "lab" .default).toData = .ok document ∧
    Request.read (.ofText document) = .ok r ∧
    Template.ofNode.render
      (LeafInput.ofNode (.ofLab "lab" "\\u0061" "srl") "lab" .default).toData = .ok document' ∧
    Request.read (.ofText document') = .ok r' ∧
    r.commonName = r'.commonName ∧ r.hosts.head? = r'.hosts.head? := by
  have hdoc := Template.render_ofNode (.ofNode (.ofLab "lab" "a" "srl") "lab" .default)
  have hdoc' := Template.render_ofNode (.ofNode (.ofLab "lab" "\\u0061" "srl") "lab" .default)
  have hread := Template.read_document_leaf (LeafInput.standsFor_of_plain
    (i := .ofNode (.ofLab "lab" "a" "srl") "lab" .default) (by decide))
  -- every text of the second identity stands for the text of the first
  have hread' := Template.read_document_leaf
    (i := .ofNode (.ofLab "lab" "\\u0061" "srl") "lab" .default)
    (j := .ofNode (.ofLab "lab" "a" "srl") "lab" .default)
    (by constructor <;> decide +kernel)
  exact ⟨_, _, _, _, by decide, by decide, by decide, by decide, by decide, hdoc, hread, hdoc',
    hread', rfl, rfl⟩

end two

end NodeInfo

end LabTrust
