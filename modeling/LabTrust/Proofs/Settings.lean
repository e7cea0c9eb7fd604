/-
Settings that were written are read back.

* `Settings.pairs`, `Subject.pairs`: the fields of settings, as pairs of a document.
* `Settings.write_eq`: settings are written as such a document.
* `Settings.ofData?_pairs`: what the document holds are the settings.
* `Settings.read_write`: so settings that pass their check come back as they were.
-/
import LabTrust.Proofs.Except
import LabTrust.Proofs.Toml.Documents
import LabTrust.Settings

namespace LabTrust

open Toml (Pair)

/-- A list of texts is read item by item. -/
lemma Data.list?_map_text (xs : List String) :
    (Data.list (xs.map .text)).list? Data.text? = some xs := by
  rw [Data.list?, Option.mapM_eq_some_iff, List.forall₂_map_left_iff, List.forall₂_same]
  exact fun _ _ => rfl

/-- The names of a subject as pairs. -/
def Subject.pairs (s : Subject) : List Pair :=
  [.ofText "country" (by decide) s.country, .ofText "locality" (by decide) s.locality,
    .ofText "organization" (by decide) s.organization,
    .ofText "organization_unit" (by decide) s.unit]

namespace Settings

/-- Template files that are set, as pairs. -/
def templatePairs (s : Settings) : List Pair :=
  (s.rootTemplate.map fun p => Pair.ofText "root_template" (by decide) p.text).toList ++
    (s.nodeTemplate.map fun p => Pair.ofText "node_template" (by decide) p.text).toList

/-- The settings beside the subject as pairs. -/
def pairs (s : Settings) : List Pair :=
  [.ofText "ca_expiry" (by decide) s.rootExpiry, .ofText "leaf_expiry" (by decide) s.leafExpiry,
    .ofText "host_policy" (by decide) s.hostPolicy.name,
    .ofList "ca_kinds" (by decide) s.kinds] ++ s.templatePairs

/-- Settings are written as a document of pairs, with the subject under a header. -/
lemma write_eq (s : Settings) : s.write = Toml.document s.pairs "identity" s.subject.pairs := by
  rw [write, Toml.document, pairs, templateFields, templatePairs]
  cases s.rootTemplate <;> cases s.nodeTemplate <;>
    simp [String.append_assoc, Subject.pairs, Pair.ofText, Pair.ofList, Pair.text]

/-- The keys of settings are different, and none is the subject's header. -/
lemma nodup_keys (s : Settings) : (s.pairs.map (·.key) ++ ["identity"]).Nodup := by
  rw [pairs, templatePairs]
  cases s.rootTemplate <;> cases s.nodeTemplate <;> simp [Pair.ofText, Pair.ofList]

/-- What a document of written settings holds under the names that are looked for. -/
lemma fields?_pairs (s : Settings) :
    (Data.record (s.pairs.map Pair.field ++
      [("identity", .record (s.subject.pairs.map Pair.field))])).fields?
        ["identity", "ca_expiry", "leaf_expiry", "host_policy", "ca_kinds", "root_template",
          "node_template"] =
      some [some (.record (s.subject.pairs.map Pair.field)), some (.text s.rootExpiry),
        some (.text s.leafExpiry), some (.text s.hostPolicy.name),
        some (.list (s.kinds.map .text)), s.rootTemplate.map (.text ·.text),
        s.nodeTemplate.map (.text ·.text)] := by
  rw [pairs, templatePairs]
  cases s.rootTemplate <;> cases s.nodeTemplate <;> rfl

/-- A path that is not written is not set. -/
lemma fieldOr_path (path : Option Path) :
    Data.fieldOr none (Data.optional? path?) (path.map (.text ·.text)) = some path := by
  cases path with
  | none => rfl
  | some path =>
      show some (some (Path.ofText path.text)) = _
      rw [Path.ofText, Path.text, String.toList_ofList]

/-- What is written holds the settings. -/
lemma ofData?_pairs (unit : Data → Bool) (s : Settings) :
    ofData? unit (.record (s.pairs.map Pair.field ++
      [("identity", .record (s.subject.pairs.map Pair.field))])) = some s := by
  have hsubject : Subject.ofData? (.record (s.subject.pairs.map Pair.field)) = some s.subject := rfl
  have hpolicy : HostPolicy.ofData? unit (.text s.hostPolicy.name) = some s.hostPolicy := by
    cases s.hostPolicy <;> rfl
  rw [ofData?, fields?_pairs]
  simp only [fieldOr_path]
  simp only [Data.fieldOr, hsubject, hpolicy, Data.list?_map_text, Data.text?]
  rfl

/-- Written settings are read as themselves, up to their check. -/
lemma read_write_eq (s : Settings) : read s.write = s.check.map fun _ => s := by
  have hkeys : (s.subject.pairs.map (·.key)).Nodup := by simp [Subject.pairs, Pair.ofText]
  rw [read, write_eq, Toml.read_document (by decide) s.nodup_keys hkeys]
  simp only [ofData?_pairs]

/-- Settings that pass their check are written and read back as they were. -/
theorem read_write {s : Settings} (h : s.check = .ok ()) : read s.write = .ok s := by
  rw [read_write_eq, h]
  rfl

/-- Settings with line feeds, both marks, backslashes and controls, without kinds, and with an empty
path. -/
def awkward : Settings where
  subject :=
    { country := "\\ and \"\"\" and '''\n", locality := "\x00\x7f\x0d\n\t\"\"\"\"",
      organization := "'\\", unit := "" }
  rootExpiry := "\n1h30m "
  leafExpiry := "0008760h"
  hostPolicy := .reject
  kinds := []
  rootTemplate := some ⟨[]⟩
  nodeTemplate := some ⟨['"', '#', '\n']⟩

theorem awkward_read_write : awkward.check = .ok () ∧ read awkward.write = .ok awkward := by
  have hcheck : awkward.check = .ok () := by decide +kernel
  exact ⟨hcheck, read_write hcheck⟩

end Settings

end LabTrust
