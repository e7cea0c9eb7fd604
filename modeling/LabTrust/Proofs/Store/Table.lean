/-
The store as a table of names.

Every name has a directory of its own, with three files whose names begin with it. So bundles that
are written under names can be read back by name, in any order and however often a name comes back:
what lies on disk is a table, and the newest bundle of a name is its entry.
* `Disk.Vacant`: a directory that is empty or still to be made, below directories that are there.
* `Disk.Records`: the directory holds the newest bundle of each name of a log, and nothing else lies
  where the directories of names would.
* `Records.of_changes`, `Always.fill`: what one more bundle does to the log, and what a row does.
* `Store.loads_newest`: what is read back.
-/
import LabTrust.Proofs.Disk.Trunk
import LabTrust.Proofs.Lab.Apart
import LabTrust.Proofs.Lab.Traces
import LabTrust.Proofs.Store.Answers
import Mathlib.Data.List.Infix

namespace LabTrust

variable {σ : Type} {authority : Authority σ} {d d' : Disk} {p directory : Path} {n : List Char}
  {name : String} {b : Bundle} {log : List (String × Bundle)}

/-! ### Paths within the limits -/

/-- The file system takes the path: its spelling may be that of an entry, and so may each part. -/
structure Path.Fits (p : Path) : Prop where
  spelled : p.IsSpelled
  parts : ∀ part ∈ p.steps, (Bytes.ofChars part).length ≤ Disk.nameLimit

namespace Disk

/-- A name that is missing in a directory is found missing, unless a file is in the way. -/
lemma lookUp_join_of_missing (hn : Path.IsName n) (hfits : (p.join ⟨n⟩).Fits)
    (hway : ∀ l c, p.Passes d.workdir l → d.entryAt l ≠ some (.file c))
    (hnone : d.entryAt (p.place d.workdir ++ [n]) = none) :
    d.lookUp (p.join ⟨n⟩) = .error .absent := by
  rw [← Path.place_join p hn] at hnone
  cases hlook : d.lookUp (p.join ⟨n⟩) with
  | ok e =>
      obtain ⟨l, hlocate, hentry, -⟩ := lookUp_eq_ok_iff.mp hlook
      simp [locate_eq_place hlocate, hnone] at hentry
  | error f =>
      refine congrArg Except.error (not_not.mp fun hf => ?_)
      cases (lookUp_eq_error_iff hf).mp hlook with
      | nul hnul => exact hfits.spelled.1 hnul
      | long _ hlong => exact Nat.not_lt.mpr hlong hfits.spelled.2.2
      | slash hlocate hentry _ => simp [locate_eq_place hlocate, hnone] at hentry
      | stop _ hstops =>
          cases hstops with
          | name hparts _ _ hlong =>
              exact Nat.not_lt.mpr (hfits.parts _ (hparts ▸ List.mem_append_right _
                List.mem_cons_self)) hlong
          | @file xs rest part l c hparts hfollow hentry =>
              have hprefix : xs <+: p.steps ++ [n] := ⟨part :: rest, by
                rw [← hparts, Path.steps_join p hn]⟩
              have hshort : xs ≠ p.steps ++ [n] := by
                rw [← Path.steps_join p hn, hparts]
                simp
              rw [Path.start, Path.isAbsolute_join p hn] at hfollow
              exact hway l c ⟨xs, (List.prefix_concat_iff.mp hprefix).resolve_left hshort,
                follow_eq_foldl hfollow⟩ hentry

/-! ### Records -/

/-- Every place on the way of a path is a directory; only where it leads may nothing lie yet. -/
def Opens (d : Disk) (p : Path) : Prop :=
  ∀ l, p.Passes d.workdir l →
    d.entryAt l = some .directory ∨ l = p.place d.workdir ∧ d.entryAt l = none

lemma opens_iff : d.Opens p ↔ ∀ parts ∈ p.steps.inits,
    d.entryAt (parts.foldl turn (p.start d.workdir)) = some .directory ∨
      parts.foldl turn (p.start d.workdir) = p.place d.workdir ∧
        d.entryAt (parts.foldl turn (p.start d.workdir)) = none := by
  simp only [Opens, Path.Passes, List.mem_inits]
  exact ⟨fun h parts hparts => h _ ⟨parts, hparts, rfl⟩, fun h _ ⟨parts, hparts, hl⟩ =>
    hl ▸ h parts hparts⟩

instance : Decidable (d.Opens p) := decidable_of_iff' _ opens_iff

/-- A directory that is empty or still to be made, below directories that are there. -/
structure Vacant (d : Disk) (directory : Path) : Prop where
  opens : d.Opens directory
  empty : ∀ k, k ≠ [] → d.entryAt (directory.place d.workdir ++ k) = none

/-- A directory holds the newest bundle of each name of a log, newest first. -/
structure Records (d : Disk) (directory : Path) (log : List (String × Bundle)) : Prop where
  opens : d.Opens directory
  written : ∀ name b, log.lookup name = some b →
    checkName name = .ok () ∧ d.Holds (Triple.ofNode directory name) b
  unwritten : ∀ name, log.lookup name = none →
    d.entryAt (directory.place d.workdir ++ [name.toList]) = none

/-- Nothing lies below any path on an empty disk. -/
lemma vacant_of_opens (h : ({} : Disk).Opens directory) : ({} : Disk).Vacant directory :=
  ⟨h, fun k hk => by simp [entryAt, find?, hk]⟩

lemma Vacant.records (h : d.Vacant directory) : d.Records directory [] :=
  ⟨h.opens, nofun, fun _ _ => h.empty _ (by simp)⟩

lemma Opens.ne_file {l : Location} {c : Bytes} (h : d.Opens p) (hl : p.Passes d.workdir l) :
    d.entryAt l ≠ some (.file c) := by
  rcases h l hl with he | ⟨-, he⟩ <;> simp [he]

/-- Files below the place of a path do not get into its way. -/
lemma Opens.of_changes {D F : Location → Prop} (h : d.Opens p) (hd : Changes D F d d')
    (hF : ¬ F (p.place d.workdir)) : d'.Opens p := by
  intro l hl
  rw [hd.workdir] at hl ⊢
  rcases h l hl with he | ⟨rfl, he⟩
  · exact Or.inl (hd.grows.directory l he)
  · rcases hd.entry (p.place d.workdir) with he' | ⟨-, -, hdirectory⟩ | ⟨hF', -⟩
    · exact Or.inr ⟨rfl, he'.trans he⟩
    · exact Or.inl hdirectory
    · exact absurd hF' hF

/-- A bundle is still held if no file of its triple was written. -/
lemma Holds.of_changes {D F : Location → Prop} (h : d.Holds (Triple.ofPath p) b)
    (hd : Changes D F d d') (hF : ∀ l, (Triple.ofPath p).Lies d.workdir l → ¬ F l) :
    d'.Holds (Triple.ofPath p) b := by
  have hread : ∀ q ∈ (Triple.ofPath p).paths, ∀ c, d.read q = .ok c → d'.read q = .ok c :=
    fun q hq c hc =>
      read_eq_ok_iff.mpr (hd.lookUp_eq (read_eq_ok_iff.mp hc) (hF _ ⟨q, hq, rfl⟩))
  exact ⟨hread _ (by simp [Triple.paths]) _ h.certificate, hread _ (by simp [Triple.paths]) _ h.key,
    hread _ (by simp [Triple.paths]) _ h.request⟩

/-- The files of a name lie below its directory. -/
lemma not_lies_ofNode (hname : checkName name = .ok ()) {k : Location} (hk : k.length < 2) :
    ¬ (Triple.ofNode directory name).Lies d.workdir (directory.place d.workdir ++ k) := by
  intro hlies
  obtain ⟨s, -, heq⟩ := (Triple.lies_ofNode_iff hname).mp hlies
  rw [List.append_cancel_left heq] at hk
  simp at hk

/-- Where the directory of another name would be, nothing comes to lie. -/
lemma Opens.entryAt_of_changes (h : d.Opens directory) (hname : checkName name = .ok ())
    (hd : Changes ((Triple.nodeDirectory directory name).Passes d.workdir)
      ((Triple.ofNode directory name).Lies d.workdir) d d') {other : String} (hne : other ≠ name)
    (hnone : d.entryAt (directory.place d.workdir ++ [other.toList]) = none) :
    d'.entryAt (directory.place d.workdir ++ [other.toList]) = none := by
  have hn := checkName_eq_ok_iff.mp hname
  rcases hd.entry (directory.place d.workdir ++ [other.toList]) with he | ⟨hpasses, -⟩ | ⟨hl, -⟩
  · rw [he, hnone]
  · -- the way to the new files leads to the directory of their own name only
    rcases Path.passes_join directory hn hpasses with hl | hl
    · rcases h _ hl with he | ⟨heq, -⟩
      · simp [hnone] at he
      · simp at heq
    · rw [Path.place_join directory hn] at hl
      exact absurd (String.ext (List.cons.inj (List.append_cancel_left hl)).1) hne
  · exact absurd hl (not_lies_ofNode hname (by simp))

/-- One more bundle is one more entry of the log: it hides the older ones of its name, and those of
other names stay. -/
lemma Records.of_changes (h : d.Records directory log) (hname : checkName name = .ok ())
    (hd : Changes ((Triple.nodeDirectory directory name).Passes d.workdir)
      ((Triple.ofNode directory name).Lies d.workdir) d d')
    (hb : d'.Holds (Triple.ofNode directory name) b) : d'.Records directory ((name, b) :: log) := by
  refine ⟨h.opens.of_changes hd ?_, fun other c hc => ?_, fun other hc => ?_⟩
  · have hplace := @not_lies_ofNode d directory name hname [] (by simp)
    rwa [List.append_nil] at hplace
  · rw [List.lookup_cons] at hc
    split at hc
    · next heq =>
      obtain rfl := beq_iff_eq.mp heq
      exact ⟨hname, Option.some.inj hc ▸ hb⟩
    · next hne =>
      obtain ⟨hother, hholds⟩ := h.written other c hc
      refine ⟨hother, Holds.of_changes hholds hd fun l hl hl' => ?_⟩
      obtain rfl := Triple.name_eq_of_lies hother hname hl hl'
      simp at hne
  · rw [List.lookup_cons] at hc
    split at hc
    · simp at hc
    · next hne =>
      rw [hd.workdir]
      exact h.opens.entryAt_of_changes hname hd (by simpa using hne) (h.unwritten other hc)

end Disk

/-! ### Writing a row of bundles -/

/-- Writes bundles under names, one after the other, each into the directory of its name. -/
def Store.fill (directory : Path) (bundles : List (String × Bundle)) : Action Unit :=
  bundles.forM fun (name, b) =>
    discard (persist b ((Triple.nodeDirectory directory name).join (.ofText name)))

namespace Action.Always

variable {w : World σ}

lemma persist_records (authority : Authority σ) (b : Bundle) (h : w.disk.Records directory log)
    (hname : checkName name = .ok ()) :
    Always (World.handle authority) (fun _ _ => True)
      (fun _ v => v.disk.Records directory ((name, b) :: log)) (fun _ _ => True)
      (Store.persist b ((Triple.nodeDirectory directory name).join (.ofText name))) w := by
  have hstages := @persist _ authority w b
    ((Triple.nodeDirectory directory name).join (.ofText name))
    (.written b _ ((Triple.nodeDirectory directory name).Passes w.disk.workdir) w.disk)
    fun d hd => hd.mono (fun l => Path.passes_of_passesAbove_join hname) fun _ h => h.elim
  exact mono hstages (fun _ _ _ => trivial) (fun _ v hv => h.of_changes hname hv.2.1 hv.2.2)
    fun _ _ _ => trivial

/-- A row of bundles goes into the log from the first on, so the last one is the newest. -/
lemma fill {bundles : List (String × Bundle)} (h : w.disk.Records directory log)
    (hnames : ∀ x ∈ bundles, checkName x.1 = .ok ()) :
    Always (World.handle authority) (fun _ _ => True)
      (fun _ v => v.disk.Records directory (bundles.reverse ++ log)) (fun _ _ => True)
      (Store.fill directory bundles) w := by
  induction bundles generalizing w log with
  | nil => exact pure h
  | cons x rest ih =>
      obtain ⟨name, b⟩ := x
      have hfirst := persist_records authority b h (hnames (name, b) List.mem_cons_self)
      refine bind (map (mono hfirst (fun _ _ _ => trivial) (fun _ v hv => ?_)
        fun _ _ _ => trivial))
      rw [List.reverse_cons, List.append_assoc]
      exact ih hv fun y hy => hnames y (List.mem_cons_of_mem _ hy)

end Action.Always

/-! ### Reading back -/

namespace Disk.Records

variable {v : Visit σ}

lemma load_of_some (h : d.Records directory log) (hb : log.lookup name = some b) :
    v.result (Store.load directory name) d = .ok { b with request := [] } := by
  obtain ⟨hname, hholds⟩ := h.written name b hb
  exact (Store.result_load_eq_ok_iff hname).mpr ⟨Store.lookUp_of_read_certificate hname
    hholds.certificate, hholds.certificate, hholds.key, rfl⟩

lemma load_of_none (h : d.Records directory log) (hnone : log.lookup name = none)
    (hname : checkName name = .ok ()) (hfits : (Triple.nodeDirectory directory name).Fits) :
    v.result (Store.load directory name) d =
      .error (.noNodeDirectory (Triple.nodeDirectory directory name)) := by
  have hmissing : d.lookUp (Triple.nodeDirectory directory name) = .error .absent :=
    lookUp_join_of_missing (checkName_eq_ok_iff.mp hname) hfits (fun _ _ => h.opens.ne_file)
      (h.unwritten name hnone)
  exact (Store.result_load_eq_error_iff hname).mpr (.directoryAbsent hmissing)

end Disk.Records

namespace Store

/-- The store is a table of names. After a row of bundles was written below a directory that was
empty or still to be made, a name gives the certificate and the key of its newest bundle, and a name
without a bundle is not found, as long as the file system takes the path of its directory. Reading
back changes nothing. -/
theorem loads_newest (v u : Visit σ) (d : Disk) (directory : Path)
    (bundles : List (String × Bundle)) (hvacant : d.Vacant directory)
    (hnames : ∀ x ∈ bundles, checkName x.1 = .ok ())
    (hfill : v.result (fill directory bundles) d = .ok ()) (name : String) :
    (∀ b, bundles.reverse.lookup name = some b →
        u.result (load directory name) (v.after (fill directory bundles) d) =
          .ok { key := b.key, request := [], certificate := b.certificate }) ∧
      (bundles.reverse.lookup name = none → checkName name = .ok () →
        (Triple.nodeDirectory directory name).Fits →
          ∃ e, u.result (load directory name) (v.after (fill directory bundles) d) = .error e ∧
            e.kind = .notFound) ∧
      u.after (load directory name) (v.after (fill directory bundles) d) =
        v.after (fill directory bundles) d := by
  obtain ⟨w, hw, hrecords⟩ := Visit.of_result_ok
    (Action.Always.fill (w := v.world d) hvacant.records hnames) hfill
  rw [hw, List.append_nil] at hrecords
  refine ⟨fun b hb => hrecords.load_of_some hb, fun hnone hname hfits => ?_, ?_⟩
  · exact ⟨_, hrecords.load_of_none hnone hname hfits, rfl⟩
  · rw [Visit.after, run_load]
    rfl

/-- Names that are like the files of others, one of them twice. -/
def lookalikes : List (String × Bundle) :=
  [("a", ⟨[1], [2], [3]⟩), ("a.pem", ⟨[4], [5], [6]⟩), ("a-key", ⟨[7], [8], [9]⟩),
    ("a", ⟨[10], [11], [12]⟩)]

/-- Each of them gives its own files, and a name that is only a file of theirs is not found. -/
theorem lookalikes_are_told_apart :
    (({} : Disk).Vacant (.ofText "ca") ∧ (∀ x ∈ lookalikes, checkName x.1 = .ok ()) ∧
      Visit.plain.result (fill (.ofText "ca") lookalikes) {} = .ok ()) ∧
      Visit.plain.result (load (.ofText "ca") "a")
          (Visit.plain.after (fill (.ofText "ca") lookalikes) {}) = .ok ⟨[10], [], [12]⟩ ∧
        ∃ e, Visit.plain.result (load (.ofText "ca") "a-key.pem")
          (Visit.plain.after (fill (.ofText "ca") lookalikes) {}) = .error e ∧
            e.kind = .notFound := by
  have hvacant : ({} : Disk).Vacant (.ofText "ca") := Disk.vacant_of_opens (by decide)
  have hnames : ∀ x ∈ lookalikes, checkName x.1 = .ok () := by decide
  have hfill : Visit.plain.result (fill (.ofText "ca") lookalikes) {} = .ok () := by
    decide
  have hloads := loads_newest Visit.plain Visit.plain {} (.ofText "ca") lookalikes hvacant hnames
    hfill
  refine ⟨⟨hvacant, hnames, hfill⟩, (hloads "a").1 ⟨[10], [11], [12]⟩ (by decide), ?_⟩
  refine (hloads "a-key.pem").2.1 (by decide) (by decide) ⟨?_, by decide⟩
  exact ⟨by decide, by decide, by decide⟩

/-- A directory with a spelling that leaves room for short names only. -/
def far : Path := ⟨"ca".toList ++ List.replicate 4082 '/'⟩

/-- A name of one file is not always found missing: the path of its directory may be too long. -/
theorem missing_name_may_be_refused :
    ¬ ∀ (v u : Visit Unit) (d : Disk) (directory : Path) (bundles : List (String × Bundle)),
      d.Vacant directory → (∀ x ∈ bundles, checkName x.1 = .ok ()) →
        v.result (fill directory bundles) d = .ok () → ∀ name,
          bundles.reverse.lookup name = none → checkName name = .ok () → '\x00' ∉ name.toList →
            (Bytes.ofText name).length ≤ Disk.nameLimit →
              ∃ e, u.result (load directory name) (v.after (fill directory bundles) d) = .error e ∧
                e.kind = .notFound := by
  intro h
  have hvacant : ({} : Disk).Vacant far := Disk.vacant_of_opens (by decide +kernel)
  obtain ⟨e, he, hkind⟩ := h Visit.plain Visit.plain {} far [] hvacant nofun rfl "a-name-beyond" rfl
    rfl (by decide) (by decide)
  have hio : (Visit.plain.result (load far "a-name-beyond")
      (Visit.plain.after (fill far []) {})).mapError Error.kind = .error .io := by decide +kernel
  rw [he] at hio
  simp [Except.mapError, hkind] at hio

end Store

end LabTrust
