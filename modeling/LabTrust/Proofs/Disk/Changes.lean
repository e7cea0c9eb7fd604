/-
What operations change on a disk.

* `Disk.Changes D F`: one disk comes from another by new directories at places in `D` and by files
  written at places in `F`; all other places hold what they held. The relation composes.
* `changes_write`, `changes_makeDirectories`: what the two operations that change a disk change.
* `Changes.lookUp_eq`: what was found at a path is found there still, unless a file was written
  over it; and then that file is found (`Changes.exists_lookUp`).
-/
import LabTrust.Proofs.Disk.Place

namespace LabTrust

namespace Disk

variable {d d' d₁ d₂ d₃ : Disk} {D D' F F' : Location → Prop} {p : Path} {l : Location}

/-- One disk comes from another by new directories at some places and files written at others. -/
structure Changes (D F : Location → Prop) (d d' : Disk) : Prop where
  workdir : d'.workdir = d.workdir
  entry : ∀ l, d'.entryAt l = d.entryAt l ∨
    (D l ∧ d.entryAt l = none ∧ d'.entryAt l = some .directory) ∨
    (F l ∧ d.entryAt l ≠ some .directory ∧ ∃ c, d'.entryAt l = some (.file c))

namespace Changes

lemma refl (D F : Location → Prop) (d : Disk) : Changes D F d d := ⟨rfl, fun _ => Or.inl rfl⟩

lemma mono (h : Changes D F d d') (hD : ∀ l, D l → D' l) (hF : ∀ l, F l → F' l) :
    Changes D' F' d d' := by
  refine ⟨h.workdir, fun l => ?_⟩
  rcases h.entry l with hl | ⟨hl, hnew⟩ | ⟨hl, hnew⟩
  · exact Or.inl hl
  · exact Or.inr (Or.inl ⟨hD l hl, hnew⟩)
  · exact Or.inr (Or.inr ⟨hF l hl, hnew⟩)

/-- A directory that was made stays one, and a file that was written stays a file. -/
lemma trans (h : Changes D F d₁ d₂) (h' : Changes D F d₂ d₃) : Changes D F d₁ d₃ := by
  refine ⟨h'.workdir.trans h.workdir, fun l => ?_⟩
  rcases h'.entry l with hl' | ⟨hD', hnone, hnew⟩ | ⟨hF', hdir, c, hnew⟩
  · rw [hl']
    exact h.entry l
  · rcases h.entry l with hl | ⟨-, -, hdir⟩ | ⟨-, -, c, hfile⟩
    · exact Or.inr (Or.inl ⟨hD', hl ▸ hnone, hnew⟩)
    · simp [hnone] at hdir
    · simp [hnone] at hfile
  · rcases h.entry l with hl | ⟨-, -, hdir'⟩ | ⟨hF, hdir', -⟩
    · exact Or.inr (Or.inr ⟨hF', hl ▸ hdir, c, hnew⟩)
    · exact absurd hdir' hdir
    · exact Or.inr (Or.inr ⟨hF, hdir', c, hnew⟩)

lemma grows (h : Changes D F d d') : Grows d d' := by
  refine ⟨h.workdir, fun l hl => ?_⟩
  rcases h.entry l with he | ⟨-, hnone, -⟩ | ⟨-, hdir, -⟩
  · rw [he, hl]
  · simp [hnone] at hl
  · exact absurd hl hdir

/-- What lies at a place stays there, unless a file is written over it. -/
lemma entryAt_of_some (h : Changes D F d d') {e : Entry} (hl : d.entryAt l = some e)
    (hF : ¬ F l) : d'.entryAt l = some e := by
  rcases h.entry l with he | ⟨-, hnone, -⟩ | ⟨hl', -⟩
  · rw [he, hl]
  · simp [hnone] at hl
  · exact absurd hl' hF

/-- A file lies only where one lay or was written. -/
lemma entryAt_file (h : Changes D F d d') {c : Bytes} (hl : d'.entryAt l = some (.file c))
    (hF : ¬ F l) : d.entryAt l = some (.file c) := by
  rcases h.entry l with he | ⟨-, -, hdir⟩ | ⟨hl', -⟩
  · rw [← he, hl]
  · simp [hdir] at hl
  · exact absurd hl' hF

end Changes

/-! ### Looking up and reading -/

lemma lookUp_eq_ok_iff {e : Entry} :
    d.lookUp p = .ok e ↔ ∃ l, d.locate p = .ok l ∧ d.entryAt l = some e ∧
      (e = .directory ∨ p.namesDirectory = false) := by
  rw [lookUp]
  cases d.locate p with
  | error f => simp [bind, Except.bind]
  | ok l =>
      cases he : d.entryAt l with
      | none => simp [bind, Except.bind, he]
      | some e' =>
          cases e' with
          | directory =>
              simp only [bind, Except.bind, he, Except.ok.injEq]
              constructor
              · rintro rfl
                exact ⟨l, rfl, he, Or.inl rfl⟩
              · rintro ⟨l', hl, hentry, -⟩
                rw [← hl, he] at hentry
                exact Option.some.inj hentry
          | file c =>
              simp only [bind, Except.bind, he]
              constructor
              · intro h
                split at h
                · simp at h
                · next hp =>
                  obtain rfl := Except.ok.inj h
                  exact ⟨l, rfl, he, Or.inr (by simpa using hp)⟩
              · rintro ⟨l', hl, hentry, hslash⟩
                rw [← Except.ok.inj hl, he] at hentry
                obtain rfl := Option.some.inj hentry
                rcases hslash with hdir | hp
                · simp at hdir
                · rw [hp]
                  rfl

lemma read_eq_ok_iff {c : Bytes} : d.read p = .ok c ↔ d.lookUp p = .ok (.file c) := by
  rw [read]
  cases d.lookUp p with
  | error f => simp [bind, Except.bind]
  | ok e => cases e <;> simp [bind, Except.bind]

/-- What was found at a path is found there still, unless a file was written over it. -/
lemma Changes.lookUp_eq (h : Changes D F d d') {e : Entry} (hp : d.lookUp p = .ok e)
    (hF : ¬ F (p.place d.workdir)) : d'.lookUp p = .ok e := by
  obtain ⟨l, hl, he, hslash⟩ := lookUp_eq_ok_iff.mp hp
  obtain rfl := locate_eq_place hl
  exact lookUp_eq_ok_iff.mpr ⟨_, h.grows.locate hl, h.entryAt_of_some he hF, hslash⟩

/-- Whatever was changed, something is found there still. -/
lemma Changes.exists_lookUp (h : Changes D F d d') (hp : ∃ e, d.lookUp p = .ok e) :
    ∃ e, d'.lookUp p = .ok e := by
  obtain ⟨e, he⟩ := hp
  obtain ⟨l, hl, hentry, hslash⟩ := lookUp_eq_ok_iff.mp he
  have hl' : d'.locate p = .ok l := h.grows.locate hl
  rcases h.entry l with hsame | ⟨-, hnone, -⟩ | ⟨-, hdir, c, hfile⟩
  · exact ⟨e, lookUp_eq_ok_iff.mpr ⟨l, hl', hsame.trans hentry, hslash⟩⟩
  · exact absurd (hnone.symm.trans hentry) nofun
  · -- a file comes only where no directory lay, so the path does not ask for a directory
    have hplain : p.namesDirectory = false := hslash.resolve_left fun he => hdir (he ▸ hentry)
    exact ⟨_, lookUp_eq_ok_iff.mpr ⟨l, hl', hfile, Or.inr hplain⟩⟩

/-- Where no file was written, nothing changes but that a missing entry may become a directory. -/
lemma Changes.lookUp_cases (h : Changes D F d d') (hl : d.locate p = .ok l) (hF : ¬ F l) :
    d'.lookUp p = d.lookUp p ∨ d.lookUp p = .error .absent ∧ d'.lookUp p = .ok .directory := by
  have hl' : d'.locate p = .ok l := h.grows.locate hl
  rcases h.entry l with he | ⟨-, hnone, hdir⟩ | ⟨hl, -⟩
  · refine Or.inl ?_
    rw [lookUp, lookUp, hl, hl']
    simp only [bind, Except.bind, he]
  · refine Or.inr ⟨?_, ?_⟩
    · rw [lookUp, hl]
      simp only [bind, Except.bind, hnone]
    · rw [lookUp, hl']
      simp only [bind, Except.bind, hdir]
  · exact absurd hl hF

/-! ### Writing -/

/-- A write that is not refused puts the file at the place of its path. -/
lemma write_eq_ok {c : Bytes} (h : d.write p c = .ok d') :
    d.locate p = .ok (p.place d.workdir) ∧ d.entryAt (p.place d.workdir) ≠ some .directory ∧
      p.namesDirectory = false ∧ d' = d.put (p.place d.workdir) (.file c) := by
  rw [write] at h
  cases hl : d.locate p with
  | error f => simp [hl, bind, Except.bind] at h
  | ok l =>
      obtain rfl := locate_eq_place hl
      simp only [hl, bind, Except.bind] at h
      split at h
      · simp at h
      · next hp =>
        simp only [Bool.or_eq_true, beq_iff_eq, not_or, Bool.not_eq_true] at hp
        exact ⟨rfl, hp.2, hp.1, (Except.ok.inj h).symm⟩

lemma ne_nil_of_entryAt_ne_directory (h : d.entryAt l ≠ some .directory) : l ≠ [] := by
  rintro rfl
  exact h (by simp [entryAt])

lemma changes_put {c : Bytes} (hF : F l) (h : d.entryAt l ≠ some .directory) :
    Changes D F d (d.put l (.file c)) := by
  refine ⟨rfl, fun k => ?_⟩
  by_cases hk : k = l
  · subst hk
    exact Or.inr (Or.inr ⟨hF, h, c, entryAt_put_self d (ne_nil_of_entryAt_ne_directory h) _⟩)
  · exact Or.inl (entryAt_put_of_ne d hk _)

/-- A write changes the place of its path only. -/
lemma changes_write {c : Bytes} (h : d.write p c = .ok d') (hF : F (p.place d.workdir)) :
    Changes D F d d' := by
  obtain ⟨-, hdir, -, rfl⟩ := write_eq_ok h
  exact changes_put hF hdir

/-- What was written is found. -/
lemma lookUp_of_write {c : Bytes} (h : d.write p c = .ok d') : d'.lookUp p = .ok (.file c) := by
  have hgrows : Grows d d' := (changes_write (D := fun _ => False) (F := fun _ => True) h
    trivial).grows
  obtain ⟨hl, hdir, hslash, rfl⟩ := write_eq_ok h
  exact lookUp_eq_ok_iff.mpr ⟨_, hgrows.locate hl,
    entryAt_put_self d (ne_nil_of_entryAt_ne_directory hdir) _, Or.inr hslash⟩

/-- What was written can be read. -/
lemma read_of_write {c : Bytes} (h : d.write p c = .ok d') : d'.read p = .ok c :=
  read_eq_ok_iff.mpr (lookUp_of_write h)

/-- What could be read elsewhere still can. -/
lemma read_of_write_of_ne {q : Path} {c c' : Bytes} (h : d.write p c = .ok d')
    (hq : d.read q = .ok c') (hne : q.place d.workdir ≠ p.place d.workdir) :
    d'.read q = .ok c' := by
  have hchanges : Changes (fun _ => False) (· = p.place d.workdir) d d' := changes_write h rfl
  exact read_eq_ok_iff.mpr (hchanges.lookUp_eq (read_eq_ok_iff.mp hq) hne)

/-! ### Making directories -/

lemma makeDirectory_eq_ok (h : d.makeDirectory p = .ok d') :
    d.locate p = .ok (p.place d.workdir) ∧ d.entryAt (p.place d.workdir) = none ∧
      d' = d.put (p.place d.workdir) .directory := by
  rw [makeDirectory] at h
  cases hl : d.locate p with
  | error f => simp [hl, bind, Except.bind] at h
  | ok l =>
      obtain rfl := locate_eq_place hl
      simp only [hl, bind, Except.bind] at h
      split at h
      · simp at h
      · next hp =>
        simp only [Option.isSome_iff_ne_none, ne_eq, not_not] at hp
        exact ⟨rfl, hp, (Except.ok.inj h).symm⟩

lemma changes_makeDirectory (h : d.makeDirectory p = .ok d') (hD : D (p.place d.workdir)) :
    Changes D F d d' := by
  obtain ⟨-, hnone, rfl⟩ := makeDirectory_eq_ok h
  have hdir : d.entryAt (p.place d.workdir) ≠ some .directory := by simp [hnone]
  have hne : p.place d.workdir ≠ [] := ne_nil_of_entryAt_ne_directory hdir
  refine ⟨rfl, fun k => ?_⟩
  by_cases hk : k = p.place d.workdir
  · rw [hk]
    exact Or.inr (Or.inl ⟨hD, hnone, entryAt_put_self d hne _⟩)
  · exact Or.inl (entryAt_put_of_ne d hk _)

lemma changes_assureDirectory (hD : D (p.place d.workdir)) :
    Changes D F d (d.assureDirectory p).2 := by
  rw [assureDirectory]
  split
  · next h => exact changes_makeDirectory h hD
  · split <;> exact Changes.refl D F d

/-- A chain of directories changes the places of its paths only. -/
lemma changes_makeChain (ps : List Path) (hD : ∀ p ∈ ps, D (p.place d.workdir)) :
    Changes D F d (d.makeChain ps).2 := by
  induction ps generalizing d with
  | nil => exact Changes.refl D F d
  | cons p above ih =>
      have hrest := ih fun q hq => hD q (List.mem_cons_of_mem p hq)
      have hp := hD p List.mem_cons_self
      rw [makeChain]
      split
      · split
        · next d₁ h =>
          rw [h] at hrest
          rw [← hrest.workdir] at hp
          exact hrest.trans (changes_assureDirectory hp)
        · next f d₁ h =>
          rw [h] at hrest
          exact hrest
      · exact changes_assureDirectory hp

/-- Making directories makes some of those that the path passes, and nothing else. -/
lemma changes_makeDirectories (d : Disk) (p : Path) :
    Changes (p.Passes d.workdir) F d (d.makeDirectories p).2 :=
  changes_makeChain p.ladder fun _ hq => Path.passes_of_mem_ladder hq

end Disk

end LabTrust
