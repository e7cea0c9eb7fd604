/-
What a load answers.

A load looks at the directory of a node, reads the certificate and then the key, and goes on only as
long as the file system gives what it asks for. So its answer follows from three answers of the file
system, and the kind of a failure from what lies, or does not lie, at the three paths.
* `Disk.Stops`: what stops a path on its way. `Disk.follow_eq_error_iff`: apart from something
  missing, nothing else does.
* `Disk.Obstacle`, `Disk.Unreadable`: why a look at a path, and why reading it, is refused.
* `Store.run_load`: the answer of a load from the three answers of the file system; nothing changes.
* `Store.load_tells_misses_apart`: which kind each failure has, and that a load only looks.
-/
import LabTrust.Proofs.Disk.Trunk
import LabTrust.Proofs.Lab.Session
import Mathlib.Data.List.Infix

namespace LabTrust

variable {σ : Type} {d : Disk} {p directory : Path} {n : List Char} {name : String} {f : IoFailure}

namespace Disk

/-! ### What stops a path -/

/-- What stops a path on its way, with the words of the file system: a file from which it would have
to go on, or a name that is too long for an entry of the directory that it has come to. -/
inductive Stops (d : Disk) (here : Location) (parts : List (List Char)) : IoFailure → Prop where
  | file {xs rest : List (List Char)} {part : List Char} {l : Location} {c : Bytes}
      (hparts : parts = xs ++ part :: rest) (hfollow : d.follow here xs = .ok l)
      (hentry : d.entryAt l = some (.file c)) : Stops d here parts .notDirectory
  | name {xs rest : List (List Char)} {part : List Char} {l : Location}
      (hparts : parts = xs ++ part :: rest) (hfollow : d.follow here xs = .ok l)
      (hentry : d.entryAt l = some .directory) (hlong : nameLimit < (Bytes.ofChars part).length) :
      Stops d here parts .nameTooLong

lemma enter_eq_error_iff {here : Location} {part : List Char} :
    enter here part = .error f ↔
      nameLimit < (Bytes.ofChars part).length ∧ f = .nameTooLong := by
  rw [enter]
  split
  · next hhere =>
    rw [hhere]
    simp [show ¬ nameLimit < (Bytes.ofChars ['.']).length by decide]
  · split
    · next hup =>
      rw [hup]
      simp [show ¬ nameLimit < (Bytes.ofChars ['.', '.']).length by decide]
    · split
      · next hlong => simp [hlong, eq_comm]
      · next hshort => simp [hshort]

lemma Stops.cons {here next : Location} {part : List Char} {rest : List (List Char)}
    (hentry : d.entryAt here = some .directory) (henter : enter here part = .ok next)
    (h : d.Stops next rest f) : d.Stops here (part :: rest) f := by
  have hstep : ∀ xs, d.follow here (part :: xs) = d.follow next xs := by
    intro xs
    rw [follow, hentry]
    simp only [henter]
  cases h with
  | file hparts hfollow hfile =>
      exact .file (congrArg (part :: ·) hparts) ((hstep _).trans hfollow) hfile
  | name hparts hfollow hdirectory hlong =>
      exact .name (congrArg (part :: ·) hparts) ((hstep _).trans hfollow) hdirectory hlong

/-- A path that finds nothing missing is stopped by a file or by a name. -/
lemma follow_eq_error_iff {here : Location} {parts : List (List Char)} (hf : f ≠ .absent) :
    d.follow here parts = .error f ↔ d.Stops here parts f := by
  constructor
  · intro h
    induction parts generalizing here with
    | nil => simp [follow] at h
    | cons part rest ih =>
        have hparts : part :: rest = [] ++ part :: rest := rfl
        rw [follow] at h
        split at h
        · exact absurd (Except.error.inj h).symm hf
        · next hfile =>
          obtain rfl := Except.error.inj h
          exact .file hparts rfl hfile
        · next hdirectory =>
          split at h
          · next henter => exact (ih h).cons hdirectory henter
          · next henter =>
            obtain rfl := Except.error.inj h
            obtain ⟨hlong, rfl⟩ := enter_eq_error_iff.mp henter
            exact .name hparts rfl hdirectory hlong
  · rintro (⟨rfl, hfollow, hfile⟩ | ⟨rfl, hfollow, hdirectory, hlong⟩)
    · rw [follow_append_of_ok hfollow, follow, hfile]
    · rw [follow_append_of_ok hfollow, follow, hdirectory]
      simp only [enter_eq_error_iff.mpr ⟨hlong, rfl⟩]

/-- Why a look at a path is refused, other than that something is missing. -/
inductive Obstacle (d : Disk) (p : Path) : IoFailure → Prop where
  | nul (h : '\x00' ∈ p.chars) : Obstacle d p .nulInPath
  | long (hnul : '\x00' ∉ p.chars) (h : pathLimit ≤ (Bytes.ofChars p.chars).length) :
      Obstacle d p .nameTooLong
  | stop {f : IoFailure} (hspelled : p.IsSpelled) (h : d.Stops (p.start d.workdir) p.steps f) :
      Obstacle d p f
  | slash {l : Location} {c : Bytes} (hlocate : d.locate p = .ok l)
      (hentry : d.entryAt l = some (.file c)) (h : p.namesDirectory = true) :
      Obstacle d p .notDirectory

lemma locate_eq_error_iff (hf : f ≠ .absent) : d.locate p = .error f ↔
    ('\x00' ∈ p.chars ∧ f = .nulInPath) ∨
      ('\x00' ∉ p.chars ∧ pathLimit ≤ (Bytes.ofChars p.chars).length ∧ f = .nameTooLong) ∨
        (p.IsSpelled ∧ d.Stops (p.start d.workdir) p.steps f) := by
  rw [← follow_eq_error_iff hf, Path.IsSpelled, Path.start, locate]
  by_cases hnul : '\x00' ∈ p.chars
  · simp [hnul, @eq_comm _ f]
  · by_cases hnil : p.chars = []
    · simp [hnil, hf.symm, Bytes.ofChars, show ¬ pathLimit ≤ 0 by decide]
    · by_cases hlong : pathLimit ≤ (Bytes.ofChars p.chars).length
      · simp [hnul, hnil, hlong, Nat.not_lt.mpr hlong, @eq_comm _ f]
      · simp [hnul, hnil, hlong, Nat.lt_of_not_le hlong]

/-- A look at a path fails because something is missing, or because of an obstacle. -/
lemma lookUp_eq_error_iff (hf : f ≠ .absent) : d.lookUp p = .error f ↔ d.Obstacle p f := by
  have hlook : d.lookUp p = .error f ↔ d.locate p = .error f ∨ ∃ l c, d.locate p = .ok l ∧
      d.entryAt l = some (.file c) ∧ p.namesDirectory = true ∧ f = .notDirectory := by
    rw [lookUp]
    cases d.locate p with
    | error g => simp [bind, Except.bind]
    | ok l =>
        simp only [bind, Except.bind, reduceCtorEq, false_or, Except.ok.injEq, exists_and_left,
          exists_eq_left']
        split
        · next hnone => simp [hnone, hf.symm]
        · next c hfile =>
          cases p.namesDirectory with
          | false => simp [hfile]
          | true => simp [hfile, eq_comm]
        · next hdirectory => simp [hdirectory]
  rw [hlook, locate_eq_error_iff hf]
  constructor
  · rintro ((⟨h, rfl⟩ | ⟨hnul, h, rfl⟩ | ⟨hspelled, h⟩) | ⟨l, c, hlocate, hentry, h, rfl⟩)
    · exact .nul h
    · exact .long hnul h
    · exact .stop hspelled h
    · exact .slash hlocate hentry h
  · rintro (h | ⟨hnul, h⟩ | ⟨hspelled, h⟩ | ⟨hlocate, hentry, h⟩)
    · exact Or.inl (Or.inl ⟨h, rfl⟩)
    · exact Or.inl (Or.inr (Or.inl ⟨hnul, h, rfl⟩))
    · exact Or.inl (Or.inr (Or.inr ⟨hspelled, h⟩))
    · exact Or.inr ⟨_, _, hlocate, hentry, h, rfl⟩

/-- Why a path that nothing is missing on cannot be read. -/
inductive Unreadable (d : Disk) (p : Path) : IoFailure → Prop where
  | directory (h : d.lookUp p = .ok .directory) : Unreadable d p .isDirectory
  | obstacle {f : IoFailure} (h : d.Obstacle p f) : Unreadable d p f

lemma Obstacle.ne_absent (h : d.Obstacle p f) : f ≠ .absent := by
  cases h with
  | stop _ h => cases h <;> decide
  | _ => decide

lemma Unreadable.ne_absent (h : d.Unreadable p f) : f ≠ .absent := by
  cases h with
  | directory _ => decide
  | obstacle h => exact h.ne_absent

lemma read_eq_error_iff (hf : f ≠ .absent) : d.read p = .error f ↔ d.Unreadable p f := by
  have hread : d.read p = .error f ↔
      d.lookUp p = .error f ∨ d.lookUp p = .ok .directory ∧ f = .isDirectory := by
    rw [read]
    cases d.lookUp p with
    | error g => simp [bind, Except.bind]
    | ok e => cases e <;> simp [bind, Except.bind, @eq_comm _ f]
  rw [hread, lookUp_eq_error_iff hf]
  constructor
  · rintro (h | ⟨h, rfl⟩)
    · exact .obstacle h
    · exact .directory h
  · rintro (h | h)
    · exact Or.inr ⟨h, rfl⟩
    · exact Or.inl h

/-- What is missing is missing for a look as for a read. -/
lemma read_eq_absent_iff : d.read p = .error .absent ↔ d.lookUp p = .error .absent := by
  rw [read]
  cases d.lookUp p with
  | error g => simp [bind, Except.bind]
  | ok e => cases e <;> simp [bind, Except.bind]

/-- What holds a file beside a name is a directory. -/
lemma lookUp_of_read_withSuffix {s : String} {c : Bytes} (hn : Path.IsName n)
    (hs : s ∈ Triple.suffixes) (hp : p.chars ≠ [])
    (h : d.read ((p.join ⟨n⟩).withSuffix s) = .ok c) : d.lookUp p = .ok .directory := by
  obtain ⟨l, hlocate, -, -⟩ := lookUp_eq_ok_iff.mp (read_eq_ok_iff.mp h)
  obtain ⟨hnul, hnil, hlength, hfollow⟩ := locate_eq_ok_iff.mp hlocate
  have hslash := Triple.slash_notMem_of_mem_suffixes hs
  have hspelled : p.IsSpelled := by
    refine Path.IsSpelled.of_prefix ⟨hnul, hnil, hlength⟩ ?_ hp
    exact (p.prefix_join hn).trans (List.prefix_append _ _)
  rw [Path.steps_withSuffix _ hslash (Triple.dot_ne_of_mem_suffixes hs).1, Path.upper_join p hn,
    Path.start, Path.isAbsolute_withSuffix _ hslash, Path.isAbsolute_join p hn] at hfollow
  obtain ⟨m, hm, hdirectory, -⟩ := follow_concat.mp hfollow
  exact lookUp_eq_ok_iff.mpr ⟨m, (locate_of_isSpelled hspelled).trans hm, hdirectory, Or.inl rfl⟩

end Disk

/-! ### The answer of a load -/

/-- A call on a disk fails with an error of a kind. -/
def Visit.Fails {α : Type} (v : Visit σ) (a : Action α) (d : Disk) (kind : ErrorKind) : Prop :=
  ∃ e, v.result a d = .error e ∧ e.kind = kind

namespace Store

variable {v : Visit σ} {authority : Authority σ} {w : World σ}

/-- What a read of a stored file answers, from what the file system says. -/
def fileAnswer (p : Path) : Except IoFailure Bytes → Except Error Bytes
  | .ok c => .ok c
  | .error .absent => .error (.noFile p)
  | .error f => .error (.io p f)

/-- What the check of a node's directory answers, from what the file system says. -/
def directoryAnswer (p : Path) : Except IoFailure Entry → Except Error Unit
  | .ok .directory => .ok ()
  | .ok (.file _) => .error (.nodeDirectoryIsFile p)
  | .error .absent => .error (.noNodeDirectory p)
  | .error f => .error (.io p f)

lemma fileAnswer_eq_ok_iff {r : Except IoFailure Bytes} {c : Bytes} :
    fileAnswer p r = .ok c ↔ r = .ok c := by
  cases r with
  | ok c' => simp [fileAnswer]
  | error f => cases f <;> simp [fileAnswer]

lemma directoryAnswer_eq_ok_iff {r : Except IoFailure Entry} :
    directoryAnswer p r = .ok () ↔ r = .ok .directory := by
  cases r with
  | ok e => cases e <;> simp [directoryAnswer]
  | error f => cases f <;> simp [directoryAnswer]

/-- A stored file that is missing and one that cannot be read are told apart. -/
lemma fileAnswer_eq_error_iff {e : Error} : fileAnswer p (d.read p) = .error e ↔
    d.lookUp p = .error .absent ∧ e = .noFile p ∨ ∃ f, d.Unreadable p f ∧ e = .io p f := by
  rw [← Disk.read_eq_absent_iff]
  have hanswer : fileAnswer p (d.read p) = .error e ↔ d.read p = .error .absent ∧ e = .noFile p ∨
      ∃ f, f ≠ .absent ∧ d.read p = .error f ∧ e = .io p f := by
    cases d.read p with
    | ok c => simp [fileAnswer]
    | error f => cases f <;> simp [fileAnswer, @eq_comm _ e]
  rw [hanswer]
  refine or_congr_right (exists_congr fun f => ⟨fun ⟨hf, h, he⟩ => ?_, fun ⟨h, he⟩ => ?_⟩)
  · exact ⟨(Disk.read_eq_error_iff hf).mp h, he⟩
  · exact ⟨h.ne_absent, (Disk.read_eq_error_iff h.ne_absent).mpr h, he⟩

/-- So are a directory that is missing, one that is a file, and one that cannot be looked at. -/
lemma directoryAnswer_eq_error_iff {e : Error} : directoryAnswer p (d.lookUp p) = .error e ↔
    d.lookUp p = .error .absent ∧ e = .noNodeDirectory p ∨
      (∃ c, d.lookUp p = .ok (.file c)) ∧ e = .nodeDirectoryIsFile p ∨
        ∃ f, d.Obstacle p f ∧ e = .io p f := by
  have hanswer : directoryAnswer p (d.lookUp p) = .error e ↔
      d.lookUp p = .error .absent ∧ e = .noNodeDirectory p ∨
        (∃ c, d.lookUp p = .ok (.file c)) ∧ e = .nodeDirectoryIsFile p ∨
          ∃ f, f ≠ .absent ∧ d.lookUp p = .error f ∧ e = .io p f := by
    cases d.lookUp p with
    | ok entry => cases entry <;> simp [directoryAnswer, @eq_comm _ e]
    | error f => cases f <;> simp [directoryAnswer, @eq_comm _ e]
  rw [hanswer]
  refine or_congr_right (or_congr_right (exists_congr fun f =>
    ⟨fun ⟨hf, h, he⟩ => ?_, fun ⟨h, he⟩ => ?_⟩))
  · exact ⟨(Disk.lookUp_eq_error_iff hf).mp h, he⟩
  · exact ⟨h.ne_absent, (Disk.lookUp_eq_error_iff h.ne_absent).mpr h, he⟩

lemma run_readFile :
    World.run authority (readFile p).run w = (fileAnswer p (w.disk.read p), w) := by
  refine (World.run_bind_of_ok (World.run_perform (.read p) rfl)).trans ?_
  cases w.disk.read p with
  | ok c => rfl
  | error f => cases f <;> rfl

lemma run_checkDirectory :
    World.run authority (checkDirectory p).run w = (directoryAnswer p (w.disk.lookUp p), w) := by
  refine (World.run_bind_of_ok (World.run_lookUp p)).trans ?_
  cases w.disk.lookUp p with
  | ok e => cases e <;> rfl
  | error f => cases f <;> rfl

/-- What a load answers, from what the file system says. -/
def loadAnswer (d : Disk) (directory : Path) (name : String) : Except Error Bundle := do
  checkName name
  directoryAnswer (Triple.nodeDirectory directory name)
    (d.lookUp (Triple.nodeDirectory directory name))
  let files := Triple.ofNode directory name
  let certificate ← fileAnswer files.certificate (d.read files.certificate)
  let key ← fileAnswer files.key (d.read files.key)
  return { key, request := [], certificate }

/-- A load answers so, and changes nothing. -/
lemma run_load : World.run authority (load directory name).run w =
    (loadAnswer w.disk directory name, w) :=
  World.run_bind_of_answers rfl fun _ =>
    World.run_bind_of_answers run_checkDirectory fun _ =>
      World.run_bind_of_answers run_readFile fun _ =>
        World.run_bind_of_answers run_readFile fun _ => rfl

/-- Under an accepted name, three answers of the file system make the answer of a load. -/
lemma result_load (hname : checkName name = .ok ()) : v.result (load directory name) d = (do
    directoryAnswer (Triple.nodeDirectory directory name)
      (d.lookUp (Triple.nodeDirectory directory name))
    let certificate ← fileAnswer (Triple.ofNode directory name).certificate
      (d.read (Triple.ofNode directory name).certificate)
    let key ← fileAnswer (Triple.ofNode directory name).key
      (d.read (Triple.ofNode directory name).key)
    return { key, request := [], certificate }) := by
  rw [Visit.result, run_load, loadAnswer, hname]
  rfl

lemma checkName_eq_error (h : checkName name ≠ .ok ()) :
    checkName name = .error (.badNodeName name) := by
  rw [checkName] at h ⊢
  split at h
  · exact absurd rfl h
  · next hc => rw [if_neg hc]

/-- A name that is refused is refused before anything is looked at. -/
lemma load_of_refused {e : Error} (hname : checkName name = .error e) :
    v.result (load directory name) d = .error e ∧ v.effects (load directory name) d = [] := by
  have hload : (load directory name).run = .done (.error e) := by
    rw [load, hname]
    rfl
  rw [Visit.result, Visit.effects, hload]
  exact ⟨rfl, rfl⟩

/-- A certificate that can be read lies in a directory. -/
lemma lookUp_of_read_certificate (hname : checkName name = .ok ()) {c : Bytes}
    (h : d.read (Triple.ofNode directory name).certificate = .ok c) :
    d.lookUp (Triple.nodeDirectory directory name) = .ok .directory :=
  Disk.lookUp_of_read_withSuffix (checkName_eq_ok_iff.mp hname) (by decide)
    (Path.join_ne_nil _ (checkName_eq_ok_iff.mp hname)) h

lemma result_load_eq_ok_iff (hname : checkName name = .ok ()) {b : Bundle} :
    v.result (load directory name) d = .ok b ↔
      d.lookUp (Triple.nodeDirectory directory name) = .ok .directory ∧
        d.read (Triple.ofNode directory name).certificate = .ok b.certificate ∧
        d.read (Triple.ofNode directory name).key = .ok b.key ∧ b.request = [] := by
  rw [result_load hname]
  simp only [Except.bind_eq_ok_iff, fileAnswer_eq_ok_iff]
  constructor
  · rintro ⟨_, hdirectory, certificate, hcertificate, key, hkey, hb⟩
    obtain rfl := Except.ok.inj hb
    exact ⟨directoryAnswer_eq_ok_iff.mp hdirectory, hcertificate, hkey, rfl⟩
  · rintro ⟨hdirectory, hcertificate, hkey, hrequest⟩
    refine ⟨(), directoryAnswer_eq_ok_iff.mpr hdirectory, _, hcertificate, _, hkey, ?_⟩
    rw [← hrequest]
    rfl

/-- Why a load under an accepted name fails: what lies at one of the three paths, or does not. -/
inductive LoadFailure (d : Disk) (directory : Path) (name : String) : Error → Prop where
  | directoryAbsent (h : d.lookUp (Triple.nodeDirectory directory name) = .error .absent) :
      LoadFailure d directory name (.noNodeDirectory (Triple.nodeDirectory directory name))
  | directoryIsFile (h : ∃ c, d.lookUp (Triple.nodeDirectory directory name) = .ok (.file c)) :
      LoadFailure d directory name (.nodeDirectoryIsFile (Triple.nodeDirectory directory name))
  | directoryRefused {f : IoFailure} (h : d.Obstacle (Triple.nodeDirectory directory name) f) :
      LoadFailure d directory name (.io (Triple.nodeDirectory directory name) f)
  | certificateAbsent (hdirectory : d.lookUp (Triple.nodeDirectory directory name) = .ok .directory)
      (h : d.lookUp (Triple.ofNode directory name).certificate = .error .absent) :
      LoadFailure d directory name (.noFile (Triple.ofNode directory name).certificate)
  | certificateRefused {f : IoFailure}
      (hdirectory : d.lookUp (Triple.nodeDirectory directory name) = .ok .directory)
      (h : d.Unreadable (Triple.ofNode directory name).certificate f) :
      LoadFailure d directory name (.io (Triple.ofNode directory name).certificate f)
  | keyAbsent (hcertificate : ∃ c, d.read (Triple.ofNode directory name).certificate = .ok c)
      (h : d.lookUp (Triple.ofNode directory name).key = .error .absent) :
      LoadFailure d directory name (.noFile (Triple.ofNode directory name).key)
  | keyRefused {f : IoFailure}
      (hcertificate : ∃ c, d.read (Triple.ofNode directory name).certificate = .ok c)
      (h : d.Unreadable (Triple.ofNode directory name).key f) :
      LoadFailure d directory name (.io (Triple.ofNode directory name).key f)

/-- A load under an accepted name fails for one of these reasons, and for each of them it does. -/
lemma result_load_eq_error_iff (hname : checkName name = .ok ()) {e : Error} :
    v.result (load directory name) d = .error e ↔ LoadFailure d directory name e := by
  rw [result_load hname, Except.bind_eq_error_iff, directoryAnswer_eq_error_iff]
  simp only [Except.bind_eq_error_iff, fileAnswer_eq_error_iff, fileAnswer_eq_ok_iff]
  constructor
  · rintro ((⟨h, rfl⟩ | ⟨h, rfl⟩ | ⟨f, h, rfl⟩) | ⟨_, hdirectory, hfiles⟩)
    · exact .directoryAbsent h
    · exact .directoryIsFile h
    · exact .directoryRefused h
    · have hdirectory := directoryAnswer_eq_ok_iff.mp hdirectory
      rcases hfiles with (⟨h, rfl⟩ | ⟨f, h, rfl⟩) | ⟨c, hc, (⟨h, rfl⟩ | ⟨f, h, rfl⟩) | ⟨k, -, hend⟩⟩
      · exact .certificateAbsent hdirectory h
      · exact .certificateRefused hdirectory h
      · exact .keyAbsent ⟨c, hc⟩ h
      · exact .keyRefused ⟨c, hc⟩ h
      · cases hend
  · intro h
    cases h with
    | directoryAbsent h => exact Or.inl (Or.inl ⟨h, rfl⟩)
    | directoryIsFile h => exact Or.inl (Or.inr (Or.inl ⟨h, rfl⟩))
    | directoryRefused h => exact Or.inl (Or.inr (Or.inr ⟨_, h, rfl⟩))
    | certificateAbsent hdirectory h =>
        exact Or.inr ⟨(), directoryAnswer_eq_ok_iff.mpr hdirectory, Or.inl (Or.inl ⟨h, rfl⟩)⟩
    | certificateRefused hdirectory h =>
        exact Or.inr ⟨(), directoryAnswer_eq_ok_iff.mpr hdirectory, Or.inl (Or.inr ⟨_, h, rfl⟩)⟩
    | keyAbsent hcertificate h =>
        obtain ⟨c, hc⟩ := hcertificate
        have hdirectory := lookUp_of_read_certificate hname hc
        exact Or.inr ⟨(), directoryAnswer_eq_ok_iff.mpr hdirectory, Or.inr ⟨c, hc,
          Or.inl (Or.inl ⟨h, rfl⟩)⟩⟩
    | keyRefused hcertificate h =>
        obtain ⟨c, hc⟩ := hcertificate
        have hdirectory := lookUp_of_read_certificate hname hc
        exact Or.inr ⟨(), directoryAnswer_eq_ok_iff.mpr hdirectory, Or.inr ⟨c, hc,
          Or.inl (Or.inr ⟨_, h, rfl⟩)⟩⟩

/-! ### Only looking -/

/-- An effect that looks at an entry or reads a file, and leaves the disk as it was. -/
def Looks (d : Disk) (e : Effect) (w : World σ) : Prop :=
  w.disk = d ∧ ∃ p, e = .lookUp p ∨ e = .read p

lemma along_readFile (v : Visit σ) (d : Disk) (p : Path) :
    Action.Always (World.handle v.authority) (Looks d) (fun _ w => w = v.world d)
      (fun _ _ => True) (readFile p) (v.world d) := by
  refine .bind (.perform rfl ⟨rfl, p, Or.inr rfl⟩ ?_)
  split
  · exact .pure rfl
  · exact .throw trivial
  · exact .throw trivial

lemma along_checkDirectory (v : Visit σ) (d : Disk) (p : Path) :
    Action.Always (World.handle v.authority) (Looks d) (fun _ w => w = v.world d)
      (fun _ _ => True) (checkDirectory p) (v.world d) := by
  refine .bind (.perform rfl ⟨rfl, p, Or.inl rfl⟩ ?_)
  split
  · exact .pure rfl
  · exact .throw trivial
  · exact .throw trivial
  · exact .throw trivial

lemma along_load (v : Visit σ) (d : Disk) (directory : Path) (name : String) :
    Action.Always (World.handle v.authority) (Looks d) (fun _ _ => True) (fun _ _ => True)
      (load directory name) (v.world d) := by
  refine .bind (.orFail (fun _ _ => .bind ?_) fun _ _ => trivial)
  refine (along_checkDirectory v d _).mono (fun _ _ h => h) ?_ fun _ _ h => h
  rintro _ _ rfl
  refine .bind ((along_readFile v d _).mono (fun _ _ h => h) ?_ fun _ _ h => h)
  rintro c _ rfl
  refine .bind ((along_readFile v d _).mono (fun _ _ h => h) ?_ fun _ _ h => h)
  exact fun _ _ _ => .pure trivial

/-- A load only looks: whatever the disk, it leaves the disk as it was. It fails as an invalid
request exactly for names that are not accepted, and then before it looks at anything. Under an
accepted name it fails as not found exactly if the directory of the node is missing or a file, or is
a directory without the certificate, or if the certificate can be read but there is no key; it
succeeds exactly if the directory is there and both files can be read, with their content and
without a request. All other failures are refusals of the file system, and each of these has an
obstacle on the way to the path that was asked for, or a directory in place of a file. -/
theorem load_tells_misses_apart (v : Visit σ) (d : Disk) (directory : Path) (name : String) :
    (v.after (load directory name) d = d ∧ (∀ d' ∈ v.disks (load directory name) d, d' = d) ∧
      ∀ e ∈ v.effects (load directory name) d, ∃ p, e = .lookUp p ∨ e = .read p) ∧
    (v.Fails (load directory name) d .invalidRequest ↔ checkName name ≠ .ok ()) ∧
    (checkName name ≠ .ok () → v.effects (load directory name) d = []) ∧
    (checkName name = .ok () →
      (v.Fails (load directory name) d .notFound ↔
        d.lookUp (Triple.nodeDirectory directory name) = .error .absent ∨
        (∃ c, d.lookUp (Triple.nodeDirectory directory name) = .ok (.file c)) ∨
        (d.lookUp (Triple.nodeDirectory directory name) = .ok .directory ∧
          d.lookUp (Triple.ofNode directory name).certificate = .error .absent) ∨
        (∃ c, d.read (Triple.ofNode directory name).certificate = .ok c) ∧
          d.lookUp (Triple.ofNode directory name).key = .error .absent) ∧
      (∀ b, v.result (load directory name) d = .ok b ↔
        d.lookUp (Triple.nodeDirectory directory name) = .ok .directory ∧
          d.read (Triple.ofNode directory name).certificate = .ok b.certificate ∧
          d.read (Triple.ofNode directory name).key = .ok b.key ∧ b.request = []) ∧
      (∀ e, v.result (load directory name) d = .error e → e.kind ≠ .notFound → e.kind = .io) ∧
      ∀ p f, v.result (load directory name) d = .error (.io p f) ↔
        p = Triple.nodeDirectory directory name ∧ d.Obstacle p f ∨
        (p = (Triple.ofNode directory name).certificate ∧
          d.lookUp (Triple.nodeDirectory directory name) = .ok .directory ∧ d.Unreadable p f) ∨
        p = (Triple.ofNode directory name).key ∧
          (∃ c, d.read (Triple.ofNode directory name).certificate = .ok c) ∧
            d.Unreadable p f) := by
  have hlong := along_load v d directory name
  have hdisks := Visit.forall_disks (P := (· = d)) rfl hlong fun _ _ h => h.1
  refine ⟨⟨hdisks _ Visit.after_mem_disks, hdisks, Visit.forall_effects hlong fun _ _ h => h.2⟩,
    ?_, ?_, fun hname => ⟨?_, fun b => result_load_eq_ok_iff hname, fun e he hkind => ?_,
      fun p f => ?_⟩⟩
  · constructor
    · rintro ⟨e, he, hkind⟩ hname
      cases (result_load_eq_error_iff hname).mp he <;> simp [Error.kind] at hkind
    · intro hname
      exact ⟨_, (load_of_refused (checkName_eq_error hname)).1, rfl⟩
  · exact fun hname => (load_of_refused (checkName_eq_error hname)).2
  · constructor
    · rintro ⟨e, he, hkind⟩
      cases (result_load_eq_error_iff hname).mp he with
      | directoryAbsent h => exact Or.inl h
      | directoryIsFile h => exact Or.inr (Or.inl h)
      | certificateAbsent hdirectory h => exact Or.inr (Or.inr (Or.inl ⟨hdirectory, h⟩))
      | keyAbsent hcertificate h => exact Or.inr (Or.inr (Or.inr ⟨hcertificate, h⟩))
      | directoryRefused | certificateRefused | keyRefused => simp [Error.kind] at hkind
    · have hfails : ∀ e, LoadFailure d directory name e → e.kind = .notFound →
          v.Fails (load directory name) d .notFound := fun e he hkind =>
        ⟨e, (result_load_eq_error_iff hname).mpr he, hkind⟩
      rintro (h | h | ⟨hdirectory, h⟩ | ⟨hcertificate, h⟩)
      · exact hfails _ (.directoryAbsent h) rfl
      · exact hfails _ (.directoryIsFile h) rfl
      · exact hfails _ (.certificateAbsent hdirectory h) rfl
      · exact hfails _ (.keyAbsent hcertificate h) rfl
  · cases (result_load_eq_error_iff hname).mp he <;> first | rfl | exact absurd rfl hkind
  · rw [result_load_eq_error_iff hname]
    constructor
    · intro h
      cases h with
      | directoryRefused h => exact Or.inl ⟨rfl, h⟩
      | certificateRefused hdirectory h => exact Or.inr (Or.inl ⟨rfl, hdirectory, h⟩)
      | keyRefused hcertificate h => exact Or.inr (Or.inr ⟨rfl, hcertificate, h⟩)
    · rintro (⟨rfl, h⟩ | ⟨rfl, hdirectory, h⟩ | ⟨rfl, hcertificate, h⟩)
      · exact .directoryRefused h
      · exact .certificateRefused hdirectory h
      · exact .keyRefused hcertificate h

/-- A disk with a node whose directory is a file, and one whose certificate is a directory. -/
def muddled : Disk :=
  ⟨[], [(["ca".toList], .directory), (["ca".toList, "r1".toList], .file []),
    (["ca".toList, "r2".toList], .directory),
    (["ca".toList, "r2".toList, "r2.pem".toList], .directory)]⟩

/-- There the first node is not found. The file system refuses to read the certificate of the second
one, and to look for a node below the first. -/
theorem muddled_nodes_are_told_apart :
    Visit.plain.Fails (load (.ofText "ca") "r1") muddled .notFound ∧
      Visit.plain.result (load (.ofText "ca") "r2") muddled =
        .error (.io (.ofText "ca/r2/r2.pem") .isDirectory) ∧
      Visit.plain.result (load (.ofText "ca/r1") "r3") muddled =
        .error (.io (.ofText "ca/r1/r3") .notDirectory) := by
  have htold := load_tells_misses_apart Visit.plain muddled
  obtain ⟨hfirst, -⟩ := (htold (.ofText "ca") "r1").2.2.2 (by decide)
  obtain ⟨-, -, -, hsecond⟩ := (htold (.ofText "ca") "r2").2.2.2 (by decide)
  obtain ⟨-, -, -, hthird⟩ := (htold (.ofText "ca/r1") "r3").2.2.2 (by decide)
  have hspelled : (Path.ofText "ca/r1/r3").IsSpelled := ⟨by decide, by decide, by decide⟩
  have hparts : (Path.ofText "ca/r1/r3").steps =
      ["ca".toList, "r1".toList] ++ "r3".toList :: [] := by decide
  have hstops : muddled.Stops [] (Path.ofText "ca/r1/r3").steps .notDirectory :=
    .file hparts (l := ["ca".toList, "r1".toList]) (c := []) (by decide) (by decide)
  exact ⟨hfirst.mpr (Or.inr (Or.inl ⟨[], by decide⟩)),
    (hsecond _ _).mpr (Or.inr (Or.inl ⟨by decide, by decide, .directory (by decide)⟩)),
    (hthird _ _).mpr (Or.inl ⟨by decide, .stop hspelled hstops⟩)⟩

end Store

end LabTrust
