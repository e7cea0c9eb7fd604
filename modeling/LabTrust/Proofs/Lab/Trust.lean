/-
Every certificate of a node on disk was issued by the root on disk.

A root is written with its certificate first and its key second, so a key that lies on disk belongs
to the certificate beside it, and from then on no call writes over the two. Leaves are signed with
what is read from these two files, so there are none before.
* `Disk.Leaves`: what is said of the certificates of nodes, as far as files lie there.
* `Disk.Bare`, `Disk.Rooted`: the two states of a lab, without the root's key and with it.
* `Stages.rooting`, `Stages.leafing`: calls for roots and for leaves in these states.
* `Session.leaves_issued_by_root`: all certificates of nodes at every moment of a session.
-/
import LabTrust.Proofs.Certificate.Chain
import LabTrust.Proofs.Lab.Apart
import LabTrust.Proofs.Lab.Calls
import LabTrust.Proofs.Lab.Stability

namespace LabTrust

open Disk (Changes)

variable {suite : Suite} {lab : Lab} {d d' : Disk} {workdir : Location} {P : Bytes → Prop}
  {b : Bundle} {root key : String}

/-! ### Certificates of nodes -/

/-- Each file at the place of a node's certificate holds bytes like these. -/
def Disk.Leaves (lab : Lab) (P : Bytes → Prop) (d : Disk) : Prop :=
  ∀ name c, checkName name = .ok () →
    d.entryAt ((lab.nodeFiles name).certificate.place d.workdir) = some (.file c) → P c

namespace Disk

lemma Leaves.of_changes {D : Location → Prop} (h : d.Leaves lab P)
    (hd : Changes D (fun _ => False) d d') : d'.Leaves lab P := by
  intro name c hname hc
  rw [hd.workdir] at hc
  exact h name c hname (hd.entryAt_file hc id)

/-- A write puts a certificate of a node on disk only at its place. -/
lemma Leaves.of_write {p : Path} {content : Bytes} (h : d.Leaves lab P)
    (hw : d.write p content = .ok d')
    (hP : ∀ name, checkName name = .ok () →
      (lab.nodeFiles name).certificate.place d.workdir = p.place d.workdir → P content) :
    d'.Leaves lab P := by
  obtain ⟨-, hdir, -, rfl⟩ := write_eq_ok hw
  intro name c hname hc
  by_cases hplace : (lab.nodeFiles name).certificate.place d.workdir = p.place d.workdir
  · have hput : (d.put (p.place d.workdir) (.file content)).entryAt (p.place d.workdir) =
        some (.file c) := hplace ▸ hc
    rw [entryAt_put_self d (ne_nil_of_entryAt_ne_directory hdir)] at hput
    obtain rfl := Entry.file.inj (Option.some.inj hput)
    exact hP name hname hplace
  · exact h name c hname ((entryAt_put_of_ne d hplace _).symm.trans hc)

end Disk

/-- The certificates of nodes lie at other places than the files of the root. -/
lemma Lab.Apart.place_ne (h : lab.Apart workdir) {name : String} (hname : checkName name = .ok ())
    {p q : Path} (hp : p ∈ (lab.nodeFiles name).paths) (hq : q ∈ lab.rootFiles.paths) :
    p.place workdir ≠ q.place workdir :=
  fun heq => h name hname _ ⟨p, hp, rfl⟩ ⟨q, hq, heq⟩

/-- Keys and requests of nodes lie at other places than certificates of nodes. -/
lemma Lab.certificate_place_ne {name name' s : String} (h : checkName name = .ok ())
    (h' : checkName name' = .ok ()) (hs : s ∈ Triple.suffixes) (hne : s ≠ ".pem") :
    (lab.nodeFiles name').certificate.place workdir ≠
      (((Triple.nodeDirectory lab.layout.nodesDirectory name).join
        (.ofText name)).withSuffix s).place workdir := by
  intro heq
  have hlies :
      (lab.nodeFiles name).Lies workdir ((lab.nodeFiles name').certificate.place workdir) :=
    ⟨_, Triple.paths_ofPath _ ▸ List.mem_map_of_mem hs, heq⟩
  obtain rfl : name' = name :=
    Triple.name_eq_of_lies h' h ⟨_, List.mem_cons_self, rfl⟩ hlies
  exact Path.place_withSuffix_ne workdir _ (by decide) hs (Ne.symm hne) heq

/-! ### The two states of a lab -/

/-- No key of the root lies on disk, and no certificate of a node. -/
structure Disk.Bare (lab : Lab) (workdir : Location) (d : Disk) : Prop where
  workdir_eq : d.workdir = workdir
  key : ∀ c, d.entryAt (lab.rootFiles.key.place workdir) ≠ some (.file c)
  leaves : d.Leaves lab fun _ => False

/-- A disk without the two directories of a lab is bare. -/
lemma Disk.bare_of_missing
    (hroot : ∀ l, lab.layout.rootDirectory.place d.workdir <+: l → d.entryAt l = none)
    (hnodes : ∀ l, lab.layout.nodesDirectory.place d.workdir <+: l → d.entryAt l = none) :
    d.Bare lab d.workdir := by
  refine ⟨rfl, fun c hc => ?_, fun name c hname hc => ?_⟩
  · have hlies : lab.rootFiles.Lies d.workdir (lab.rootFiles.key.place d.workdir) :=
      ⟨_, List.mem_cons_of_mem _ List.mem_cons_self, rfl⟩
    obtain ⟨s, -, hplace⟩ := Lab.lies_rootFiles_iff.mp hlies
    rw [hplace, hroot _ (List.prefix_append _ _)] at hc
    exact absurd hc (by simp)
  · have hlies : (lab.nodeFiles name).Lies d.workdir
        ((lab.nodeFiles name).certificate.place d.workdir) := ⟨_, List.mem_cons_self, rfl⟩
    obtain ⟨s, -, hplace⟩ := (Lab.lies_nodeFiles_iff hname).mp hlies
    rw [hplace, hnodes _ (List.prefix_append _ _)] at hc
    exact absurd hc (by simp)

/-- Bytes that are a certificate which was issued by a root. -/
def Issuance.IsLeafOf (suite : Suite) (root : String) (c : Bytes) : Prop :=
  ∃ leaf, c.text? = some leaf ∧ Certificate.checkIssuedBy suite leaf root = .ok ()

/-- A root that was made lies on disk with its key, and it issued all certificates of nodes. -/
structure Disk.Rooted (suite : Suite) (lab : Lab) (workdir : Location) (root key : String)
    (d : Disk) : Prop where
  workdir_eq : d.workdir = workdir
  made : ∃ now request e e', Issuance.selfSign suite now request key e = .ok (root, e')
  certificate : d.read lab.rootFiles.certificate = .ok (.ofText root)
  key : d.read lab.rootFiles.key = .ok (.ofText key)
  leaves : d.Leaves lab (Issuance.IsLeafOf suite root)

/-- The lab is in one of the two states. -/
def Disk.Trusted (suite : Suite) (lab : Lab) (workdir : Location) (d : Disk) : Prop :=
  d.Bare lab workdir ∨ ∃ root key, d.Rooted suite lab workdir root key

namespace Disk

variable {D : Location → Prop}

/-- New directories leave a lab bare. -/
lemma Bare.of_changes (h : d.Bare lab workdir) (hd : Changes D (fun _ => False) d d') :
    d'.Bare lab workdir :=
  ⟨hd.workdir.trans h.workdir_eq, fun c hc => h.key c (hd.entryAt_file hc id),
    h.leaves.of_changes hd⟩

/-- So does a write, unless it gives a lab a key or a certificate of a node. -/
lemma Bare.of_write {p : Path} {content : Bytes} (h : d.Bare lab workdir)
    (hw : d.write p content = .ok d') (hkey : lab.rootFiles.key.place workdir ≠ p.place workdir)
    (hleaf : ∀ name, checkName name = .ok () →
      (lab.nodeFiles name).certificate.place workdir ≠ p.place workdir) : d'.Bare lab workdir := by
  obtain rfl := h.workdir_eq
  refine ⟨(changes_write (D := fun _ => False) (F := fun _ => True) hw trivial).workdir, ?_,
    h.leaves.of_write hw hleaf⟩
  obtain ⟨-, -, -, rfl⟩ := write_eq_ok hw
  intro c hc
  rw [entryAt_put_of_ne d hkey] at hc
  exact h.key c hc

/-- New directories leave a lab rooted. -/
lemma Rooted.of_changes (h : d.Rooted suite lab workdir root key)
    (hd : Changes D (fun _ => False) d d') : d'.Rooted suite lab workdir root key where
  workdir_eq := hd.workdir.trans h.workdir_eq
  made := h.made
  certificate := read_eq_ok_iff.mpr (hd.lookUp_eq (read_eq_ok_iff.mp h.certificate) id)
  key := read_eq_ok_iff.mpr (hd.lookUp_eq (read_eq_ok_iff.mp h.key) id)
  leaves := h.leaves.of_changes hd

/-- So does a write, unless it writes over the certificate or the key, or a certificate of a node
that the root did not issue. -/
lemma Rooted.of_write {p : Path} {content : Bytes} (h : d.Rooted suite lab workdir root key)
    (hw : d.write p content = .ok d')
    (hcertificate : lab.rootFiles.certificate.place workdir ≠ p.place workdir)
    (hkey : lab.rootFiles.key.place workdir ≠ p.place workdir)
    (hleaf : ∀ name, checkName name = .ok () →
      (lab.nodeFiles name).certificate.place workdir = p.place workdir →
        Issuance.IsLeafOf suite root content) :
    d'.Rooted suite lab workdir root key := by
  obtain rfl := h.workdir_eq
  have hchanges : Changes (fun _ => False) (fun _ => True) d d' := changes_write hw trivial
  exact ⟨hchanges.workdir, h.made, read_of_write_of_ne hw h.certificate hcertificate,
    read_of_write_of_ne hw h.key hkey, h.leaves.of_write hw hleaf⟩

/-- The key of a bare lab cannot be read. -/
lemma Bare.not_readsSigner (h : d.Bare lab workdir) (certificate : Path) (signer : Signer) :
    ¬ d.ReadsSigner certificate lab.rootFiles.key signer := by
  rintro ⟨-, bs, hbs, -⟩
  obtain ⟨l, hl, hentry, -⟩ := lookUp_eq_ok_iff.mp (read_eq_ok_iff.mp hbs)
  rw [locate_eq_place hl, h.workdir_eq] at hentry
  exact h.key bs hentry

lemma Rooted.complete (h : d.Rooted suite lab workdir root key) : d.Complete lab.rootFiles :=
  ⟨⟨_, read_eq_ok_iff.mp h.certificate⟩, _, read_eq_ok_iff.mp h.key⟩

/-- The texts of a signer are those of the root. -/
lemma Rooted.signer_eq (h : d.Rooted suite lab workdir root key) {signer : Signer}
    (hsigner : d.ReadsSigner lab.rootFiles.certificate lab.rootFiles.key signer) :
    signer = ⟨root, key⟩ := by
  obtain ⟨⟨bs, hbs, hcertificate⟩, bs', hbs', hkey⟩ := hsigner
  rw [h.certificate, Except.ok.injEq] at hbs
  rw [h.key, Except.ok.injEq] at hbs'
  rw [← hbs, Bytes.text?_ofText, Option.some.injEq] at hcertificate
  rw [← hbs', Bytes.text?_ofText, Option.some.injEq] at hkey
  rw [hcertificate, hkey]

end Disk

/-! ### Calls -/

/-- What is signed with a root and its key is a leaf of this root. -/
lemma Disk.Rooted.isLeafOf (h : d.Rooted suite lab workdir root key) (hsuite : suite.Sound)
    {template : Template} {input : LeafInput} {options : LeafOptions}
    (hmade : MadeLeaf (Issuance.authority suite) lab.rootFiles.certificate lab.rootFiles.key
      template input options d b) : Issuance.IsLeafOf suite root b.certificate := by
  obtain ⟨request, lifetime, signer, _, csr, leaf, -, hsigner, -, -, hsign, rfl⟩ := hmade
  obtain rfl := h.signer_eq hsigner
  obtain ⟨_, _, _, _, hroot⟩ := h.made
  obtain ⟨_, _, _, hleaf⟩ := Issuance.of_answers hsign
  exact ⟨leaf, Bytes.text?_ofText leaf, Issuance.checkIssuedBy_sign hsuite hroot hleaf⟩

namespace Stages

/-- A lab becomes rooted when the key of its root is written. -/
def rooting (hlab : lab.Apart workdir) {template : Template} {input : RootInput} {files : Triple}
    (hfiles : files = lab.rootFiles)
    (hmade : MadeRoot (Issuance.authority suite) template input b) : Stages b files :=
  have hapart : ∀ {q}, q ∈ lab.rootFiles.paths → ∀ name, checkName name = .ok () →
      (lab.nodeFiles name).certificate.place workdir ≠ q.place workdir :=
    fun hq _ hname => hlab.place_ne hname List.mem_cons_self hq
  have hne : ∀ {s t}, s ∈ Triple.suffixes → t ∈ Triple.suffixes → s ≠ t → _ ≠ _ :=
    fun hs ht => Path.place_withSuffix_ne workdir
      (lab.layout.rootDirectory.join (.ofText rootFileName)) hs ht
  { begun := Disk.Bare lab workdir
    certified := fun d => d.Bare lab workdir ∧ d.read files.certificate = .ok b.certificate
    keyed := fun d => ∃ root key, d.Rooted suite lab workdir root key
    complete := fun d => ∃ root key, d.Rooted suite lab workdir root key
    certify := by
      intro d d' h hw
      subst hfiles
      have hkey := hne (by decide : "-key.pem" ∈ _) (by decide : ".pem" ∈ _) (by decide)
      exact ⟨h.of_write hw hkey (hapart List.mem_cons_self), Disk.read_of_write hw⟩
    giveKey := by
      rintro d d' ⟨h, hcertificate⟩ hw
      subst hfiles
      obtain ⟨_, request, key, csr, root, -, -, -, -, hself, rfl⟩ := hmade
      obtain ⟨now, e, e', hself⟩ := Issuance.of_answers hself
      obtain rfl := h.workdir_eq
      have hchanges : Changes (fun _ => False) (fun _ => True) d d' := Disk.changes_write hw trivial
      have hcertificate' := hne (by decide : ".pem" ∈ _) (by decide : "-key.pem" ∈ _) (by decide)
      have hleaves : d'.Leaves lab fun _ => False := h.leaves.of_write hw fun name hname heq =>
        hapart (List.mem_cons_of_mem _ List.mem_cons_self) name hname heq
      exact ⟨root, key, hchanges.workdir, ⟨now, request, e, e', hself⟩,
        Disk.read_of_write_of_ne hw hcertificate hcertificate', Disk.read_of_write hw,
        fun name c hname hc => (hleaves name c hname hc).elim⟩
    finish := by
      rintro d d' ⟨root, key, h⟩ hw
      subst hfiles
      have hcertificate := hne (by decide : ".pem" ∈ _) (by decide : ".csr" ∈ _) (by decide)
      have hkey := hne (by decide : "-key.pem" ∈ _) (by decide : ".csr" ∈ _) (by decide)
      exact ⟨root, key, h.of_write hw hcertificate hkey fun name hname heq =>
        absurd heq (hapart (by simp [Triple.paths]) name hname)⟩ }

/-- A rooted lab stays rooted while a leaf of its root is written. -/
def leafing (hlab : lab.Apart workdir) (root key : String) {name : String}
    (hname : checkName name = .ok ()) (hleaf : Issuance.IsLeafOf suite root b.certificate) :
    Stages b (lab.nodeFiles name) :=
  have happly : ∀ {d d' : Disk} {q : Path} {content : Bytes}, d.Rooted suite lab workdir root key →
      d.write q content = .ok d' → q ∈ (lab.nodeFiles name).paths →
        (∀ name', checkName name' = .ok () →
          (lab.nodeFiles name').certificate.place workdir = q.place workdir →
            Issuance.IsLeafOf suite root content) → d'.Rooted suite lab workdir root key :=
    fun h hw hq hcontent => h.of_write hw
      (Ne.symm (hlab.place_ne hname hq List.mem_cons_self))
      (Ne.symm (hlab.place_ne hname hq (List.mem_cons_of_mem _ List.mem_cons_self))) hcontent
  { begun := Disk.Rooted suite lab workdir root key
    certified := Disk.Rooted suite lab workdir root key
    keyed := Disk.Rooted suite lab workdir root key
    complete := Disk.Rooted suite lab workdir root key
    certify := fun _ _ h hw => happly h hw List.mem_cons_self fun _ _ _ => hleaf
    giveKey := fun _ _ h hw => happly h hw (by simp [Triple.paths]) fun name' hname' heq =>
      absurd heq (Lab.certificate_place_ne hname hname' (by decide) (by decide))
    finish := fun _ _ h hw => happly h hw (by simp [Triple.paths]) fun name' hname' heq =>
      absurd heq (Lab.certificate_place_ne hname hname' (by decide) (by decide)) }

end Stages

namespace Disk

variable {v : Visit Entropy}

/-- A call for the root keeps a lab in its two states. -/
lemma Trusted.of_root (h : d.Trusted suite lab workdir) (hlab : lab.Apart workdir)
    (hv : v.authority = Issuance.authority suite) {template : Template} {input : RootInput}
    (hfile : input.fileName = rootFileName) :
    ∀ d' ∈ v.disks (ensureRoot lab.layout.rootDirectory template input) d,
      d'.Trusted suite lab workdir := by
  have hfiles : input.files lab.layout.rootDirectory = lab.rootFiles := by
    rw [RootInput.files, hfile]
    rfl
  rcases h with hbare | ⟨root, key, hrooted⟩
  · have hcall := @Action.Always.ensureRoot _ v.authority (v.world d) lab.layout.rootDirectory
      template input (fun b hb => .rooting hlab hfiles (hv ▸ madeRoot_of_run hb))
      fun _ _ _ _ hd => hbare.of_changes hd
    refine Visit.forall_disks (Or.inl hbare) hcall fun e w hw => ?_
    rcases hw.2 with hd | ⟨b, hb, -, (hd | hd | hd) | hd⟩
    · exact Or.inl (hbare.of_changes hd)
    · exact Or.inl hd
    · exact Or.inl hd.1
    · exact Or.inr hd
    · exact Or.inr hd
  · intro d' hd'
    rw [(ensureRoot_of_complete (hfiles ▸ hrooted.complete)).2.2 d' hd']
    exact Or.inr ⟨root, key, hrooted⟩

/-- So does a call for a node: it signs with the root, or there is none and nothing changes. -/
lemma Trusted.of_leaf (h : d.Trusted suite lab workdir) (hsuite : suite.Sound)
    (hlab : lab.Apart workdir) (hv : v.authority = Issuance.authority suite) {input : LeafInput} :
    ∀ d' ∈ v.disks (lab.issue input) d, d'.Trusted suite lab workdir := by
  rcases h with hbare | ⟨root, key, hrooted⟩
  · have hnone : ∀ b, ¬ MadeLeaf v.authority lab.rootFiles.certificate lab.rootFiles.key
        lab.nodeTemplate input lab.options d b := by
      rintro b ⟨_, _, signer, _, _, _, -, hsigner, -⟩
      exact hbare.not_readsSigner _ signer hsigner
    have hcall := @Action.Always.issueLeaf _ v.authority (v.world d) lab.rootFiles.certificate
      lab.rootFiles.key lab.nodeTemplate input
      (Triple.nodeDirectory lab.layout.nodesDirectory input.name) lab.options
      (fun b hb => (hnone b hb).elim) fun b hb => (hnone b hb).elim
    refine Visit.forall_disks (Or.inl hbare) hcall fun e w hw => ?_
    rcases hw.2 with hd | ⟨b, hb, -⟩
    · exact Or.inl (hd ▸ hbare)
    · exact (hnone b hb).elim
  · have hname : ∀ {b}, MadeLeaf v.authority lab.rootFiles.certificate lab.rootFiles.key
        lab.nodeTemplate input lab.options d b → checkName input.name = .ok () := by
      rintro b ⟨_, _, _, _, _, _, hsettled, -⟩
      exact hsettled.name
    have hcall := @Action.Always.issueLeaf _ v.authority (v.world d) lab.rootFiles.certificate
      lab.rootFiles.key lab.nodeTemplate input
      (Triple.nodeDirectory lab.layout.nodesDirectory input.name) lab.options
      (fun b hb => .leafing hlab root key (hname hb) (hrooted.isLeafOf hsuite (hv ▸ hb)))
      fun _ _ _ hd => hrooted.of_changes hd
    refine Visit.forall_disks (Or.inr ⟨root, key, hrooted⟩) hcall fun e w hw => ?_
    rcases hw.2 with hd | ⟨b, hb, (hd | hd | hd) | hd⟩
    · exact Or.inr ⟨root, key, hd ▸ hrooted⟩
    all_goals exact Or.inr ⟨root, key, hd⟩

end Disk

/-! ### Sessions -/

/-- A call of a lab for its root or a node, whose authority signs with a suite. -/
inductive Errand.Serves (suite : Suite) (lab : Lab) : Errand → Prop where
  | root (visit : Visit Entropy) (input : RootInput)
      (authority : visit.authority = Issuance.authority suite)
      (file : input.fileName = rootFileName) :
      Serves suite lab (.root visit lab.layout.rootDirectory lab.rootTemplate input)
  | leaf (visit : Visit Entropy) (input : LeafInput)
      (authority : visit.authority = Issuance.authority suite) :
      Serves suite lab (.leaf visit lab input)

lemma Errand.Serves.trusted {e : Errand} (he : e.Serves suite lab) (hsuite : suite.Sound)
    (hlab : lab.Apart workdir) (hd : d.Trusted suite lab workdir) :
    ∀ d' ∈ e.disks d, d'.Trusted suite lab workdir := by
  cases he with
  | root visit input hv hfile => exact hd.of_root hlab hv hfile
  | leaf visit input hv => exact hd.of_leaf hsuite hlab hv

/-- In a lab that starts without a key of its root and without certificates of nodes, every
certificate of a node that lies on disk at any moment was issued by the root on disk: whatever is
asked for and in which order, and whichever writes are refused. -/
theorem Session.leaves_issued_by_root (suite : Suite) (hsuite : suite.Sound) (lab : Lab) (d : Disk)
    (hlab : lab.Apart d.workdir) (hbare : d.Bare lab d.workdir) (errands : List Errand)
    (hserves : ∀ e ∈ errands, e.Serves suite lab) :
    ∀ d' ∈ Session.disks d errands, ∀ name, checkName name = .ok () → ∀ c,
      d'.read (lab.nodeFiles name).certificate = .ok c →
        ∃ leaf root, c.text? = some leaf ∧ d'.Reads lab.rootFiles.certificate root ∧
          Certificate.checkIssuedBy suite leaf root = .ok () := by
  intro d' hd' name hname c hc
  have htrusted : d'.Trusted suite lab d.workdir :=
    Session.forall_disks (Or.inl hbare)
      (fun e he d₁ hd₁ => (hserves e he).trusted hsuite hlab hd₁) d' hd'
  obtain ⟨l, hl, hentry, -⟩ := Disk.lookUp_eq_ok_iff.mp (Disk.read_eq_ok_iff.mp hc)
  obtain rfl := Disk.locate_eq_place hl
  rcases htrusted with h | ⟨root, key, h⟩
  · exact (h.leaves name c hname hentry).elim
  · obtain ⟨leaf, htext, hissued⟩ := h.leaves name c hname hentry
    exact ⟨leaf, root, htext, ⟨_, h.certificate, Bytes.text?_ofText root⟩, hissued⟩

/-! ### A session with a refused write -/

/-- The template of a root for an hour, as a list of values. -/
def Template.hour : Template := ⟨"root", [.text "[\"root\",[\"ecdsa\",256],[],[],[\"1h\"]]".toList]⟩

/-- A lab in the usual layout, whose templates have no places. -/
def Lab.brief : Lab where
  name := "lab"
  layout := .ofLab (.ofText ".") "lab"
  rootTemplate := Template.hour
  nodeTemplate := Template.mixed

/-- A call for its root. The certificate and the key are written, the request is refused. -/
def Errand.stopped : Errand :=
  .root (.spelled [none, none, some (.other "no space")]) Lab.brief.layout.rootDirectory
    Lab.brief.rootTemplate Lab.brief.rootInput

/-- A call for a leaf. -/
def Errand.resumed : Errand := .leaf (.spelled []) .brief { name := "r1" }

namespace Disk

/-- On an empty disk no lab has a key or a certificate. -/
lemma bare_empty : ({} : Disk).Bare Lab.brief [] := by
  have hempty : ∀ l : Location, l ≠ [] → (({} : Disk).entryAt l) = none := fun l hl => by
    simp [entryAt, hl, find?]
  refine bare_of_missing (fun l hl => hempty l ?_) fun l hl => hempty l ?_
  · rintro rfl
    exact absurd (List.prefix_nil.mp hl) (by decide)
  · rintro rfl
    exact absurd (List.prefix_nil.mp hl) (by decide)

/-- The directories of the root. -/
def brief : Disk := (({} : Disk).makeDirectories Lab.brief.layout.rootDirectory).2

/-- The root's certificate and its key in them. -/
def briefRoot (certificate key : Bytes) : Disk :=
  (brief.put (Lab.brief.rootFiles.certificate.place []) (.file certificate)).put
    (Lab.brief.rootFiles.key.place []) (.file key)

lemma readsSigner_briefRoot (root key : String) :
    (briefRoot (.ofText root) (.ofText key)).ReadsSigner Lab.brief.rootFiles.certificate
      Lab.brief.rootFiles.key ⟨root, key⟩ :=
  ⟨⟨_, by rfl, Bytes.text?_ofText _⟩, _, by rfl, Bytes.text?_ofText _⟩

end Disk

namespace Issuance

lemma exists_selfSign_hour : ∃ root,
    selfSign .spelled ⟨0, 0⟩ hourRequest mixedKey.toPem ⟨[], 1⟩ = .ok (root, ⟨[], 2⟩) := by
  have hshort : (rootDraft hourRequest mixedKey [] (-300, 3600) 0).IsShort mixedKey := by
    decide +kernel
  exact ⟨_, selfSign_hour Suite.modest_spelled ofPem?_mixedKey hshort _⟩

lemma exists_buildRequest_hour : ∃ csr,
    buildRequest .spelled hourRequest mixedKey.toPem ⟨[], 1⟩ = .ok (csr, ⟨[], 1⟩) := by
  have hnames : altNames .requestBuild hourRequest.hosts = .ok [] := by decide
  have hbuilt := @built_of_short .spelled _ _ Suite.modest_spelled _ _ ofPem?_mixedKey hnames
    (by decide +kernel) ⟨[], 1⟩
  exact ⟨_, hbuilt.buildRequest_eq⟩

end Issuance

namespace Errand

/-- The root and its key are left by the first call. -/
lemma after_stopped : ∃ root,
    Issuance.selfSign .spelled ⟨0, 0⟩ Issuance.hourRequest Issuance.mixedKey.toPem ⟨[], 1⟩ =
      .ok (root, ⟨[], 2⟩) ∧
      stopped.after {} = .briefRoot (.ofText root) (.ofText Issuance.mixedKey.toPem) := by
  obtain ⟨root, hroot⟩ := Issuance.exists_selfSign_hour
  obtain ⟨csr, hcsr⟩ := Issuance.exists_buildRequest_hour
  obtain ⟨document, hdocument, hrequest⟩ : ∃ document,
      Lab.brief.rootTemplate.render Lab.brief.rootInput.toData = .ok document ∧
        Request.read (.ofText document) = .ok Issuance.hourRequest :=
    Except.bind_eq_ok_iff.mp (by decide +kernel)
  have hmissing : ({} : Disk).lookUp
      (Lab.brief.rootInput.files Lab.brief.layout.rootDirectory).certificate = .error .absent := by
    rfl
  have hmade : ({} : Disk).makeDirectories Lab.brief.layout.rootDirectory = (.ok (), .brief) := by
    rfl
  have hvalid : Issuance.hourRequest.validate = .ok () := by decide
  have hlifetime : Issuance.hourRequest.authorityExpiry = .ok 3600 := by decide
  have hafter : stopped.after {} = _ := Visit.after_ensureRoot hdocument hrequest hvalid hlifetime
    Issuance.generateKey_mixed hcsr hroot hmissing hmade
  refine ⟨root, hroot, hafter.trans ?_⟩
  -- what the files hold plays no part in where they lie
  generalize Issuance.mixedKey.toPem = key
  rw [@World.snd_run_persist _ _ _ _ _ _ _ Lab.brief.layout.rootDirectory .brief (by rfl) (by rfl)
    (by rfl) (by rfl)]
  rfl

/-- The second call signs with them, and leaves a leaf. -/
lemma read_after_resumed : ∃ leaf, (resumed.after (stopped.after {})).read
    (Lab.brief.nodeFiles "r1").certificate = .ok (.ofText leaf) := by
  obtain ⟨root, hroot, hstopped⟩ := after_stopped
  obtain ⟨leaf, e, hleaf⟩ : ∃ leaf e, Issuance.sign .spelled ⟨0, 0⟩ Issuance.mixedOrder
      ⟨root, Issuance.mixedKey.toPem⟩ ⟨[], 1⟩ = .ok (leaf, e) :=
    ⟨_, _, Issuance.sign_mixedRequest Suite.sound_spelled Suite.modest_spelled hroot
      Issuance.ofPem?_mixedKey (by decide +kernel) Issuance.built_mixed ⟨[], 1⟩⟩
  have hafter : resumed.after (.briefRoot (.ofText root) (.ofText Issuance.mixedKey.toPem)) = _ :=
    Visit.after_issueLeaf LeafOptions.plan_mixed (Disk.readsSigner_briefRoot root _)
      Issuance.generateKey_mixed Issuance.buildRequest_mixed hleaf
  refine ⟨leaf, ?_⟩
  rw [hstopped, hafter]
  generalize Issuance.mixedKey.toPem = key
  generalize Issuance.mixedText = csr
  exact @World.read_persist _ _ _ _ _ _ _ (Triple.nodeDirectory Lab.brief.layout.nodesDirectory "r1")
    _ (by rfl) (by rfl) (by rfl) (by rfl)

end Errand

/-- The request of a root is refused, and a leaf is asked for then: it was issued by the root. -/
theorem Session.leaf_issued_after_refusal :
    Suite.spelled.Sound ∧ Lab.brief.Apart [] ∧ ({} : Disk).Bare Lab.brief [] ∧
      (∀ e ∈ [Errand.stopped, Errand.resumed], e.Serves .spelled .brief) ∧
      ∃ d' ∈ Session.disks {} [Errand.stopped, Errand.resumed], ∃ c leaf root,
        d'.read (Lab.brief.nodeFiles "r1").certificate = .ok c ∧ c.text? = some leaf ∧
          d'.Reads Lab.brief.rootFiles.certificate root ∧
          Certificate.checkIssuedBy .spelled leaf root = .ok () := by
  have hserves : ∀ e ∈ [Errand.stopped, Errand.resumed], e.Serves .spelled .brief := by
    simp only [List.mem_cons, List.not_mem_nil, or_false]
    rintro e (rfl | rfl)
    · exact .root _ _ rfl rfl
    · exact .leaf _ _ rfl
  have hlast : Errand.resumed.after (Errand.stopped.after {}) ∈
      Session.disks {} [Errand.stopped, Errand.resumed] :=
    List.mem_append_right _ (List.mem_append_left _ Errand.resumed.after_mem_disks)
  obtain ⟨_, hread⟩ := Errand.read_after_resumed
  obtain ⟨leaf, root, hissued⟩ := Session.leaves_issued_by_root .spelled Suite.sound_spelled .brief
    {} (Lab.apart_ofLab rfl) Disk.bare_empty _ hserves _ hlast "r1" (by decide) _ hread
  exact ⟨Suite.sound_spelled, Lab.apart_ofLab rfl, Disk.bare_empty, hserves, _, hlast, _, leaf,
    root, hread, hissued⟩

end LabTrust
