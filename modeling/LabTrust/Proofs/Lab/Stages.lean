/-
The stages that the calls of a lab pass through.

A call checks, reads and asks before it writes, and what it writes comes in a fixed order: the
directory, the certificate, the key, the request. Claims about the disk at every moment are claims
about these stages.
* `Stages`: what is said of a disk after each of the four.
* `Always.persist`, `Always.issueLeaf`, `Always.ensureRoot`: each call goes through the stages one
  after the other, and where it may stop on the way.
* `LeafOptions.Settled`: all that is checked before an authority is asked.
* `MadeLeaf`, `MadeRoot`: bundles that come from the answers of an authority.
* `LeafFailure`: why a call for a leaf fails.
* `rootBundle`: the part of a call for a root between its directory and its files; what it gives
  does not hang on the disk.
-/
import LabTrust.Lab
import LabTrust.Proofs.Except
import LabTrust.Proofs.Program.Effects
import LabTrust.Proofs.Program.Sources

namespace LabTrust

variable {σ : Type} {authority : Authority σ}

/-- The effect asks an authority. -/
def Effect.Consults : Effect → Prop
  | .consult _ _ => True
  | _ => False

/-- The text of a file. -/
def Disk.Reads (d : Disk) (p : Path) (text : String) : Prop :=
  ∃ bs, d.read p = .ok bs ∧ bs.text? = some text

/-- The texts of the two files that a signer is made of. -/
def Disk.ReadsSigner (d : Disk) (certificate key : Path) (signer : Signer) : Prop :=
  d.Reads certificate signer.certificate ∧ d.Reads key signer.key

/-- The certificate and the key of a triple are found, whatever they are. -/
def Disk.Complete (d : Disk) (files : Triple) : Prop :=
  (∃ e, d.lookUp files.certificate = .ok e) ∧ ∃ e, d.lookUp files.key = .ok e

/-- The place is passed on the way to the directory above a path. -/
def Path.PassesAbove (workdir : Location) (p : Path) (l : Location) : Prop :=
  ∃ q, p.parent? = some q ∧ q.Passes workdir l

/-! ### Persisting -/

/-- What is said of the disk while a bundle is written. -/
structure Stages (b : Bundle) (files : Triple) where
  begun : Disk → Prop
  certified : Disk → Prop
  keyed : Disk → Prop
  complete : Disk → Prop
  certify : ∀ d d', begun d → d.write files.certificate b.certificate = .ok d' → certified d'
  giveKey : ∀ d d', certified d → d.write files.key b.key = .ok d' → keyed d'
  finish : ∀ d d', keyed d → d.write files.request b.request = .ok d' → complete d'

namespace Stages

variable {b : Bundle} {files : Triple}

/-- Nothing is said of the disk. -/
def any (b : Bundle) (files : Triple) : Stages b files where
  begun _ := True
  certified _ := True
  keyed _ := True
  complete _ := True
  certify _ _ _ _ := trivial
  giveKey _ _ _ _ := trivial
  finish _ _ _ _ := trivial

/-- Some stage before the last one is reached. -/
def Underway (s : Stages b files) (d : Disk) : Prop := s.begun d ∨ s.certified d ∨ s.keyed d

/-- Some stage is reached. -/
def Passed (s : Stages b files) (d : Disk) : Prop := s.Underway d ∨ s.complete d

end Stages

namespace Action.Always

variable {w : World σ} {b : Bundle} {path : Path}

/-- A bundle goes to disk stage by stage, and only the file system can stop it. -/
lemma persist (s : Stages b (Triple.ofPath path))
    (hbegun : ∀ d, Disk.Changes (path.PassesAbove w.disk.workdir) (fun _ => False) w.disk d →
      s.begun d) :
    Always (World.handle authority) (fun e v => ¬ e.Consults ∧ s.Passed v.disk)
      (fun files v => files = Triple.ofPath path ∧ s.complete v.disk)
      (fun e v => e.kind = .io ∧ s.Underway v.disk) (Store.persist b path) w := by
  have hfiles : ∀ v : World σ, s.begun v.disk →
      Always (World.handle authority) (fun e v => ¬ e.Consults ∧ s.Passed v.disk)
        (fun files v => files = Triple.ofPath path ∧ s.complete v.disk)
        (fun e v => e.kind = .io ∧ s.Underway v.disk)
        (do
          let files := Triple.ofPath path
          Action.write files.certificate b.certificate
          Action.write files.key b.key
          Action.write files.request b.request
          return files) v := by
    intro v₀ h₀
    have hstop : ∀ {v : World σ} {p : Path} {content : Bytes} (f : IoFailure),
        s.Underway v.disk → (¬ (Effect.write p content).Consults ∧ s.Passed v.disk) ∧
          (Error.io p f).kind = .io ∧ s.Underway v.disk :=
      fun f h => ⟨⟨id, Or.inl h⟩, rfl, h⟩
    refine bind (write (fun v₁ hw₁ => ?_) fun f v₁ hv₁ => hstop f (hv₁ ▸ Or.inl h₀))
    have h₁ := s.certify _ _ h₀ hw₁
    refine ⟨⟨id, Or.inl (Or.inr (Or.inl h₁))⟩, ?_⟩
    refine bind (write (fun v₂ hw₂ => ?_) fun f v₂ hv₂ => hstop f (hv₂ ▸ Or.inr (Or.inl h₁)))
    have h₂ := s.giveKey _ _ h₁ hw₂
    refine ⟨⟨id, Or.inl (Or.inr (Or.inr h₂))⟩, ?_⟩
    refine bind (write (fun v₃ hw₃ => ?_) fun f v₃ hv₃ => hstop f (hv₃ ▸ Or.inr (Or.inr h₂)))
    have h₃ := s.finish _ _ h₂ hw₃
    exact ⟨⟨id, Or.inr h₃⟩, pure ⟨rfl, h₃⟩⟩
  rw [Store.persist]
  cases hparent : path.parent? with
  | none => exact hfiles w (hbegun _ (Disk.Changes.refl _ _ _))
  | some q =>
      have hdirs : ∀ (r : Except IoFailure Unit) (d : Disk),
          w.disk.makeDirectories q = (r, d) → s.begun d := by
        intro r d h
        refine hbegun d (.mono ?_ (fun l hl => ⟨q, hparent, hl⟩) fun _ h => h)
        have hchanges := Disk.changes_makeDirectories (F := fun _ => False) w.disk q
        rwa [h] at hchanges
      refine bind (makeDirectories (fun v h => ?_) fun f v h => ?_)
      · exact ⟨⟨id, Or.inl (Or.inl (hdirs _ _ h))⟩, hfiles v (hdirs _ _ h)⟩
      · exact ⟨⟨id, Or.inl (Or.inl (hdirs _ _ h))⟩, rfl, Or.inl (hdirs _ _ h)⟩

/-- Looking for a certificate and a key changes nothing. -/
lemma isComplete {files : Triple} {I : Effect → World σ → Prop} {Q : Bool → World σ → Prop}
    {E : Error → World σ → Prop} (hI : ∀ e, ¬ e.Consults → I e w)
    (hfound : w.disk.Complete files → Q true w) (hmissing : ¬ w.disk.Complete files → Q false w) :
    Always (World.handle authority) I Q E (Store.isComplete files) w := by
  refine bind (exists? (hI _ id) (fun e he => ?_) fun f hf => ?_)
  · refine exists? (hI _ id) (fun e' he' => hfound ⟨⟨e, he⟩, e', he'⟩) fun f hf => hmissing ?_
    rintro ⟨-, e', he'⟩
    simp [hf] at he'
  · refine pure (hmissing ?_)
    rintro ⟨⟨e, he⟩, -⟩
    simp [hf] at he

end Action.Always

/-! ### Leaves -/

/-- All that is checked about a leaf before anything is read. -/
structure LeafOptions.Settled (options : LeafOptions) (template : Template) (input : LeafInput)
    (request : Request) (lifetime : ℕ) : Prop where
  named : Text.blank input.name = false
  name : checkName input.name = .ok ()
  document : ∃ document, template.render input.toData = .ok document ∧
    Request.read (.ofText document) = .ok request
  valid : request.validate = .ok ()
  hosts : request.checkHosts options.hostPolicy = .ok ()
  lifetime : options.lifetime input = .ok lifetime

lemma LeafOptions.settled_of_plan_eq_ok {options : LeafOptions} {template : Template}
    {input : LeafInput} {request : Request} {lifetime : ℕ}
    (h : options.plan template input = .ok (request, lifetime)) :
    options.Settled template input request lifetime := by
  rw [plan] at h
  split at h
  · exact absurd h Except.throw_ne_ok
  · next hnamed =>
    obtain ⟨_, hname, h⟩ := Except.bind_eq_ok_iff.mp h
    obtain ⟨document, hdocument, h⟩ := Except.bind_eq_ok_iff.mp h
    obtain ⟨asked, hrequest, h⟩ := Except.bind_eq_ok_iff.mp h
    obtain ⟨_, hvalid, h⟩ := Except.bind_eq_ok_iff.mp h
    obtain ⟨_, hhosts, h⟩ := Except.bind_eq_ok_iff.mp h
    obtain ⟨granted, hlifetime, h⟩ := Except.bind_eq_ok_iff.mp h
    obtain ⟨rfl, rfl⟩ := Prod.mk.inj (Except.ok.inj h)
    exact ⟨by simpa using hnamed, hname, ⟨document, hdocument, hrequest⟩, hvalid, hhosts, hlifetime⟩

/-- A bundle that a call for a leaf makes from the root that lies on a disk. -/
def MadeLeaf (authority : Authority σ) (rootCertificate rootKey : Path) (template : Template)
    (input : LeafInput) (options : LeafOptions) (d : Disk) (b : Bundle) : Prop :=
  ∃ request lifetime signer key csr certificate,
    options.Settled template input request lifetime ∧ d.ReadsSigner rootCertificate rootKey signer ∧
      authority.Answers (.generateKey request.key) (.ok key) ∧
      authority.Answers (.buildRequest request key) (.ok csr) ∧
      authority.Answers (.sign ⟨csr, request.hosts, lifetime⟩ signer) (.ok certificate) ∧
      b = .ofTexts key csr certificate

namespace Action.Always

variable {w : World σ} {rootCertificate rootKey : Path} {template : Template} {input : LeafInput}
  {target : Path} {options : LeafOptions}

/-- A call for a leaf stops with the disk as it was, or goes through the stages of its bundle. An
authority is asked only when all checks have passed and both files of the root are texts. -/
lemma issueLeaf
    (s : ∀ b, MadeLeaf authority rootCertificate rootKey template input options w.disk b →
      Stages b (Triple.ofPath (target.join (.ofText input.name))))
    (hbegun : ∀ b h d, Disk.Changes
      ((target.join (.ofText input.name)).PassesAbove w.disk.workdir) (fun _ => False) w.disk d →
        (s b h).begun d) :
    Always (World.handle authority)
      (fun e v =>
        (e.Consults → (∃ request lifetime, options.Settled template input request lifetime) ∧
          ∃ signer, w.disk.ReadsSigner rootCertificate rootKey signer) ∧
        (v.disk = w.disk ∨ ∃ b h, (s b h).Passed v.disk))
      (fun b v => ∃ h, (s b h).complete v.disk)
      (fun e v => v.disk = w.disk ∨ e.kind = .io ∧ ∃ b h, (s b h).Underway v.disk)
      (LabTrust.issueLeaf rootCertificate rootKey template input target options) w := by
  refine bind (orFail (fun plan hplan => ?_) fun e _ => Or.inl rfl)
  obtain ⟨request, lifetime⟩ := plan
  have hsettled := LeafOptions.settled_of_plan_eq_ok hplan
  refine bind (bind (readSigner ⟨nofun, Or.inl rfl⟩ (fun bs certificate hbs ht => ?_)
    fun f _ => Or.inl rfl))
  have hcertificate : w.disk.Reads rootCertificate certificate := ⟨bs, hbs, ht⟩
  refine bind (readSigner ⟨nofun, Or.inl rfl⟩ (fun bs rootKeyText hbs ht => ?_)
    fun f _ => Or.inl rfl)
  have hrootKey : w.disk.Reads rootKey rootKeyText := ⟨bs, hbs, ht⟩
  refine pure ?_
  have hasked : (∃ request lifetime, options.Settled template input request lifetime) ∧
      ∃ signer, w.disk.ReadsSigner rootCertificate rootKey signer :=
    ⟨⟨request, lifetime, hsettled⟩, ⟨certificate, rootKeyText⟩, hcertificate, hrootKey⟩
  refine bind (consult (fun key v₁ hkey hv₁ => ?_) fun e v₁ he hv₁ => ?_)
  swap
  · exact ⟨⟨fun _ => hasked, Or.inl hv₁⟩, Or.inl hv₁⟩
  refine ⟨⟨fun _ => hasked, Or.inl hv₁⟩, ?_⟩
  refine bind (consult (fun csr v₂ hcsr hv₂ => ?_) fun e v₂ he hv₂ => ?_)
  swap
  · exact ⟨⟨fun _ => hasked, Or.inl (hv₂.trans hv₁)⟩, Or.inl (hv₂.trans hv₁)⟩
  refine ⟨⟨fun _ => hasked, Or.inl (hv₂.trans hv₁)⟩, ?_⟩
  refine bind (consult (fun issued v₃ hissued hv₃ => ?_) fun e v₃ he hv₃ => ?_)
  swap
  · exact ⟨⟨fun _ => hasked, Or.inl (hv₃.trans (hv₂.trans hv₁))⟩,
      Or.inl (hv₃.trans (hv₂.trans hv₁))⟩
  have hv : v₃.disk = w.disk := hv₃.trans (hv₂.trans hv₁)
  refine ⟨⟨fun _ => hasked, Or.inl hv⟩, ?_⟩
  have hmade : MadeLeaf authority rootCertificate rootKey template input options w.disk
      (.ofTexts key csr issued) :=
    ⟨request, lifetime, _, key, csr, issued, hsettled, ⟨hcertificate, hrootKey⟩, hkey, hcsr,
      hissued, rfl⟩
  have hpersist := @persist _ authority v₃ _ _ (s _ hmade) fun d hd => hbegun _ hmade d (hv ▸ hd)
  refine bind (map (mono hpersist (fun e v h => ?_) (fun _ v h => ?_) fun e v h => ?_))
  · exact ⟨fun he => absurd he h.1, Or.inr ⟨_, hmade, h.2⟩⟩
  · exact pure ⟨hmade, h.2⟩
  · exact Or.inr ⟨h.1, _, hmade, h.2⟩

end Action.Always

/-- Why a call for a leaf fails: for what is checked first, for a file of the root, for an answer of
an authority, or because its own files cannot be written. -/
inductive LeafFailure (authority : Authority σ) (rootCertificate rootKey : Path)
    (template : Template) (input : LeafInput) (options : LeafOptions) (d : Disk) : Error → Prop
  | plan {e} (h : options.plan template input = .error e) :
      LeafFailure authority rootCertificate rootKey template input options d e
  | signer {path f} (hpath : path = rootCertificate ∨ path = rootKey)
      (h : d.read path = .error f ∨
        f = .notText ∧ (∃ bs, d.read path = .ok bs ∧ bs.text? = none)) :
      LeafFailure authority rootCertificate rootKey template input options d
        (.crypto .signerConstruction (.unreadable path f))
  | key {request lifetime e} (hplan : options.plan template input = .ok (request, lifetime))
      (h : authority.Answers (.generateKey request.key) (.error e)) :
      LeafFailure authority rootCertificate rootKey template input options d e
  | request {request lifetime key e}
      (hplan : options.plan template input = .ok (request, lifetime))
      (h : authority.Answers (.buildRequest request key) (.error e)) :
      LeafFailure authority rootCertificate rootKey template input options d e
  | leaf {request lifetime signer key csr e}
      (hplan : options.plan template input = .ok (request, lifetime))
      (hsigner : d.ReadsSigner rootCertificate rootKey signer)
      (hcsr : authority.Answers (.buildRequest request key) (.ok csr))
      (h : authority.Answers (.sign ⟨csr, request.hosts, lifetime⟩ signer) (.error e)) :
      LeafFailure authority rootCertificate rootKey template input options d e
  | store {e} (h : e.kind = .io) :
      LeafFailure authority rootCertificate rootKey template input options d e

/-- A call for a leaf fails for nothing else. -/
lemma Action.Always.issueLeaf_failure {w : World σ} {rootCertificate rootKey : Path}
    {template : Template} {input : LeafInput} {target : Path} {options : LeafOptions} :
    Always (World.handle authority) (fun _ _ => True) (fun _ _ => True)
      (fun e _ => LeafFailure authority rootCertificate rootKey template input options w.disk e)
      (LabTrust.issueLeaf rootCertificate rootKey template input target options) w := by
  refine bind (orFail (fun plan hplan => ?_) fun e h => .plan h)
  obtain ⟨request, lifetime⟩ := plan
  refine bind (bind (readSigner trivial (fun bs certificate hbs ht => ?_)
    fun f h => .signer (Or.inl rfl) h))
  refine bind (readSigner trivial (fun cs rootKeyText hcs hu => pure ?_)
    fun f h => .signer (Or.inr rfl) h)
  have hsigner : w.disk.ReadsSigner rootCertificate rootKey ⟨certificate, rootKeyText⟩ :=
    ⟨⟨bs, hbs, ht⟩, cs, hcs, hu⟩
  refine bind (consult (fun key v₁ _ _ => ⟨trivial, ?_⟩) fun e v₁ h _ => ⟨trivial, .key hplan h⟩)
  refine bind (consult (fun csr v₂ hcsr _ => ⟨trivial, ?_⟩)
    fun e v₂ h _ => ⟨trivial, .request hplan h⟩)
  refine bind (consult (fun text v₃ _ _ => ⟨trivial, ?_⟩)
    fun e v₃ h _ => ⟨trivial, .leaf hplan hsigner hcsr h⟩)
  exact bind (map (mono (persist (Stages.any _ _) fun _ _ => trivial) (fun _ _ _ => trivial)
    (fun _ _ _ => pure trivial) fun e v h => .store h.1))

/-! ### Roots -/

/-- The bundle of a root: what a call that makes one works out before it writes. -/
def rootBundle (template : Template) (input : RootInput) : Action Bundle := do
  let document ← Action.orFail (template.render input.toData)
  let request ← Action.orFail (Request.read (.ofText document))
  Action.orFail request.validate
  discard <| Action.orFail request.authorityExpiry
  let key ← Action.consult (.generateKey request.key)
  let csr ← Action.consult (.buildRequest request key)
  let certificate ← Action.consult (.selfSign request key)
  return .ofTexts key csr certificate

lemma createRoot_eq (directory : Path) (template : Template) (input : RootInput) :
    createRoot directory template input = do
      Action.makeDirectories directory
      let bundle ← rootBundle template input
      let files ← Store.persist bundle (directory.join (.ofText input.fileName))
      return ⟨files, some bundle⟩ := by
  simp only [createRoot, rootBundle, bind_assoc, pure_bind]

/-- A bundle that a call for a root makes. -/
def MadeRoot (authority : Authority σ) (template : Template) (input : RootInput) (b : Bundle) :
    Prop :=
  ∃ document request key csr certificate,
    template.render input.toData = .ok document ∧ Request.read (.ofText document) = .ok request ∧
      authority.Answers (.generateKey request.key) (.ok key) ∧
      authority.Answers (.buildRequest request key) (.ok csr) ∧
      authority.Answers (.selfSign request key) (.ok certificate) ∧ b = .ofTexts key csr certificate

/-- The files of a root with some input. -/
def RootInput.files (input : RootInput) (directory : Path) : Triple :=
  .ofPath (directory.join (.ofText input.fileName))

namespace Action.Always

variable {w : World σ} {directory : Path} {template : Template} {input : RootInput}

/-- Nothing is written while a bundle is worked out. -/
lemma rootBundle :
    Always (World.handle authority) (fun _ v => v.disk = w.disk)
      (fun b v => v.disk = w.disk ∧ MadeRoot authority template input b)
      (fun _ v => v.disk = w.disk) (LabTrust.rootBundle template input) w := by
  refine bind (orFail (fun document hdocument => ?_) fun _ _ => rfl)
  refine bind (orFail (fun request hrequest => ?_) fun _ _ => rfl)
  refine bind (orFail (fun _ _ => ?_) fun _ _ => rfl)
  refine bind (map (orFail (fun _ _ => ?_) fun _ _ => rfl))
  refine bind (consult (fun key v₁ hkey hv₁ => ⟨hv₁, ?_⟩) fun e v₁ _ hv₁ => ⟨hv₁, hv₁⟩)
  refine bind (consult (fun csr v₂ hcsr hv₂ => ⟨hv₂.trans hv₁, ?_⟩)
    fun e v₂ _ hv₂ => ⟨hv₂.trans hv₁, hv₂.trans hv₁⟩)
  refine bind (consult (fun text v₃ htext hv₃ => ?_) fun e v₃ _ hv₃ => ?_)
  · have hv : v₃.disk = w.disk := hv₃.trans (hv₂.trans hv₁)
    exact ⟨hv, pure ⟨hv, document, request, key, csr, text, hdocument, hrequest, hkey, hcsr, htext,
      rfl⟩⟩
  · exact ⟨hv₃.trans (hv₂.trans hv₁), hv₃.trans (hv₂.trans hv₁)⟩

end Action.Always

/-- A bundle comes from the answers of the authority. -/
lemma madeRoot_of_run {w : World σ} {template : Template} {input : RootInput} {b : Bundle}
    (h : (World.run authority (rootBundle template input).run w).1 = .ok b) :
    MadeRoot authority template input b :=
  (Action.Always.rootBundle.of_ok (Prod.ext h rfl)).2

/-- What a program that only asks an authority gives does not hang on the disk. -/
lemma World.run_of_consults {α : Type} {p : Program α} (hp : p.Only Effect.Consults)
    (w : World σ) (d : Disk) :
    (run authority p { w with disk := d }).1 = (run authority p w).1 := by
  induction hp generalizing w with
  | done a => rfl
  | @step e next he _ ih =>
      cases e with
      | consult source call => exact ih _ (World.setState w source _)
      | lookUp | read | makeDirectories | write | clock => exact he.elim

lemma only_rootBundle (template : Template) (input : RootInput) :
    (rootBundle template input).Only Effect.Consults := by
  refine (Action.Only.orFail _).bind fun document => ?_
  refine (Action.Only.orFail _).bind fun request => ?_
  refine (Action.Only.orFail _).bind fun _ => ?_
  refine ((Action.Only.orFail _).map _).bind fun _ => ?_
  refine (Action.Only.consult _ trivial).bind fun key => ?_
  refine (Action.Only.consult _ trivial).bind fun csr => ?_
  exact (Action.Only.consult _ trivial).bind fun text => .pure _

namespace Action.Always

variable {w : World σ} {directory : Path} {template : Template} {input : RootInput}

/-- A call that makes a root makes its directory, works out a bundle, and then goes through the
stages of this bundle. -/
lemma createRoot
    (s : ∀ b, (World.run authority (LabTrust.rootBundle template input).run w).1 = .ok b →
      Stages b (input.files directory))
    (hbegun : ∀ b h d, Disk.Changes (fun l => directory.Passes w.disk.workdir l ∨
      (directory.join (.ofText input.fileName)).PassesAbove w.disk.workdir l) (fun _ => False)
        w.disk d → (s b h).begun d) :
    Always (World.handle authority)
      (fun _ v => Disk.Changes (directory.Passes w.disk.workdir) (fun _ => False) w.disk v.disk ∨
        ∃ b h, (s b h).Passed v.disk)
      (fun outcome v => outcome.files = input.files directory ∧
        ∃ b h, outcome.generated = some b ∧ (s b h).complete v.disk)
      (fun e v =>
        Disk.Changes (directory.Passes w.disk.workdir) (fun _ => False) w.disk v.disk ∨
          e.kind = .io ∧ ∃ b h, (s b h).Underway v.disk)
      (LabTrust.createRoot directory template input) w := by
  have hmake : ∀ (r : Except IoFailure Unit) (d : Disk), w.disk.makeDirectories directory = (r, d) →
      Disk.Changes (directory.Passes w.disk.workdir) (fun _ => False) w.disk d := by
    intro r d h
    have hchanges := Disk.changes_makeDirectories (F := fun _ => False) w.disk directory
    rwa [h] at hchanges
  rw [createRoot_eq]
  refine bind (makeDirectories_at (fun d h => ⟨Or.inl (hmake _ d h), ?_⟩)
    fun f d h => ⟨Or.inl (hmake _ d h), Or.inl (hmake _ d h)⟩)
  have hdirs := hmake _ d h
  refine bind (mono rootBundle.withRun (fun _ v hv => Or.inl (hv ▸ hdirs)) (fun b v hv => ?_)
    fun _ v hv => Or.inl (hv ▸ hdirs))
  obtain ⟨⟨hv, -⟩, hrun⟩ := hv
  have hmade : (World.run authority (LabTrust.rootBundle template input).run w).1 = .ok b :=
    (World.run_of_consults (only_rootBundle template input) w d).symm.trans (congrArg Prod.fst hrun)
  have hpersist := @persist _ authority v _ _ (s _ hmade) fun d' hd' => by
    rw [hv, hdirs.workdir] at hd'
    exact hbegun _ hmade d' ((hdirs.mono (fun _ => Or.inl) fun _ h => h).trans
      (hd'.mono (fun _ => Or.inr) fun _ h => h))
  refine bind (mono hpersist (fun e v h => Or.inr ⟨_, hmade, h.2⟩) (fun _ v h => ?_)
    fun e v h => Or.inr ⟨h.1, _, hmade, h.2⟩)
  exact pure ⟨h.1, _, hmade, rfl, h.2⟩

/-- A call for a root does nothing if the certificate and the key are found. -/
lemma ensureRoot
    (s : ∀ b, (World.run authority (LabTrust.rootBundle template input).run w).1 = .ok b →
      Stages b (input.files directory))
    (hbegun : ¬ w.disk.Complete (input.files directory) → ∀ b h d,
      Disk.Changes (fun l => directory.Passes w.disk.workdir l ∨
        (directory.join (.ofText input.fileName)).PassesAbove w.disk.workdir l) (fun _ => False)
          w.disk d → (s b h).begun d) :
    Always (World.handle authority)
      (fun e v => (e.Consults → ¬ w.disk.Complete (input.files directory)) ∧
        (Disk.Changes (directory.Passes w.disk.workdir) (fun _ => False) w.disk v.disk ∨
          ∃ b h, ¬ w.disk.Complete (input.files directory) ∧ (s b h).Passed v.disk))
      (fun outcome v => outcome.files = input.files directory ∧
        (w.disk.Complete (input.files directory) ∧ outcome.generated = none ∧ v.disk = w.disk ∨
          ¬ w.disk.Complete (input.files directory) ∧
            ∃ b h, outcome.generated = some b ∧ (s b h).complete v.disk))
      (fun e v => ¬ w.disk.Complete (input.files directory) ∧
        (Disk.Changes (directory.Passes w.disk.workdir) (fun _ => False) w.disk v.disk ∨
          e.kind = .io ∧ ∃ b h, (s b h).Underway v.disk))
      (LabTrust.ensureRoot directory template input) w := by
  refine bind (isComplete
    (fun e he => ⟨fun h => absurd h he, Or.inl (Disk.Changes.refl _ _ _)⟩) (fun h => ?_)
    fun h => ?_)
  · exact pure ⟨rfl, Or.inl ⟨h, rfl, rfl⟩⟩
  · refine mono (createRoot s (hbegun h)) (fun e v hv => ⟨fun _ => h, ?_⟩)
      (fun outcome v hv => ⟨hv.1, Or.inr ⟨h, hv.2⟩⟩) fun e v hv => ⟨h, hv⟩
    rcases hv with hv | ⟨b, hb, hv⟩
    · exact Or.inl hv
    · exact Or.inr ⟨b, hb, h, hv⟩

end Action.Always

end LabTrust
