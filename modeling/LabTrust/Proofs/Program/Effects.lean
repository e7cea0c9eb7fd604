/-
Rules for single effects on a world.

Each rule asks for what has to follow from either answer of the file system, in terms of the disk
before and after: a refused effect leaves the disk as it was, directories apart, and an authority
does not touch it. So no program does more to a disk than to make directories and to write files
(`World.changes_trail`).
-/
import LabTrust.Proofs.Disk.Changes
import LabTrust.Proofs.Program.Always
import LabTrust.Store.Files

namespace LabTrust

/-- An authority answers a call like this at some time and in some state. -/
def Authority.Answers {σ : Type} (authority : Authority σ) (call : Call)
    (r : Except Error String) : Prop :=
  ∃ now s, (authority.answer now call s).1 = r

/-- The authority as it answers at one time. -/
def Authority.fixedAt {σ : Type} (authority : Authority σ) (now : Instant) : Authority σ where
  answer _ call s := authority.answer now call s

lemma Authority.answers_fixedAt {σ : Type} {authority : Authority σ} {now : Instant} {call : Call}
    {r : Except Error String} :
    (authority.fixedAt now).Answers call r ↔ ∃ s, (authority.answer now call s).1 = r :=
  ⟨fun ⟨_, s, h⟩ => ⟨s, h⟩, fun ⟨s, h⟩ => ⟨now, s, h⟩⟩

namespace World

variable {σ : Type} {authority : Authority σ} {w v : World σ} {path : Path} {content : Bytes}

/-! ### Time -/

lemma now_write : (w.write path content).2.now = w.now := by
  rw [write]
  split
  · rfl
  · split <;> rfl

/-- No effect moves the time. -/
lemma now_handle (e : Effect) : (handle authority e w).2.now = w.now := by
  cases e with
  | write path content => exact now_write
  | lookUp | read | makeDirectories | consult | clock => rfl

/-- So a program runs as with an authority that knows no other time. -/
lemma run_fixedAt {α : Type} (p : Program α) (w : World σ) :
    run (authority.fixedAt w.now) p w = run authority p w := by
  induction p generalizing w with
  | done a => rfl
  | step e next ih =>
      have he : handle (authority.fixedAt w.now) e w = handle authority e w := by cases e <;> rfl
      have hrest := ih (handle authority e w).1 (handle authority e w).2
      rw [now_handle] at hrest
      rw [run, Program.run, he]
      exact hrest

/-! ### Writes -/

/-- The disk after a write that was carried out. -/
lemma disk_of_write_ok (h : w.write path content = (.ok (), v)) :
    w.disk.write path content = .ok v.disk := by
  rw [write] at h
  split at h
  · simp at h
  · split at h
    · next hw =>
      rw [hw, ← (Prod.mk.inj h).2]
    · simp at h

/-- The disk after a write that was refused. -/
lemma disk_of_write_error {f : IoFailure} (h : w.write path content = (.error f, v)) :
    v.disk = w.disk := by
  rw [write] at h
  split at h
  · rw [← (Prod.mk.inj h).2]
  · split at h
    · simp at h
    · rw [← (Prod.mk.inj h).2]

/-- A write leaves what is read elsewhere, whether it is carried out or not. -/
lemma read_of_write_of_ne {r : Except IoFailure Unit} {q : Path} {c : Bytes}
    (h : w.write path content = (r, v)) (hread : w.disk.read q = .ok c)
    (hne : q.place w.disk.workdir ≠ path.place w.disk.workdir) : v.disk.read q = .ok c := by
  cases r with
  | ok u => exact Disk.read_of_write_of_ne (disk_of_write_ok h) hread hne
  | error f => rwa [disk_of_write_error h]

/-! ### Effects -/

/-- No effect does more to the disk than to make directories and to write files. -/
lemma changes_handle (e : Effect) :
    Disk.Changes (fun _ => True) (fun _ => True) w.disk (handle authority e w).2.disk := by
  cases e with
  | makeDirectories p =>
      exact (Disk.changes_makeDirectories w.disk p).mono (fun _ _ => trivial) fun _ h => h
  | write p content =>
      cases h : w.write p content with
      | mk r v =>
          rw [handle, h]
          cases r with
          | ok u => exact Disk.changes_write (disk_of_write_ok h) trivial
          | error f =>
              rw [disk_of_write_error h]
              exact Disk.Changes.refl _ _ _
  | lookUp | read | consult | clock => exact Disk.Changes.refl _ _ _

/-- So no program does more. -/
lemma changes_trail {α : Type} (p : Program α) (w : World σ) :
    ∀ s ∈ p.trail (handle authority) w,
      Disk.Changes (fun _ => True) (fun _ => True) w.disk s.2.disk := by
  induction p generalizing w with
  | done a => exact fun s hs => absurd hs List.not_mem_nil
  | step e next ih =>
      intro s hs
      rcases List.mem_cons.mp hs with rfl | hs
      · exact changes_handle e
      · exact (changes_handle e).trans (ih _ _ s hs)

/-! ### Runs -/

section Runs

variable {α β ε : Type}

/-- A sequence goes on from where its first part succeeds. -/
lemma run_bind_of_ok {a : ExceptT ε Program α} {f : α → ExceptT ε Program β} {x : α}
    (h : run authority a.run w = (.ok x, v)) :
    run authority (a >>= f).run w = run authority (f x).run v := by
  have h' : Program.run (handle authority) (a : Program (Except ε α)) w = (.ok x, v) := h
  refine (Program.run_bind _ _ _ _).trans ?_
  rw [h']
  rfl

/-- It ends where its first part fails. -/
lemma run_bind_of_error {a : ExceptT ε Program α} {f : α → ExceptT ε Program β} {e : ε}
    (h : run authority a.run w = (.error e, v)) :
    run authority (a >>= f).run w = (.error e, v) := by
  have h' : Program.run (handle authority) (a : Program (Except ε α)) w = (.error e, v) := h
  refine (Program.run_bind _ _ _ _).trans ?_
  rw [h']
  rfl

/-- Parts that change nothing hand their answers on, and so change nothing in a sequence. -/
lemma run_bind_of_answers {a : ExceptT ε Program α} {f : α → ExceptT ε Program β} {r : Except ε α}
    {s : α → Except ε β} (ha : run authority a.run w = (r, w))
    (hf : ∀ x, run authority (f x).run w = (s x, w)) :
    run authority (a >>= f).run w = (r >>= s, w) := by
  cases r with
  | ok x => rw [run_bind_of_ok ha, hf]; rfl
  | error e => rw [run_bind_of_error ha]; rfl

/-- A pure end does nothing. -/
lemma snd_run_bind_pure {a : ExceptT ε Program α} {f : α → β} :
    (run authority (a >>= fun x => pure (f x)).run w).2 = (run authority a.run w).2 := by
  cases h : (run authority a.run w).1 with
  | ok x =>
      rw [run_bind_of_ok (Prod.ext h rfl)]
      rfl
  | error e => rw [run_bind_of_error (Prod.ext h rfl)]

lemma run_lift (p : Program α) :
    run authority (ExceptT.lift p : ExceptT ε Program α).run w =
      (.ok (run authority p w).1, (run authority p w).2) :=
  Program.run_bind _ p _ w

lemma run_orFail {r : Except Error α} {x : α} (h : r = .ok x) :
    run authority (Action.orFail r).run w = (.ok x, w) := by
  rw [h]
  rfl

/-- The answer to one effect is a result. -/
lemma run_perform (e : Effect) {answer : e.Answer} (h : handle authority e w = (answer, v)) :
    run authority (Action.of (.perform e)).run w = (.ok answer, v) := by
  have hanswer : run authority (Action.of (.perform e)).run w =
      (.ok (handle authority e w).1, (handle authority e w).2) := rfl
  rwa [h] at hanswer

lemma run_consult {call : Call} {text : String} {s : σ}
    (h : authority.answer w.now call (w.states 0) = (.ok text, s)) :
    run authority (Action.consult call).run w = (.ok text, w.setState 0 s) :=
  run_bind_of_ok (run_perform (.consult 0 call) (by rw [handle, h]))

lemma run_consult_of_error {call : Call} {e : Error} {s : σ}
    (h : authority.answer w.now call (w.states 0) = (.error e, s)) :
    run authority (Action.consult call).run w = (.error e, w.setState 0 s) :=
  run_bind_of_ok (run_perform (.consult 0 call) (by rw [handle, h]))

/-- A file that holds a text is read for a signer. -/
lemma run_readSigner {bs : Bytes} {text : String} (hread : w.disk.read path = .ok bs)
    (htext : bs.text? = some text) :
    run authority (Signer.readFile path).run w = (.ok text, w) := by
  have hanswer : run authority (Action.of (Action.text <$> .perform (.read path))).run w =
      (.ok (Action.text (w.disk.read path)), w) := rfl
  rw [hread, Action.text, htext] at hanswer
  exact run_bind_of_ok hanswer

/-- Directories are made. -/
lemma run_makeDirectories {d : Disk} (h : w.disk.makeDirectories path = (.ok (), d)) :
    run authority (Action.makeDirectories path).run w = (.ok (), { w with disk := d }) := by
  have he : handle authority (.makeDirectories path) w = (.ok (), { w with disk := d }) := by
    simp only [handle, h]
  exact run_bind_of_ok (run_perform _ he)

/-- A file is written. -/
lemma run_write (h : w.write path content = (.ok (), v)) :
    run authority (Action.write path content).run w = (.ok (), v) :=
  run_bind_of_ok (run_perform (.write path content) h)

/-- Whether it is written or not, the world is left as the write leaves it. -/
lemma snd_run_write :
    (run authority (Action.write path content).run w).2 = (w.write path content).2 := by
  cases h : (w.write path content).1 with
  | ok u => rw [run_write (Prod.ext h rfl)]
  | error f =>
      exact congrArg Prod.snd
        (run_bind_of_ok (run_perform (.write path content) (Prod.ext h rfl)))

/-- A look-up only answers. -/
lemma run_lookUp (path : Path) : run authority (Action.of (.perform (.lookUp path))).run w =
    (.ok ((w.disk.lookUp path).map Entry.kind), w) :=
  run_perform (.lookUp path) rfl

end Runs

end World

namespace Action

variable {σ α : Type} {authority : Authority σ} {I : Effect → World σ → Prop}
  {E : Error → World σ → Prop} {w : World σ} {path : Path}

namespace Always

/-- One effect, whose answer is the result. -/
lemma perform {e : Effect} {Q : e.Answer → World σ → Prop} {answer : e.Answer} {v : World σ}
    (he : World.handle authority e w = (answer, v)) (hI : I e v) (hQ : Q answer v) :
    Always (World.handle authority) I Q E (Action.of (.perform e)) w := by
  refine of (Program.Always.step ?_ (Program.Always.done ?_))
  · rw [he]
    exact hI
  · rw [he]
    exact hQ

/-- Whether something is found at a path. -/
lemma exists? {Q : Bool → World σ → Prop} (hI : I (.lookUp path) w)
    (hfound : ∀ e, w.disk.lookUp path = .ok e → Q true w)
    (hmissing : ∀ f, w.disk.lookUp path = .error f → Q false w) :
    Always (World.handle authority) I Q E (Action.exists? path) w := by
  cases h : w.disk.lookUp path with
  | ok e => exact bind (perform (by rw [World.handle, h, Except.map]) hI (pure (hfound e h)))
  | error f => exact bind (perform (by rw [World.handle, h, Except.map]) hI (pure (hmissing f h)))

/-- Directories are made; on a failure some may have been. Nothing but the disk changes. -/
lemma makeDirectories_at {Q : Unit → World σ → Prop}
    (hok : ∀ d, w.disk.makeDirectories path = (.ok (), d) →
      I (.makeDirectories path) { w with disk := d } ∧ Q () { w with disk := d })
    (herr : ∀ f d, w.disk.makeDirectories path = (.error f, d) →
      I (.makeDirectories path) { w with disk := d } ∧ E (.io path f) { w with disk := d }) :
    Always (World.handle authority) I Q E (Action.makeDirectories path) w := by
  cases h : w.disk.makeDirectories path with
  | mk r d =>
      have he : World.handle authority (.makeDirectories path) w = (r, { w with disk := d }) := by
        simp only [World.handle, h]
      cases r with
      | ok u =>
          obtain ⟨hI, hQ⟩ := hok d h
          exact bind (perform he hI (pure hQ))
      | error f =>
          obtain ⟨hI, hE⟩ := herr f d h
          exact bind (perform he hI (throw hE))

lemma makeDirectories {Q : Unit → World σ → Prop}
    (hok : ∀ v : World σ, w.disk.makeDirectories path = (.ok (), v.disk) →
      I (.makeDirectories path) v ∧ Q () v)
    (herr : ∀ (f : IoFailure) (v : World σ), w.disk.makeDirectories path = (.error f, v.disk) →
      I (.makeDirectories path) v ∧ E (.io path f) v) :
    Always (World.handle authority) I Q E (Action.makeDirectories path) w :=
  makeDirectories_at (fun _ h => hok _ h) fun f _ h => herr f _ h

/-- A file is written, or the disk stays as it was. -/
lemma write {content : Bytes} {Q : Unit → World σ → Prop}
    (hok : ∀ v : World σ, w.disk.write path content = .ok v.disk →
      I (.write path content) v ∧ Q () v)
    (herr : ∀ (f : IoFailure) (v : World σ), v.disk = w.disk →
      I (.write path content) v ∧ E (.io path f) v) :
    Always (World.handle authority) I Q E (Action.write path content) w := by
  cases h : w.write path content with
  | mk r v =>
      have he : World.handle authority (.write path content) w = (r, v) := h
      cases r with
      | ok u =>
          obtain ⟨hI, hQ⟩ := hok v (World.disk_of_write_ok h)
          exact bind (perform he hI (pure hQ))
      | error f =>
          obtain ⟨hI, hE⟩ := herr f v (World.disk_of_write_error h)
          exact bind (perform he hI (throw hE))

/-- The authority answers; the disk stays as it was. -/
lemma consult {call : Call} {Q : String → World σ → Prop}
    (hok : ∀ (text : String) (v : World σ), authority.Answers call (.ok text) →
      v.disk = w.disk → I (.consult 0 call) v ∧ Q text v)
    (herr : ∀ (e : Error) (v : World σ), authority.Answers call (.error e) →
      v.disk = w.disk → I (.consult 0 call) v ∧ E e v) :
    Always (World.handle authority) I Q E (Action.consult call) w := by
  have hanswers : authority.Answers call (authority.answer w.now call (w.states 0)).1 :=
    ⟨_, _, rfl⟩
  set v := w.setState 0 (authority.answer w.now call (w.states 0)).2 with hv
  have he : World.handle authority (.consult 0 call) w =
      ((authority.answer w.now call (w.states 0)).1, v) := rfl
  cases h : (authority.answer w.now call (w.states 0)).1 with
  | ok text =>
      rw [h] at hanswers he
      obtain ⟨hI, hQ⟩ := hok text v hanswers rfl
      exact bind (perform he hI (Program.Always.done hQ))
  | error e =>
      rw [h] at hanswers he
      obtain ⟨hI, hE⟩ := herr e v hanswers rfl
      exact bind (perform he hI (Program.Always.done hE))

/-- A file of a signer is read; one that cannot be read is no fault of the file system's. -/
lemma readSigner {Q : String → World σ → Prop} (hI : I (.read path) w)
    (hok : ∀ bs text, w.disk.read path = .ok bs → bs.text? = some text → Q text w)
    (herr : ∀ f, w.disk.read path = .error f ∨
        f = .notText ∧ (∃ bs, w.disk.read path = .ok bs ∧ bs.text? = none) →
      E (.crypto .signerConstruction (.unreadable path f)) w) :
    Always (World.handle authority) I Q E (Signer.readFile path) w := by
  refine bind (of (Program.Always.map (Program.Always.step hI (Program.Always.done ?_))))
  simp only [World.handle]
  cases h : w.disk.read path with
  | error f => exact throw (herr f (Or.inl h))
  | ok bs =>
      cases ht : bs.text? with
      | none =>
          simp only [Action.text, ht]
          exact throw (herr .notText (Or.inr ⟨rfl, bs, h, ht⟩))
      | some text =>
          simp only [Action.text, ht]
          exact pure (hok bs text h ht)

end Always

end Action

end LabTrust
