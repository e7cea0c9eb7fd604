/-
The course of a call for a node.

Whatever it is answered, a call for a node reads the two files of the root and asks, then makes the
directory of the node, and after that writes files of the node only. If the directory is refused,
the call ends at once.
* `Program.Writes`: all effects are writes of files of a triple.
* `Program.Issues`: the course of a call for a node that asks some source.
* `Lab.issues_tryNode`: calls for nodes go like this.
* `Lab.only_tryNode`, `only_ensureRoot`: all calls of a lab ask one source.
-/
import LabTrust.Proofs.Lab.Apart
import LabTrust.Proofs.Lab.Stages
import LabTrust.Proofs.Program.Sources

namespace LabTrust

variable {α β : Type} {lab : Lab} {name : String} {source : ℕ}

/-- The directory of a node in a lab. -/
def Lab.home (lab : Lab) (name : String) : Path :=
  Triple.nodeDirectory lab.layout.nodesDirectory name

namespace Program

/-- All effects are writes of files of a triple. -/
inductive Writes (files : Triple) : Program α → Prop where
  | done (a : α) : Writes files (.done a)
  | write {p : Path} {content : Bytes} {next : Except IoFailure Unit → Program α}
      (hp : p ∈ files.paths) (hnext : ∀ r, Writes files (next r)) :
      Writes files (.step (.write p content) next)

/-- The course of a call for a node: reading and asking, then making its directory, then writing. -/
inductive Issues (lab : Lab) (name : String) (source : ℕ) (refused : IoFailure → α) :
    Program α → Prop where
  | done (a : α) : Issues lab name source refused (.done a)
  | read {p : Path} {next : Except IoFailure Bytes → Program α}
      (hp : p = lab.rootFiles.certificate ∨ p = lab.rootFiles.key)
      (hnext : ∀ r, Issues lab name source refused (next r)) :
      Issues lab name source refused (.step (.read p) next)
  | consult {call : Call} {next : Except Error String → Program α}
      (hnext : ∀ r, Issues lab name source refused (next r)) :
      Issues lab name source refused (.step (.consult source call) next)
  | house {next : Except IoFailure Unit → Program α} (hname : checkName name = .ok ())
      (hok : (next (.ok ())).Writes (lab.nodeFiles name))
      (herr : ∀ f, next (.error f) = .done (refused f)) :
      Issues lab name source refused (.step (.makeDirectories (lab.home name)) next)

lemma Writes.drawFrom {files : Triple} {p : Program α} (h : p.Writes files) :
    (p.drawFrom source).Writes files := by
  induction h with
  | done a => exact .done a
  | write hp _ ih => exact .write hp ih

lemma Writes.bind {files : Triple} {p : Program α} {f : α → Program β} (h : p.Writes files)
    (hf : ∀ a, (f a).Writes files) : (p.bind f).Writes files := by
  induction h with
  | done a => exact hf a
  | write hp _ ih => exact .write hp ih

lemma Writes.only {files : Triple} {p : Program α} (h : p.Writes files) :
    p.Only Effect.IsUsual := by
  induction h with
  | done a => exact .done a
  | write hp _ ih => exact .step trivial ih

namespace Issues

variable {refused : IoFailure → α} {p : Program α}

lemma drawFrom (h : p.Issues lab name 0 refused) :
    (p.drawFrom source).Issues lab name source refused := by
  induction h with
  | done a => exact .done a
  | read hp _ ih => exact .read hp ih
  | consult _ ih => exact .consult ih
  | house hname hok herr =>
      refine .house hname hok.drawFrom fun f => ?_
      rw [herr]
      rfl

lemma map (h : p.Issues lab name source refused) (f : α → β) :
    (p.bind fun a => .done (f a)).Issues lab name source (f ∘ refused) := by
  induction h with
  | done a => exact .done (f a)
  | read hp _ ih => exact .read hp ih
  | consult _ ih => exact .consult ih
  | house hname hok herr =>
      refine .house hname (hok.bind fun a => .done (f a)) fun e => ?_
      rw [herr]
      rfl

lemma only (h : p.Issues lab name 0 refused) : p.Only Effect.IsUsual := by
  induction h with
  | done a => exact .done a
  | read hp _ ih => exact .step trivial ih
  | consult _ ih => exact .step rfl ih
  | house hname hok herr =>
      refine .step trivial fun r => ?_
      cases r with
      | ok u => exact hok.only
      | error f =>
          rw [herr]
          exact .done _

end Issues

end Program

/-! ### Rules for calls -/

/-- The course of a call that ends with a failure of its directory if this is refused. -/
def Action.Issues (lab : Lab) (name : String) (a : Action β) : Prop :=
  a.run.Issues lab name 0 fun f => .error (.io (lab.home name) f)

namespace Action.Issues

open Program (Writes)

variable {f : α → Action β}

lemma orFail {r : Except Error α} (h : ∀ x, r = .ok x → Issues lab name (f x)) :
    Issues lab name (Action.orFail r >>= f) := by
  cases r with
  | ok x => exact h x rfl
  | error e => exact .done _

lemma readFile {p : Path} {f : String → Action β}
    (hp : p = lab.rootFiles.certificate ∨ p = lab.rootFiles.key)
    (h : ∀ text, Issues lab name (f text)) : Issues lab name (Signer.readFile p >>= f) := by
  refine Program.Issues.read hp fun r => ?_
  simp only [Program.bind, Function.comp_apply, ExceptT.bindCont]
  cases Action.text r with
  | ok text => exact h text
  | error e => exact .done _

lemma readSigner {f : Signer → Action β} (h : ∀ signer, Issues lab name (f signer)) :
    Issues lab name (Signer.read lab.rootFiles.certificate lab.rootFiles.key >>= f) := by
  simp only [Signer.read, bind_assoc, pure_bind]
  exact readFile (Or.inl rfl) fun certificate => readFile (Or.inr rfl) fun key => h _

lemma consult {call : Call} {f : String → Action β} (h : ∀ text, Issues lab name (f text)) :
    Issues lab name (Action.consult call >>= f) := by
  refine Program.Issues.consult fun r => ?_
  cases r with
  | ok text => exact h text
  | error e => exact .done _

/-- Persisting a bundle makes the directory of the node and writes its files. -/
lemma persist {b : Bundle} {f : Unit → Action β} (hname : checkName name = .ok ())
    (hf : ∀ u, (f u).run.Writes (lab.nodeFiles name)) :
    Issues lab name (discard (Store.persist b ((lab.home name).join (.ofText name))) >>= f) := by
  have hparent : ((lab.home name).join (.ofText name)).parent? = some (lab.home name) := by
    have hn := checkName_eq_ok_iff.mp hname
    rw [Path.ofText, Path.parent?_join _ hn, Lab.home, Triple.nodeDirectory, Path.ofText,
      Path.trimmed_join _ hn]
  have hpaths : (lab.nodeFiles name).paths =
      (Triple.ofPath ((lab.home name).join (.ofText name))).paths := rfl
  rw [Store.persist, hparent]
  refine Program.Issues.house hname ?_ fun e => rfl
  refine .write (hpaths ▸ List.mem_cons_self) fun r => ?_
  rcases r with e | u
  · exact .done _
  refine .write (hpaths ▸ List.mem_cons_of_mem _ List.mem_cons_self) fun r => ?_
  rcases r with e | u
  · exact .done _
  refine .write (hpaths ▸ List.mem_cons_of_mem _ (List.mem_cons_of_mem _ List.mem_cons_self))
    fun r => ?_
  rcases r with e | u
  · exact .done _
  exact hf ()

end Action.Issues

/-- Calls for leaves in a lab go their course. -/
lemma Lab.issues_issue (lab : Lab) (input : LeafInput) :
    Action.Issues lab input.name (lab.issue input) := by
  refine .orFail fun plan hplan => ?_
  obtain ⟨request, lifetime⟩ := plan
  have hname := (LeafOptions.settled_of_plan_eq_ok hplan).name
  refine .readSigner fun signer => ?_
  refine .consult fun key => .consult fun csr => .consult fun issued => ?_
  exact .persist hname fun _ => .done _

/-- Calls for nodes go like this, whichever source they ask. -/
lemma Lab.issues_tryNode (lab : Lab) (node : NodeInfo) (source : ℕ) :
    ((lab.tryNode node).drawFrom source).Issues lab node.shortName source
      fun f => ⟨node.shortName, .error (.io (lab.home node.shortName) f)⟩ :=
  ((lab.issues_issue (lab.nodeInput node)).map (Outcome.mk node.shortName)).drawFrom

/-- Calls for nodes ask the usual source. -/
lemma Lab.only_tryNode (lab : Lab) (node : NodeInfo) : (lab.tryNode node).Only Effect.IsUsual :=
  ((lab.issues_issue (lab.nodeInput node)).map (Outcome.mk node.shortName)).only

/-! ### Roots -/

lemma Store.only_persist (b : Bundle) (path : Path) :
    Action.Only Effect.IsUsual (persist b path) := by
  have hfiles : Action.Only Effect.IsUsual (do
      let files := Triple.ofPath path
      Action.write files.certificate b.certificate
      Action.write files.key b.key
      Action.write files.request b.request
      return files) :=
    .bind (.write _ _ trivial) fun _ => .bind (.write _ _ trivial) fun _ =>
      .bind (.write _ _ trivial) fun _ => .pure _
  rw [persist]
  cases path.parent? with
  | none => exact hfiles
  | some q => exact .bind (.makeDirectories q trivial) fun _ => hfiles

/-- So do calls for roots. -/
lemma only_ensureRoot (directory : Path) (template : Template) (input : RootInput) :
    Action.Only Effect.IsUsual (ensureRoot directory template input) := by
  have hcreate : Action.Only Effect.IsUsual (createRoot directory template input) := by
    refine .bind (.makeDirectories _ trivial) fun _ => ?_
    refine .bind (.orFail _) fun document => .bind (.orFail _) fun request => ?_
    refine .bind (.orFail _) fun _ => .bind (.map (.orFail _) _) fun _ => ?_
    refine .bind (.consult _ rfl) fun key => .bind (.consult _ rfl) fun csr => ?_
    refine .bind (.consult _ rfl) fun certificate => ?_
    exact .bind (Store.only_persist _ _) fun _ => .pure _
  refine .bind (.bind (.exists? _ trivial) fun found => ?_) fun complete => ?_
  · cases found with
    | true => exact .exists? _ trivial
    | false => exact .pure false
  · cases complete with
    | true => exact .pure _
    | false => exact hcreate

end LabTrust
