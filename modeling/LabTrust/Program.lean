/-
Programs that work on files, ask an authority and look at the clock.

A program is a value: it says which effect comes next and how it goes on from the answer. What the
effects do is said by a handler.
* `Program.run`: what a program returns, and the state it leaves, under a handler.
* `Program.run_bind`: first one program, then the next.
* `Action`: a program that may fail with an `Error`.
-/
import LabTrust.Authority
import LabTrust.Disk

namespace LabTrust

/-- What a program asks of its surroundings. -/
inductive Effect where
  /-- What lies at a path. -/
  | lookUp (path : Path)
  /-- The content of a file. -/
  | read (path : Path)
  /-- A directory and those above it. -/
  | makeDirectories (path : Path)
  /-- A file with this content. -/
  | write (path : Path) (content : Bytes)
  /-- An authority's answer; each source has its own random values. -/
  | consult (source : Nat) (call : Call)
  /-- The time. -/
  | clock

/-- What an entry is, whatever it holds. -/
inductive EntryKind where
  | directory
  | file
  deriving DecidableEq, Inhabited

/-- What an entry is. -/
def Entry.kind : Entry → EntryKind
  | .directory => .directory
  | .file _ => .file

/-- The answer to an effect. -/
@[reducible] def Effect.Answer : Effect → Type
  | lookUp _ => Except IoFailure EntryKind
  | read _ => Except IoFailure Bytes
  | makeDirectories _ => Except IoFailure Unit
  | write _ _ => Except IoFailure Unit
  | consult _ _ => Except Error String
  | clock => Instant

/-- A program: its result, or an effect and what follows from the answer. -/
inductive Program (α : Type) where
  | done (result : α)
  | step (effect : Effect) (next : effect.Answer → Program α)

namespace Program

/-- The program that performs one effect. -/
def perform (e : Effect) : Program e.Answer := .step e .done

/-- First one program, then the one that its result calls for. -/
def bind {α β : Type} : Program α → (α → Program β) → Program β
  | done a, f => f a
  | step e next, f => .step e fun answer => (next answer).bind f

instance : Monad Program where
  pure := .done
  bind := .bind

/-- Programs compose like functions. -/
theorem bind_assoc {α β γ : Type} (p : Program α) (f : α → Program β) (g : β → Program γ) :
    (p.bind f).bind g = p.bind fun a => (f a).bind g := by
  induction p with
  | done a => rfl
  | step e next ih => simp only [bind, ih]

/-- Ending with the result itself adds nothing. -/
theorem bind_done {α : Type} (p : Program α) : p.bind .done = p := by
  induction p with
  | done a => rfl
  | step e next ih => simp only [bind, ih]

instance : LawfulMonad Program :=
  LawfulMonad.mk' Program bind_done (fun _ _ => rfl) bind_assoc

/-- What effects do to a state. -/
abbrev Handler (ω : Type) := (e : Effect) → ω → e.Answer × ω

/-- The result of a program, and the state it leaves. -/
def run {ω α : Type} (handler : Handler ω) : Program α → ω → α × ω
  | done a, w => (a, w)
  | step e next, w => (next (handler e w).1).run handler (handler e w).2

/-- A sequence of programs runs one after the other. -/
theorem run_bind {ω α β : Type} (handler : Handler ω) (p : Program α) (f : α → Program β) (w : ω) :
    (p.bind f).run handler w = (f (p.run handler w).1).run handler (p.run handler w).2 := by
  induction p generalizing w with
  | done a => rfl
  | step e next ih => exact ih _ _

/-- The program that takes its random values from another source. -/
def drawFrom {α : Type} (source : Nat) : Program α → Program α
  | done a => done a
  | step (.consult _ call) next => step (.consult source call) fun a => (next a).drawFrom source
  | step (.lookUp p) next => step (.lookUp p) fun a => (next a).drawFrom source
  | step (.read p) next => step (.read p) fun a => (next a).drawFrom source
  | step (.makeDirectories p) next => step (.makeDirectories p) fun a => (next a).drawFrom source
  | step (.write p b) next => step (.write p b) fun a => (next a).drawFrom source
  | step .clock next => step .clock fun a => (next a).drawFrom source

end Program

/-! ### Programs that may fail -/

/-- A program that may fail. -/
abbrev Action (α : Type) := ExceptT Error Program α

namespace Action

/-- The result of a program that cannot fail. -/
def of {α : Type} (p : Program α) : Action α := ExceptT.lift p

/-- A result that is known, or a failure. -/
def orFail {α : Type} (r : Except Error α) : Action α := ExceptT.mk (.done r)

/-- A program that does not fail: it gives the failure as its result. -/
def attempt {α : Type} (a : Action α) : Program (Except Error α) := ExceptT.run a

/-- An answer of the file system about a path, or its refusal. -/
def ofAnswer {α : Type} (path : Path) (p : Program (Except IoFailure α)) : Action α := do
  match ← of p with
  | .ok a => return a
  | .error failure => throw (.io path failure)

/-- Whether something lies at a path. A refused look-up counts as nothing. -/
def exists? (path : Path) : Action Bool := do
  match ← of (.perform (.lookUp path)) with
  | .ok _ => return true
  | .error _ => return false

/-- The text of a file, as far as it is one. -/
def text (content : Except IoFailure Bytes) : Except IoFailure String :=
  match content with
  | .ok bs => match bs.text? with
    | some s => .ok s
    | none => .error .notText
  | .error failure => .error failure

/-- Reads the text of a file. -/
def readText (path : Path) : Action String :=
  ofAnswer path (text <$> .perform (.read path))

/-- Makes a directory and those above it. -/
def makeDirectories (path : Path) : Action Unit :=
  ofAnswer path (.perform (.makeDirectories path))

/-- Writes a file. -/
def write (path : Path) (content : Bytes) : Action Unit :=
  ofAnswer path (.perform (.write path content))

/-- Asks the authority. -/
def consult (call : Call) : Action String := do
  orFail (← of (.perform (.consult 0 call)))

end Action

end LabTrust
