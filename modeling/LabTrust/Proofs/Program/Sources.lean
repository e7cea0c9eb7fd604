/-
Where random values come from.

The programs of a lab take all their random values from one source, so what they do next to each
other hangs on who comes first. Jobs that take turns have a source each.
* `Program.Only`: all effects that a program may come to perform are of one kind.
* `Program.run_drawFrom`: a program does the same with another source that gives the same values.
* `Program.inOrder_withSources`: jobs with a source each, one after the other, do what they do with
  one source, if each finds there what it would find in the one.
-/
import LabTrust.Program.Pool
import LabTrust.Program.World
import LabTrust.Store.Files
import Mathlib.Tactic.Common

namespace LabTrust

/-! ### Effects of one kind -/

namespace Program

variable {α β : Type} {P : Effect → Prop}

/-- All effects that the program may come to perform are of one kind. -/
inductive Only (P : Effect → Prop) : Program α → Prop where
  | done (a : α) : Only P (.done a)
  | step {e : Effect} {next : e.Answer → Program α} (he : P e)
      (hnext : ∀ answer, Only P (next answer)) : Only P (.step e next)

namespace Only

lemma perform {e : Effect} (h : P e) : Only P (Program.perform e) := .step h fun _ => .done _

lemma bind {p : Program α} {f : α → Program β} (hp : Only P p) (hf : ∀ a, Only P (f a)) :
    Only P (p.bind f) := by
  induction hp with
  | done a => exact hf a
  | step he _ ih => exact .step he ih

lemma map {p : Program α} (hp : Only P p) (f : α → β) : Only P (f <$> p) :=
  hp.bind fun _ => .done _

end Only

end Program

namespace Action

variable {α β : Type} {P : Effect → Prop}

/-- All effects that the program may come to perform are of one kind. -/
def Only (P : Effect → Prop) (a : Action α) : Prop := Program.Only P a.run

namespace Only

lemma pure (x : α) : Only P (Pure.pure x : Action α) := .done _

lemma throw (e : Error) : Only P (MonadExcept.throw e : Action α) := .done _

lemma orFail (r : Except Error α) : Only P (Action.orFail r) := .done _

lemma of {p : Program α} (h : p.Only P) : Only P (Action.of p) := h.map _

lemma bind {a : Action α} {f : α → Action β} (ha : Only P a) (hf : ∀ x, Only P (f x)) :
    Only P (a >>= f) := by
  refine Program.Only.bind ha fun r => ?_
  cases r with
  | ok x => exact hf x
  | error e => exact .done _

lemma map {a : Action α} (ha : Only P a) (f : α → β) : Only P (f <$> a) :=
  Program.Only.bind ha fun r => by
    cases r with
    | ok x => exact .done _
    | error e => exact .done _

lemma exists? (path : Path) (h : P (.lookUp path)) : Only P (Action.exists? path) :=
  (of (.perform h)).bind fun r => by
    cases r with
    | ok e => exact pure true
    | error f => exact pure false

lemma makeDirectories (path : Path) (h : P (.makeDirectories path)) :
    Only P (Action.makeDirectories path) :=
  (of (.perform h)).bind fun r => by
    cases r with
    | ok u => exact pure u
    | error f => exact throw _

lemma write (path : Path) (content : Bytes) (h : P (.write path content)) :
    Only P (Action.write path content) :=
  (of (.perform h)).bind fun r => by
    cases r with
    | ok u => exact pure u
    | error f => exact throw _

lemma consult (call : Call) (h : P (.consult 0 call)) : Only P (Action.consult call) :=
  (of (.perform h)).bind fun r => orFail r

end Only

end Action

/-! ### The usual source -/

/-- The effect takes its random values, if it needs some, from the usual source. -/
def Effect.IsUsual : Effect → Prop
  | .consult source _ => source = 0
  | _ => True

/-- The second world is as the first, and one of its sources gives what the usual one of the first
gives. -/
structure World.Lends {σ : Type} (source : ℕ) (w w' : World σ) : Prop where
  disk : w'.disk = w.disk
  now : w'.now = w.now
  refusals : w'.refusals = w.refusals
  state : w'.states source = w.states 0

namespace World.Lends

variable {σ : Type} {source : ℕ} {w w' : World σ}

lemma handle (authority : Authority σ) (h : w.Lends source w') {e : Effect}
    (he : ∀ i call, e ≠ .consult i call) :
    (World.handle authority e w').1 = (World.handle authority e w).1 ∧
      (World.handle authority e w).2.Lends source (World.handle authority e w').2 ∧
        (World.handle authority e w').2.states = w'.states := by
  obtain ⟨hdisk, hnow, hrefusals, hstate⟩ := h
  cases e with
  | lookUp p => exact ⟨by simp only [World.handle, hdisk], ⟨hdisk, hnow, hrefusals, hstate⟩, rfl⟩
  | read p => exact ⟨by simp only [World.handle, hdisk], ⟨hdisk, hnow, hrefusals, hstate⟩, rfl⟩
  | makeDirectories p =>
      simp only [World.handle, hdisk]
      exact ⟨trivial, ⟨rfl, hnow, hrefusals, hstate⟩, trivial⟩
  | write p content =>
      simp only [World.handle, World.write, hdisk, hrefusals]
      split
      · exact ⟨rfl, ⟨rfl, hnow, rfl, hstate⟩, rfl⟩
      · split
        · exact ⟨rfl, ⟨rfl, hnow, rfl, hstate⟩, rfl⟩
        · exact ⟨rfl, ⟨rfl, hnow, rfl, hstate⟩, rfl⟩
  | consult i call => exact absurd rfl (he i call)
  | clock => exact ⟨hnow, ⟨hdisk, hnow, hrefusals, hstate⟩, rfl⟩

lemma consult (authority : Authority σ) (h : w.Lends source w') (call : Call) :
    (World.handle authority (.consult source call) w').1 =
        (World.handle authority (.consult 0 call) w).1 ∧
      (World.handle authority (.consult 0 call) w).2.Lends source
        (World.handle authority (.consult source call) w').2 := by
  obtain ⟨hdisk, hnow, hrefusals, hstate⟩ := h
  simp only [World.handle, hnow, hstate]
  exact ⟨trivial, hdisk, hnow, hrefusals, by simp [World.setState]⟩

end World.Lends

namespace World

variable {σ α ε : Type} {authority : Authority σ} {w v : World σ}

/-- Where no write is refused, none will be. -/
lemma refusals_handle (h : w.refusals = []) (e : Effect) :
    (handle authority e w).2.refusals = [] := by
  cases e with
  | write p content =>
      simp only [handle, write, h]
      split <;> rfl
  | lookUp p => exact h
  | read p => exact h
  | makeDirectories p => exact h
  | consult i call => exact h
  | clock => exact h

lemma handle_write_of_ok {path : Path} {content : Bytes} {d : Disk} (h : w.refusals = [])
    (hwrite : w.disk.write path content = .ok d) :
    handle authority (.write path content) w = (.ok (), { w with disk := d }) := by
  simp only [handle, write, h, hwrite, List.tail_nil]

lemma handle_write_of_error {path : Path} {content : Bytes} {e : IoFailure} (h : w.refusals = [])
    (hwrite : w.disk.write path content = .error e) :
    handle authority (.write path content) w = (.error e, w) := by
  simp only [handle, write, h, hwrite, List.tail_nil]
  rw [← h]

lemma refusals_run (h : w.refusals = []) (p : Program α) :
    (run authority p w).2.refusals = [] := by
  induction p generalizing w with
  | done a => exact h
  | step e next ih => exact ih _ (refusals_handle h e)

end World

namespace Program

variable {σ α : Type} {authority : Authority σ} {source : ℕ} {w w' : World σ}

lemma drawFrom_zero {p : Program α} (hp : p.Only Effect.IsUsual) : p.drawFrom 0 = p := by
  induction hp with
  | done a => rfl
  | @step e next he _ ih =>
      cases e with
      | consult i call =>
          obtain rfl : i = 0 := he
          exact congrArg (Program.step _) (funext ih)
      | lookUp p => exact congrArg (Program.step _) (funext ih)
      | read p => exact congrArg (Program.step _) (funext ih)
      | makeDirectories p => exact congrArg (Program.step _) (funext ih)
      | write p content => exact congrArg (Program.step _) (funext ih)
      | clock => exact congrArg (Program.step _) (funext ih)

/-- A program does the same with another source that gives the same values, and leaves the other
sources alone. -/
lemma run_drawFrom (authority : Authority σ) {p : Program α} (hp : p.Only Effect.IsUsual)
    (h : w.Lends source w') :
    ((p.drawFrom source).run (World.handle authority) w').1 =
        (p.run (World.handle authority) w).1 ∧
      (p.run (World.handle authority) w).2.Lends source
        ((p.drawFrom source).run (World.handle authority) w').2 ∧
      ∀ i ≠ source,
        ((p.drawFrom source).run (World.handle authority) w').2.states i = w'.states i := by
  induction hp generalizing w w' with
  | done a => exact ⟨rfl, h, fun _ _ => rfl⟩
  | @step e next he _ ih =>
      have hother : (∀ i call, e ≠ .consult i call) →
          let v := World.handle authority e w
          let v' := World.handle authority e w'
          (((next v'.1).drawFrom source).run (World.handle authority) v'.2).1 =
              ((next v.1).run (World.handle authority) v.2).1 ∧
            ((next v.1).run (World.handle authority) v.2).2.Lends source
              (((next v'.1).drawFrom source).run (World.handle authority) v'.2).2 ∧
            ∀ i ≠ source, (((next v'.1).drawFrom source).run
              (World.handle authority) v'.2).2.states i = w'.states i := by
        intro hne v v'
        obtain ⟨hanswer, hlends, hstates⟩ := h.handle authority hne
        have hrest := ih (World.handle authority e w).1 hlends
        rw [hstates] at hrest
        rw [show v'.1 = v.1 from hanswer]
        exact hrest
      cases e with
      | consult i call =>
          obtain rfl : i = 0 := he
          obtain ⟨hanswer, hlends⟩ := h.consult authority call
          obtain ⟨hresult, hrest, hstates⟩ :=
            ih (World.handle authority (.consult 0 call) w).1 hlends
          rw [drawFrom, Program.run, Program.run, hanswer]
          refine ⟨hresult, hrest, fun j hj => (hstates j hj).trans ?_⟩
          simp [World.handle, World.setState, hj]
      | lookUp p => exact hother fun _ _ => nofun
      | read p => exact hother fun _ _ => nofun
      | makeDirectories p => exact hother fun _ _ => nofun
      | write p content => exact hother fun _ _ => nofun
      | clock => exact hother fun _ _ => nofun

/-! ### Jobs in order -/

/-- What each of some jobs finds in the usual source if they run one after the other. -/
def sourcesInOrder (authority : Authority σ) : List (Program α) → World σ → List σ
  | [], _ => []
  | p :: rest, w => w.states 0 :: sourcesInOrder authority rest (World.run authority p w).2

/-- Jobs with a source each do what they do with one source, if each finds the same there. -/
lemma inOrder_withSources {jobs : List (Program α)} (hjobs : ∀ p ∈ jobs, p.Only Effect.IsUsual)
    (hdisk : w'.disk = w.disk) (hnow : w'.now = w.now) (hrefusals : w'.refusals = w.refusals)
    (hstates : ∀ k s, (sourcesInOrder authority jobs w)[k]? = some s →
      w'.states (source + k) = s) :
    ((inOrder (withSources source jobs)).run (World.handle authority) w').1 =
        ((inOrder jobs).run (World.handle authority) w).1 ∧
      ((inOrder (withSources source jobs)).run (World.handle authority) w').2.disk =
        ((inOrder jobs).run (World.handle authority) w).2.disk := by
  induction jobs generalizing source w w' with
  | nil => exact ⟨rfl, hdisk⟩
  | cons p rest ih =>
      have hlends : w.Lends source w' := ⟨hdisk, hnow, hrefusals, hstates 0 _ rfl⟩
      obtain ⟨hresult, hlends', hothers⟩ :=
        run_drawFrom authority (hjobs p List.mem_cons_self) hlends
      obtain ⟨hresults, hdisks⟩ := @ih (source + 1) _ _
        (fun q hq => hjobs q (List.mem_cons_of_mem p hq)) hlends'.disk hlends'.now hlends'.refusals
        fun k s hs => by
          rw [hothers _ (by omega), Nat.add_assoc, Nat.add_comm 1 k]
          exact hstates (k + 1) s hs
      simp only [withSources, inOrder, run_bind, Program.run, hresult, hresults]
      exact ⟨trivial, hdisks⟩

end Program

end LabTrust
