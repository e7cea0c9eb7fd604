/-
What holds all along a program.

A handler carries a program from effect to effect. The claims about labs speak of every state on
that way, not only of the last one, so the way itself is a list:
* `Program.trail`: the effects that a program performs, each with the state that it leaves;
  `trail_bind` cuts the trail of a sequence into those of its parts.
* `Program.Always I Q`: every effect and the state after it satisfy `I`, and the end satisfies `Q`.
  `Always.bind` is the rule for sequences.
* `Action.Always I Q E`: the same for a program that may fail, with `E` for failures.

The rules for single effects on a world close the module: each leaves two goals, one for each way
in which the file system may answer.
-/
import LabTrust.Program.World
import Mathlib.Tactic.Common

namespace LabTrust

/-! ### Trails -/

namespace Program

variable {ω α β : Type} {handler : Handler ω} {I J : Effect → ω → Prop}

/-- The effects that a program performs, each with the state that it leaves. -/
def trail (handler : Handler ω) : Program α → ω → List (Effect × ω)
  | done _, _ => []
  | step e next, w =>
    (e, (handler e w).2) :: (next (handler e w).1).trail handler (handler e w).2

/-- The states that a program passes through, the first one included. -/
def states (handler : Handler ω) (p : Program α) (w : ω) : List ω :=
  w :: (p.trail handler w).map Prod.snd

/-- The last state is passed too. -/
lemma run_mem_states (handler : Handler ω) (p : Program α) (w : ω) :
    (p.run handler w).2 ∈ p.states handler w := by
  induction p generalizing w with
  | done a => exact List.mem_singleton_self w
  | step e next ih => exact List.mem_cons_of_mem w (ih _ _)

/-- The trail of a sequence is that of the first program, then that of the second. -/
lemma trail_bind (p : Program α) (f : α → Program β) (w : ω) :
    (p.bind f).trail handler w =
      p.trail handler w ++ (f (p.run handler w).1).trail handler (p.run handler w).2 := by
  induction p generalizing w with
  | done a => rfl
  | step e next ih =>
      rw [bind, trail, ih, trail]
      rfl

/-- Every effect of a program and the state after it satisfy `I`, and its end satisfies `Q`. -/
structure Always (handler : Handler ω) (I : Effect → ω → Prop) (Q : α → ω → Prop)
    (p : Program α) (w : ω) : Prop where
  along : ∀ s ∈ p.trail handler w, I s.1 s.2
  atEnd : Q (p.run handler w).1 (p.run handler w).2

namespace Always

variable {Q R : α → ω → Prop} {p : Program α} {w : ω}

lemma done {a : α} (h : Q a w) : Always handler I Q (.done a) w :=
  ⟨fun _ hs => absurd hs (by simp [trail]), h⟩

/-- An effect, and then the rest from its answer. -/
lemma step {e : Effect} {next : e.Answer → Program α} (hI : I e (handler e w).2)
    (h : Always handler I Q (next (handler e w).1) (handler e w).2) :
    Always handler I Q (.step e next) w := by
  refine ⟨fun s hs => ?_, h.atEnd⟩
  rcases List.mem_cons.mp hs with rfl | hs
  · exact hI
  · exact h.along s hs

/-- The rule for sequences. -/
lemma bind {Q : β → ω → Prop} {f : α → Program β}
    (h : Always handler I (fun a v => Always handler I Q (f a) v) p w) :
    Always handler I Q (p.bind f) w := by
  refine ⟨fun s hs => ?_, ?_⟩
  · rw [trail_bind] at hs
    rcases List.mem_append.mp hs with hs | hs
    · exact h.along s hs
    · exact h.atEnd.along s hs
  · rw [run_bind]
    exact h.atEnd.atEnd

lemma map {Q : β → ω → Prop} {f : α → β} (h : Always handler I (fun a v => Q (f a) v) p w) :
    Always handler I Q (f <$> p) w :=
  bind ⟨h.along, done h.atEnd⟩

/-- What holds all along may be weakened. -/
lemma mono (h : Always handler I Q p w) (hI : ∀ e v, I e v → J e v) (hQ : ∀ a v, Q a v → R a v) :
    Always handler J R p w :=
  ⟨fun s hs => hI _ _ (h.along s hs), hQ _ _ h.atEnd⟩

end Always

end Program

/-! ### Programs that may fail -/

namespace Action

open Program (Handler)

variable {ω α β : Type} {handler : Handler ω} {I J : Effect → ω → Prop}

/-- What holds after a result, and what holds after a failure. -/
def Ends (Q : α → ω → Prop) (E : Error → ω → Prop) : Except Error α → ω → Prop
  | .ok a, w => Q a w
  | .error e, w => E e w

/-- Every effect of a program that may fail satisfies `I`, its results `Q` and its failures `E`. -/
def Always (handler : Handler ω) (I : Effect → ω → Prop) (Q : α → ω → Prop)
    (E : Error → ω → Prop) (a : Action α) (w : ω) : Prop :=
  Program.Always handler I (Ends Q E) a.run w

namespace Always

variable {Q R : α → ω → Prop} {E F : Error → ω → Prop} {a : Action α} {w : ω}

lemma pure {x : α} (h : Q x w) : Always handler I Q E (Pure.pure x : Action α) w :=
  Program.Always.done h

lemma throw {e : Error} (h : E e w) :
    Always handler I Q E (MonadExcept.throw e : Action α) w :=
  Program.Always.done h

lemma orFail {r : Except Error α} (hok : ∀ x, r = .ok x → Q x w)
    (herr : ∀ e, r = .error e → E e w) : Always handler I Q E (Action.orFail r) w := by
  cases r with
  | ok x => exact Program.Always.done (hok x rfl)
  | error e => exact Program.Always.done (herr e rfl)

/-- A program that cannot fail. -/
lemma of {p : Program α} (h : Program.Always handler I Q p w) :
    Always handler I Q E (Action.of p) w :=
  Program.Always.map (Q := Ends Q E) h

/-- The rule for sequences: a failure of the first program ends the second. -/
lemma bind {Q : β → ω → Prop} {f : α → Action β}
    (h : Always handler I (fun x v => Always handler I Q E (f x) v) E a w) :
    Always handler I Q E (a >>= f) w := by
  refine Program.Always.bind (Program.Always.mono h (fun _ _ hI => hI) fun r v hr => ?_)
  cases r with
  | ok x => exact hr
  | error e => exact Program.Always.done hr

lemma map {Q : β → ω → Prop} {f : α → β} (h : Always handler I (fun x v => Q (f x) v) E a w) :
    Always handler I Q E (f <$> a) w := by
  refine Program.Always.bind (Program.Always.mono h (fun _ _ hI => hI) fun r v hr => ?_)
  cases r with
  | ok x => exact Program.Always.done hr
  | error e => exact Program.Always.done hr

lemma mono (h : Always handler I Q E a w) (hI : ∀ e v, I e v → J e v)
    (hQ : ∀ x v, Q x v → R x v) (hE : ∀ e v, E e v → F e v) : Always handler J R F a w := by
  refine Program.Always.mono h hI fun r v hr => ?_
  cases r with
  | ok x => exact hQ x v hr
  | error e => exact hE e v hr

/-- A result is that of the run. -/
lemma withRun (h : Always handler I Q E a w) :
    Always handler I (fun x v => Q x v ∧ a.run.run handler w = (.ok x, v)) E a w := by
  refine ⟨h.along, ?_⟩
  have hend := h.atEnd
  cases hr : a.run.run handler w with
  | mk r v =>
      rw [hr] at hend
      cases r with
      | ok x => exact ⟨hend, rfl⟩
      | error e => exact hend

/-- What a run that gave a result left. -/
lemma of_ok (h : Always handler I Q E a w) {x : α} {v : ω} (hr : a.run.run handler w = (.ok x, v)) :
    Q x v := by
  have hend := h.atEnd
  rw [hr] at hend
  exact hend

/-- What a run that failed left. -/
lemma of_error (h : Always handler I Q E a w) {e : Error} {v : ω}
    (hr : a.run.run handler w = (.error e, v)) : E e v := by
  have hend := h.atEnd
  rw [hr] at hend
  exact hend

end Always

end Action

end LabTrust
