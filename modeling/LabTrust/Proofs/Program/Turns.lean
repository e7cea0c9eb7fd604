/-
Jobs that take turns.

Between two effects of one job any number of effects of others may come. What can be said of all
such runs is what every single effect keeps, whichever job it belongs to.
* `Program.Keeps`: a relation between a state and the jobs that are left is kept by single effects.
* `Keeps.interleave`: then it holds at the end, between the last state and the results.
-/
import LabTrust.Program.Pool
import Mathlib.Tactic.Common

namespace LabTrust.Program

variable {ω α : Type} {handler : Handler ω} {R : ω → List (Program α) → Prop}

/-- The next effect of any job keeps a relation between the state and the jobs that are left. -/
def Keeps (handler : Handler ω) (R : ω → List (Program α) → Prop) : Prop :=
  ∀ w before e next after, R w (before ++ .step e next :: after) →
    R (handler e w).2 (before ++ next (handler e w).1 :: after)

/-- A turn takes one of the jobs, and leaves those before and after it. -/
lemma eq_of_turn?_eq_some {skip : ℕ} {jobs : List (Program α)} {t : Turn α}
    (h : turn? skip jobs = some t) : jobs = t.before ++ .step t.effect t.next :: t.after := by
  induction jobs generalizing skip t with
  | nil => simp [turn?] at h
  | cons p rest ih =>
      cases p with
      | done a =>
          rw [turn?] at h
          obtain ⟨t', ht', rfl⟩ := Option.map_eq_some_iff.mp h
          exact congrArg (Program.done a :: ·) (ih ht')
      | step e next =>
          cases skip with
          | zero =>
              rw [turn?, Option.some.injEq] at h
              rw [← h]
              rfl
          | succ skip =>
              rw [turn?] at h
              obtain ⟨t', ht', rfl⟩ := Option.map_eq_some_iff.mp h
              exact congrArg (Program.step e next :: ·) (ih ht')

namespace Keeps

/-- One job after the other. -/
lemma run (h : Keeps handler R) {before after : List (Program α)} {p : Program α} {w : ω}
    (hw : R w (before ++ p :: after)) :
    R (p.run handler w).2 (before ++ .done (p.run handler w).1 :: after) := by
  induction p generalizing w with
  | done a => exact hw
  | step e next ih => exact ih _ (h w before e next after hw)

lemma inOrder (h : Keeps handler R) {jobs : List (Program α)} {results : List α} {w : ω}
    (hw : R w (results.map .done ++ jobs)) :
    R ((Program.inOrder jobs).run handler w).2
      ((results ++ ((Program.inOrder jobs).run handler w).1).map .done) := by
  induction jobs generalizing results w with
  | nil =>
      rw [List.append_nil] at hw
      rw [Program.inOrder, Program.run, List.append_nil]
      exact hw
  | cons p rest ih =>
      have hfirst := h.run hw
      have hsplit : results.map Program.done ++ .done (p.run handler w).1 :: rest =
          (results ++ [(p.run handler w).1]).map .done ++ rest := by simp
      rw [hsplit] at hfirst
      have hrest := ih hfirst
      rw [Program.inOrder, run_bind, run_bind, Program.run]
      rwa [List.append_assoc, List.singleton_append] at hrest

/-- What single effects keep holds at the end of all jobs, however they take turns. -/
lemma interleave (h : Keeps handler R) (limit : ℕ) (schedule : List ℕ)
    {jobs : List (Program α)} {w : ω} (hw : R w jobs) :
    R ((Program.interleave limit schedule jobs).run handler w).2
      (((Program.interleave limit schedule jobs).run handler w).1.map .done) := by
  induction schedule generalizing jobs w with
  | nil =>
      have hnone : R w (([] : List α).map .done ++ jobs) := hw
      exact h.inOrder hnone
  | cons k schedule ih =>
      rw [Program.interleave]
      split
      · split
        · next t ht =>
          rw [eq_of_turn?_eq_some ht] at hw
          exact ih (h w _ _ _ _ hw)
        · exact ih hw
      · exact ih hw

end Keeps

end LabTrust.Program
