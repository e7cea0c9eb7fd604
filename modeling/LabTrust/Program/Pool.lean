/-
Programs that take turns.

`Program.interleave` makes one program of many: a schedule says whose effect comes next. Jobs start
in their order and at most `limit` of them are under way at a time, so the turns go round among the
first `limit` jobs that are not done. When the schedule is used up, the jobs are finished one after
the other. The results keep the order of the jobs.
-/
import LabTrust.Program

namespace LabTrust

namespace Program

variable {α : Type}

/-- Runs jobs one after the other. -/
def inOrder : List (Program α) → Program (List α)
  | [] => .done []
  | p :: rest => p.bind fun a => (inOrder rest).bind fun results => .done (a :: results)

/-- A job whose turn it is: those before it, its effect and what follows, and those after it. -/
structure Turn (α : Type) where
  before : List (Program α)
  effect : Effect
  next : effect.Answer → Program α
  after : List (Program α)

/-- The turn of the job with `skip` others before it that are not done. -/
def turn? : Nat → List (Program α) → Option (Turn α)
  | _, [] => none
  | skip, .done a :: rest =>
    (turn? skip rest).map fun t => { t with before := .done a :: t.before }
  | 0, .step e next :: rest => some ⟨[], e, next, rest⟩
  | skip + 1, .step e next :: rest =>
    (turn? skip rest).map fun t => { t with before := .step e next :: t.before }

/-- Jobs that take turns. A turn of a job beyond the limit, or of none, passes. -/
def interleave (limit : Nat) : List Nat → List (Program α) → Program (List α)
  | [], jobs => inOrder jobs
  | k :: schedule, jobs =>
    if k < limit then
      match turn? k jobs with
      | some t =>
        .step t.effect fun answer => interleave limit schedule (t.before ++ t.next answer :: t.after)
      | none => interleave limit schedule jobs
    else interleave limit schedule jobs

/-- Each job with random values of its own; they are numbered from `source`. -/
def withSources : Nat → List (Program α) → List (Program α)
  | _, [] => []
  | source, p :: rest => p.drawFrom source :: withSources (source + 1) rest

/-- Without a schedule the jobs run one after the other. -/
theorem interleave_nil (limit : Nat) (jobs : List (Program α)) :
    interleave limit [] jobs = inOrder jobs := rfl

end Program

end LabTrust
