/-
Sessions of calls.

Calls for roots and leaves follow one another on one disk. Nothing but the disk goes from one to the
next: each call may have an authority of its own, its own time and random values, and its own writes
that are refused. Whatever holds for all such sessions holds for those with one authority too.
* `Visit`: what a call finds around it, apart from the disk.
* `Errand`: a call with what it finds. `Errand.disks` are the disks while it runs.
* `Session.disks`, `Session.starts`: all disks of a session, those in the middle of a call included,
  and each call with the disk that it starts from.
* `Errand.changes_of_mem_disks`: all along, a call only makes directories and writes files.
* `Session.forall_disks`: what holds at the start and along each call holds all along.
-/
import LabTrust.Proofs.Lab.Stages

namespace LabTrust

variable {σ α : Type}

/-- What a call finds around it, apart from the disk. -/
structure Visit (σ : Type) where
  authority : Authority σ
  now : Instant
  states : ℕ → σ
  refusals : List (Option IoFailure)

/-- An authority that answers every call with the same text. -/
def Authority.plain : Authority Unit := ⟨fun _ _ s => (.ok "text", s)⟩

/-- What a call finds beside that authority: nothing that gets in its way. -/
def Visit.plain : Visit Unit := ⟨.plain, ⟨0, 0⟩, fun _ => (), []⟩

namespace Visit

/-- The world that a call on a disk starts from. -/
def world (v : Visit σ) (d : Disk) : World σ := ⟨d, v.now, v.states, v.refusals⟩

/-- The result of a call on a disk. -/
def result (v : Visit σ) (a : Action α) (d : Disk) : Except Error α :=
  (World.run v.authority a.run (v.world d)).1

/-- The disk that a call leaves. -/
def after (v : Visit σ) (a : Action α) (d : Disk) : Disk :=
  (World.run v.authority a.run (v.world d)).2.disk

/-- The effects that a call performs. -/
def effects (v : Visit σ) (a : Action α) (d : Disk) : List Effect :=
  (a.run.trail (World.handle v.authority) (v.world d)).map Prod.fst

/-- The disks before a call, after each of its effects, and so at its end. -/
def disks (v : Visit σ) (a : Action α) (d : Disk) : List Disk :=
  (a.run.states (World.handle v.authority) (v.world d)).map World.disk

variable {v : Visit σ} {a : Action α} {d : Disk} {I : Effect → World σ → Prop}
  {Q : α → World σ → Prop} {E : Error → World σ → Prop}

lemma after_mem_disks : v.after a d ∈ v.disks a d :=
  List.mem_map_of_mem (Program.run_mem_states _ _ _)

/-- All along, a call makes directories and writes files, and does nothing else to the disk. -/
lemma changes_of_mem_disks :
    ∀ d' ∈ v.disks a d, Disk.Changes (fun _ => True) (fun _ => True) d d' := by
  intro d' hd'
  obtain ⟨w, hw, rfl⟩ := List.mem_map.mp hd'
  rcases List.mem_cons.mp hw with rfl | hw
  · exact Disk.Changes.refl _ _ _
  · obtain ⟨s, hs, rfl⟩ := List.mem_map.mp hw
    exact World.changes_trail a.run (v.world d) s hs

/-- What holds before a call and after each effect holds all along. -/
lemma forall_disks {P : Disk → Prop} (hd : P d)
    (h : Action.Always (World.handle v.authority) I Q E a (v.world d))
    (hI : ∀ e w, I e w → P w.disk) : ∀ d' ∈ v.disks a d, P d' := by
  intro d' hd'
  obtain ⟨w, hw, rfl⟩ := List.mem_map.mp hd'
  rcases List.mem_cons.mp hw with rfl | hw
  · exact hd
  · obtain ⟨s, hs, rfl⟩ := List.mem_map.mp hw
    exact hI _ _ (h.along s hs)

lemma forall_effects {P : Effect → Prop}
    (h : Action.Always (World.handle v.authority) I Q E a (v.world d))
    (hI : ∀ e w, I e w → P e) : ∀ e ∈ v.effects a d, P e := by
  intro e he
  obtain ⟨s, hs, rfl⟩ := List.mem_map.mp he
  exact hI _ _ (h.along s hs)

lemma of_result_ok (h : Action.Always (World.handle v.authority) I Q E a (v.world d))
    {x : α} (hx : v.result a d = .ok x) :
    ∃ w, w.disk = v.after a d ∧ Q x w :=
  ⟨_, rfl, h.of_ok (Prod.ext hx rfl)⟩

lemma run_fixedAt :
    (World.run (v.authority.fixedAt v.now) a.run (v.world d)).1 = v.result a d :=
  congrArg Prod.fst (World.run_fixedAt a.run (v.world d))

/-- What is said of the answers at the time of a call is said of a call that succeeds. -/
lemma of_fixedAt_ok
    (h : Action.Always (World.handle (v.authority.fixedAt v.now)) I Q E a (v.world d))
    {x : α} (hx : v.result a d = .ok x) : ∃ w, Q x w :=
  ⟨_, h.of_ok (Prod.ext (run_fixedAt.trans hx) rfl)⟩

/-- It is said of a call that fails. -/
lemma of_fixedAt_error
    (h : Action.Always (World.handle (v.authority.fixedAt v.now)) I Q E a (v.world d))
    {e : Error} (he : v.result a d = .error e) : ∃ w, E e w :=
  ⟨_, h.of_error (Prod.ext (run_fixedAt.trans he) rfl)⟩

end Visit

/-- A call for a root or a leaf, with what it finds around it. -/
inductive Errand where
  | root {σ : Type} (visit : Visit σ) (directory : Path) (template : Template) (input : RootInput)
  | leaf {σ : Type} (visit : Visit σ) (lab : Lab) (input : LeafInput)

namespace Errand

/-- The disks before a call, after each of its effects, and so at its end. -/
def disks (d : Disk) : Errand → List Disk
  | root visit directory template input => visit.disks (ensureRoot directory template input) d
  | leaf visit lab input => visit.disks (lab.issue input) d

/-- The disk that a call leaves. -/
def after (d : Disk) : Errand → Disk
  | root visit directory template input => visit.after (ensureRoot directory template input) d
  | leaf visit lab input => visit.after (lab.issue input) d

lemma after_mem_disks {d : Disk} (e : Errand) : e.after d ∈ e.disks d := by
  cases e with
  | root => exact Visit.after_mem_disks
  | leaf => exact Visit.after_mem_disks

lemma changes_of_mem_disks {d : Disk} (e : Errand) :
    ∀ d' ∈ e.disks d, Disk.Changes (fun _ => True) (fun _ => True) d d' := by
  cases e with
  | root => exact Visit.changes_of_mem_disks
  | leaf => exact Visit.changes_of_mem_disks

end Errand

namespace Session

/-- All disks of a session. -/
def disks (d : Disk) : List Errand → List Disk
  | [] => [d]
  | e :: rest => e.disks d ++ disks (e.after d) rest

/-- The calls of a session, each with the disk that it starts from. -/
def starts (d : Disk) : List Errand → List (Disk × Errand)
  | [] => []
  | e :: rest => (d, e) :: starts (e.after d) rest

variable {P : Disk → Prop} {d : Disk} {errands : List Errand}

/-- What holds at the start and along each call holds all along. -/
lemma forall_disks (hd : P d) (h : ∀ e ∈ errands, ∀ d, P d → ∀ d' ∈ e.disks d, P d') :
    ∀ d' ∈ disks d errands, P d' := by
  induction errands generalizing d with
  | nil =>
      intro d' hd'
      rw [List.mem_singleton.mp hd']
      exact hd
  | cons e rest ih =>
      intro d' hd'
      have he := h e List.mem_cons_self d hd
      rcases List.mem_append.mp hd' with hd' | hd'
      · exact he d' hd'
      · exact ih (he _ e.after_mem_disks) (fun e he => h e (List.mem_cons_of_mem _ he)) d' hd'

/-- It holds in particular when a call starts. -/
lemma forall_starts (hd : P d) (h : ∀ e ∈ errands, ∀ d, P d → ∀ d' ∈ e.disks d, P d') :
    ∀ s ∈ starts d errands, P s.1 ∧ s.2 ∈ errands := by
  induction errands generalizing d with
  | nil => exact fun s hs => absurd hs List.not_mem_nil
  | cons e rest ih =>
      intro s hs
      have he := h e List.mem_cons_self d hd
      rcases List.mem_cons.mp hs with rfl | hs
      · exact ⟨hd, List.mem_cons_self⟩
      · obtain ⟨hP, hmem⟩ := ih (he _ e.after_mem_disks)
          (fun e he => h e (List.mem_cons_of_mem _ he)) s hs
        exact ⟨hP, List.mem_cons_of_mem _ hmem⟩

end Session

end LabTrust
