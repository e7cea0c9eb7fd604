/-
Calls for nodes that take turns.

Whatever the turns are, each call ends as it would end alone, and the disk at the end is put
together from what each of them leaves.
* `Lab.Pace`: where the threads stand, and how each of them is bound to end.
* `Lab.keeps_pace`: every effect of every thread keeps this.
* `Lab.pace_start`: it holds at the start.
* `Lab.Pace.alike`, `Lab.Pace.same`: where all are done, their outcomes and their disk do not hang
  on the turns.
-/
import LabTrust.Proofs.Lab.Threads
import LabTrust.Proofs.Program.Turns

namespace LabTrust

open Disk (Agrees Changes)

variable {σ : Type} {authority : Authority σ} {lab : Lab} {w₀ w w' : World σ}

/-! ### Threads that take turns -/

/-- What is known of a thread from the start: its node, its source and how it ends alone. -/
def Thread.fate (authority : Authority σ) (t : Thread σ) : String × ℕ × Outcome × World σ :=
  (t.name, t.source, t.ending authority)

/-- The jobs are what is left of sound threads with these fates on a world that they share. -/
def Lab.Pace (authority : Authority σ) (lab : Lab) (w₀ : World σ)
    (fates : List (String × ℕ × Outcome × World σ)) (w : World σ)
    (jobs : List (Program Outcome)) : Prop :=
  ∃ threads : List (Thread σ), threads.map Thread.program = jobs ∧
    threads.map (Thread.fate authority) = fates ∧ (∀ t ∈ threads, t.Sound lab w₀) ∧
      Shared lab w₀ w threads

/-- Threads with different names and sources keep pace, whichever goes on. -/
lemma Lab.keeps_pace (authority : Authority σ) (hcomplete : w₀.disk.Complete lab.rootFiles)
    {fates : List (String × ℕ × Outcome × World σ)}
    (hnames : (fates.map fun f => f.1).Nodup) (hsources : (fates.map fun f => f.2.1).Nodup) :
    Program.Keeps (World.handle authority) (lab.Pace authority w₀ fates) := by
  rintro w before e next after ⟨threads, hprograms, hfates, hsound, hshared⟩
  obtain ⟨tb, rest, rfl, hbefore, hrest⟩ := List.map_eq_append_iff.mp hprograms
  obtain ⟨t, ta, rfl, hprogram, hafter⟩ := List.map_eq_cons_iff.mp hrest
  have ht : t ∈ tb ++ t :: ta := List.mem_append_right _ List.mem_cons_self
  have hnames' : ((tb ++ t :: ta).map Thread.name).Nodup := by
    rw [← hfates, List.map_map] at hnames
    exact hnames
  have hsources' : ((tb ++ t :: ta).map Thread.source).Nodup := by
    rw [← hfates, List.map_map] at hsources
    exact hsources
  obtain ⟨t', hprogram', hstep⟩ := Thread.advances authority hcomplete (hsound t ht)
    (hshared.beside hsound ht) hprogram
  refine ⟨tb ++ t' :: ta, ?_, ?_, ?_, hshared.advance hnames' hsources' hstep⟩
  · rw [List.map_append, List.map_cons, hbefore, hprogram', hafter]
  · have hfate : t'.fate authority = t.fate authority := by
      rw [Thread.fate, Thread.fate, hstep.name, hstep.source, hstep.ending]
    rw [← hfates, List.map_append, List.map_append, List.map_cons, List.map_cons, hfate]
  · intro u hu
    rcases List.mem_append.mp hu with hu | hu
    · exact hsound u (List.mem_append_left _ hu)
    · rcases List.mem_cons.mp hu with rfl | hu
      · exact hstep.sound
      · exact hsound u (List.mem_append_right _ (List.mem_cons_of_mem _ hu))

/-! ### The start -/

/-- The threads of nodes, with sources numbered from `source`. -/
def Lab.threads (lab : Lab) (w₀ : World σ) : ℕ → List NodeInfo → List (Thread σ)
  | _, [] => []
  | source, node :: rest =>
    ⟨node.shortName, source, (lab.tryNode node).drawFrom source,
      (lab.tryNode node).drawFrom source, w₀⟩ :: lab.threads w₀ (source + 1) rest

namespace Lab

variable {source : ℕ} {nodes : List NodeInfo}

lemma program_threads : (lab.threads w₀ source nodes).map Thread.program =
    Program.withSources source (nodes.map lab.tryNode) := by
  induction nodes generalizing source with
  | nil => rfl
  | cons node rest ih =>
      rw [threads, List.map_cons, List.map_cons, ih]
      rfl

lemma name_threads : (lab.threads w₀ source nodes).map Thread.name =
    nodes.map NodeInfo.shortName := by
  induction nodes generalizing source with
  | nil => rfl
  | cons node rest ih =>
      rw [threads, List.map_cons, List.map_cons, ih]

lemma source_threads : (lab.threads w₀ source nodes).map Thread.source =
    List.range' source nodes.length := by
  induction nodes generalizing source with
  | nil => rfl
  | cons node rest ih =>
      rw [threads, List.map_cons, ih]
      rfl

lemma mem_threads {t : Thread σ} (ht : t ∈ lab.threads w₀ source nodes) :
    ∃ node ∈ nodes, t.name = node.shortName ∧ t.program = (lab.tryNode node).drawFrom t.source ∧
      t.alone = (lab.tryNode node).drawFrom t.source ∧ t.world = w₀ := by
  induction nodes generalizing source with
  | nil => exact absurd ht List.not_mem_nil
  | cons node rest ih =>
      rcases List.mem_cons.mp ht with rfl | ht
      · exact ⟨node, List.mem_cons_self, rfl, rfl, rfl, rfl⟩
      · obtain ⟨other, hother, hrest⟩ := ih ht
        exact ⟨other, List.mem_cons_of_mem _ hother, hrest⟩

/-- At the start all threads keep pace. -/
lemma pace_start (authority : Authority σ) (source : ℕ)
    (hlab : ∀ node ∈ nodes, lab.ApartFrom w₀.disk.workdir node.shortName)
    (hrefusals : w₀.refusals = []) :
    lab.Pace authority w₀ ((lab.threads w₀ source nodes).map (Thread.fate authority)) w₀
      (Program.withSources source (nodes.map lab.tryNode)) := by
  refine ⟨lab.threads w₀ source nodes, program_threads, rfl, fun t ht => ?_, ?_⟩
  · obtain ⟨node, hnode, hname, hprogram, halone, hworld⟩ := mem_threads ht
    refine ⟨hname ▸ hlab node hnode, hworld ▸ rfl, hworld ▸ hrefusals,
      hworld ▸ Changes.refl _ _ _, ?_⟩
    refine .outside (hprogram.trans halone.symm) ?_ (hworld ▸ rfl)
    rw [halone, hname]
    exact lab.issues_tryNode node t.source
  · have hworld : ∀ t ∈ lab.threads w₀ source nodes, t.world = w₀ := fun t ht =>
      (mem_threads ht).choose_spec.2.2.2.2
    exact ⟨rfl, hrefusals, rfl, fun t ht => by rw [hworld t ht],
      Or.inl ⟨Agrees.refl _ _, fun t ht => hworld t ht ▸ Agrees.refl _ _⟩,
      fun t ht l _ _ => by rw [hworld t ht], fun l _ _ => rfl⟩

end Lab

/-! ### The end -/

/-- The two disks hold the same everywhere. -/
def Disk.Same (d d' : Disk) : Prop := Agrees (fun _ => True) d d'

/-- Outcomes that are like the same ones are like each other. -/
lemma Outcome.forall₂_alike {d : Disk} {fates : List (String × ℕ × Outcome × World σ)}
    {outcomes outcomes' : List Outcome}
    (h : List.Forall₂ (fun f o => f.2.2.1.Alike lab d o) fates outcomes)
    (h' : List.Forall₂ (fun f o => f.2.2.1.Alike lab d o) fates outcomes') :
    List.Forall₂ (Outcome.Alike lab d) outcomes outcomes' := by
  induction h generalizing outcomes' with
  | nil =>
      cases h'
      exact .nil
  | cons ho _ ih =>
      cases h' with
      | cons ho' hrest => exact .cons (ho.symm.trans ho') (ih hrest)

/-- Outcomes that are alike are of the same nodes. -/
lemma Outcome.map_node_alike {d : Disk} {outcomes outcomes' : List Outcome}
    (h : List.Forall₂ (Outcome.Alike lab d) outcomes outcomes') :
    outcomes'.map Outcome.node = outcomes.map Outcome.node := by
  induction h with
  | nil => rfl
  | cons ho _ ih => rw [List.map_cons, List.map_cons, ho.node_eq, ih]

/-- A thread whose job is done has ended alone, with a like outcome. -/
lemma Thread.Sound.alike_of_done (authority : Authority σ) {t : Thread σ} (ht : t.Sound lab w₀)
    {o : Outcome} (hdone : t.program = .done o) :
    (t.ending authority).1.Alike lab w₀.disk o ∧ (t.ending authority).2 = t.world := by
  have hending : ∀ {o'}, t.alone = .done o' → t.ending authority = (o', t.world) := fun h => by
    rw [Thread.ending, h]
    rfl
  cases ht.stage with
  | outside same _ _ =>
      rw [hending (same.symm.trans hdone)]
      exact ⟨Outcome.Alike.refl _ _ _, rfl⟩
  | housed same _ _ _ _ =>
      rw [hending (same.symm.trans hdone)]
      exact ⟨Outcome.Alike.refl _ _ _, rfl⟩
  | ended program alone alike =>
      rw [hending alone]
      rw [program, Program.done.injEq] at hdone
      exact ⟨hdone ▸ alike, rfl⟩

namespace Lab

variable {fates : List (String × ℕ × Outcome × World σ)} {outcomes outcomes' : List Outcome}

/-- The outcomes of threads that are done are like those of the threads alone. -/
lemma Pace.alike (h : lab.Pace authority w₀ fates w (outcomes.map .done)) :
    List.Forall₂ (fun f o => f.2.2.1.Alike lab w₀.disk o) fates outcomes := by
  obtain ⟨threads, hprograms, rfl, hsound, -⟩ := h
  clear w
  induction threads generalizing outcomes with
  | nil =>
      obtain rfl : outcomes = [] := by simpa using hprograms.symm
      exact .nil
  | cons t rest ih =>
      cases outcomes with
      | nil => simp at hprograms
      | cons o os =>
          simp only [List.map_cons, List.cons.injEq] at hprograms
          obtain ⟨ht, hrest⟩ := List.forall_mem_cons.mp hsound
          exact .cons (ht.alike_of_done authority hprograms.1).1 (ih hprograms.2 hrest)

/-- Threads with one fate that are done have one disk. -/
lemma exists_partner {threads threads' : List (Thread σ)}
    (hfates : threads.map (Thread.fate authority) = threads'.map (Thread.fate authority))
    (hsound : ∀ t ∈ threads, t.Sound lab w₀) (hsound' : ∀ t ∈ threads', t.Sound lab w₀)
    (hdone : threads.map Thread.program = outcomes.map .done)
    (hdone' : threads'.map Thread.program = outcomes'.map .done) {t : Thread σ}
    (ht : t ∈ threads) : ∃ t' ∈ threads', t'.name = t.name ∧ t'.world = t.world := by
  have hmem : t.fate authority ∈ threads'.map (Thread.fate authority) :=
    hfates ▸ List.mem_map_of_mem ht
  obtain ⟨t', ht', hfate⟩ := List.mem_map.mp hmem
  obtain ⟨hname, hrest⟩ := Prod.mk.inj hfate
  have hending : t'.ending authority = t.ending authority := (Prod.mk.inj hrest).2
  have hprogram : t.program ∈ outcomes.map .done := hdone ▸ List.mem_map_of_mem ht
  have hprogram' : t'.program ∈ outcomes'.map .done := hdone' ▸ List.mem_map_of_mem ht'
  obtain ⟨o, -, ho⟩ := List.mem_map.mp hprogram
  obtain ⟨o', -, ho'⟩ := List.mem_map.mp hprogram'
  refine ⟨t', ht', hname, ?_⟩
  rw [← ((hsound' t' ht').alike_of_done authority ho'.symm).2, hending,
    ((hsound t ht).alike_of_done authority ho.symm).2]

/-- If the threads of one run made nothing on the way to their directories, those of another did
not either. -/
lemma entryAt_of_fresh {threads threads' : List (Thread σ)} {l : Location}
    (hfresh : ∀ t ∈ threads, Agrees (lab.Shares w₀.disk.workdir) w₀.disk t.world.disk)
    (h' : Shared lab w₀ w' threads')
    (hpartner : ∀ t' ∈ threads', ∃ t ∈ threads, t.name = t'.name ∧ t.world = t'.world)
    (hS : lab.Shares w₀.disk.workdir l) : w'.disk.entryAt l = w₀.disk.entryAt l := by
  rcases h'.trunk with ⟨hw', -⟩ | ⟨hw', t', ht', hgrown⟩
  · exact hw'.entry l hS
  · obtain ⟨t, ht, -, hworld⟩ := hpartner t' ht'
    rw [hw'.entry l hS, ← hgrown.entry l hS, ← hworld]
    exact (hfresh t ht).entry l hS

/-- What lies on the shared disk when all threads are done hangs on their fates alone. -/
lemma Pace.same (h : lab.Pace authority w₀ fates w (outcomes.map .done))
    (h' : lab.Pace authority w₀ fates w' (outcomes'.map .done)) : w.disk.Same w'.disk := by
  obtain ⟨threads, hdone, hfates, hsound, hw⟩ := h
  obtain ⟨threads', hdone', hfates', hsound', hw'⟩ := h'
  have hpartner : ∀ t ∈ threads, ∃ t' ∈ threads', t'.name = t.name ∧ t'.world = t.world :=
    fun t ht => exists_partner (hfates.trans hfates'.symm) hsound hsound' hdone hdone' ht
  have hpartner' : ∀ t ∈ threads', ∃ t' ∈ threads, t'.name = t.name ∧ t'.world = t.world :=
    fun t ht => exists_partner (hfates'.trans hfates.symm) hsound' hsound hdone' hdone ht
  refine ⟨hw'.workdir.trans hw.workdir.symm, fun l _ => ?_⟩
  by_cases hS : lab.Shares w₀.disk.workdir l
  · rcases hw.trunk with ⟨hold, hfresh⟩ | ⟨hnew, -⟩
    · rw [hold.entry l hS, entryAt_of_fresh hfresh hw' hpartner' hS]
    · rcases hw'.trunk with ⟨hold', hfresh'⟩ | ⟨hnew', -⟩
      · rw [hold'.entry l hS, entryAt_of_fresh hfresh' hw hpartner hS]
      · rw [hnew.entry l hS, hnew'.entry l hS]
  · by_cases hown : ∃ t ∈ threads, lab.Owns w₀.disk.workdir t.name l
    · obtain ⟨t, ht, hown⟩ := hown
      obtain ⟨t', ht', hname, hworld⟩ := hpartner t ht
      rw [hw.own t ht l hS hown, hw'.own t' ht' l hS (hname.symm ▸ hown), hworld]
    · simp only [not_exists, not_and] at hown
      rw [hw.rest l hS hown, hw'.rest l hS]
      intro t' ht'
      obtain ⟨t, ht, hname, -⟩ := hpartner' t' ht'
      exact hname ▸ hown t ht

end Lab

end LabTrust
