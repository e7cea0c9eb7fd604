/-
Calls for nodes beside each other.

Each call is followed twice: on the disk that all share, and on a disk of its own, where it runs
alone from the same start. The two runs keep pace, because the places that a call looks at are of
two kinds. Those on the way to the directories of all nodes are as at the start or as the first
call leaves them; those below the directory of a node are touched by no other call.
* `Thread`: a call with what is left of it on either disk. `Thread.ending` is its end alone.
* `Thread.Sound`: the call has come equally far on both disks, or is over with like outcomes.
* `Shared`: the shared disk is put together from the disks of the threads.
* `Shared.step`: an effect on the shared disk keeps all this.
-/
import LabTrust.Proofs.Disk.Agree
import LabTrust.Proofs.Lab.Jobs
import LabTrust.Proofs.Program.Effects

namespace LabTrust

open Disk (Agrees Changes)

variable {σ : Type} {authority : Authority σ} {lab : Lab} {w₀ w w' : World σ} {workdir l : Location}
  {name name' : String}

/-! ### Places -/

namespace Lab

/-- The place lies on the way to the directories of all nodes. -/
def Shares (lab : Lab) (workdir : Location) (l : Location) : Prop :=
  lab.layout.nodesDirectory.Passes workdir l

/-- The place is that of a node's directory, or lies below it. -/
def Owns (lab : Lab) (workdir : Location) (name : String) (l : Location) : Prop :=
  lab.layout.nodesDirectory.place workdir ++ [name.toList] <+: l

/-- No file of the root lies at the place. -/
def IsFree (lab : Lab) (workdir : Location) (l : Location) : Prop :=
  ¬ lab.rootFiles.Lies workdir l

/-- The disk after the directories on the way to those of the nodes were made. -/
def grown (lab : Lab) (d : Disk) : Disk := (d.trunk lab.layout.nodesDirectory).2

/-- Where these lead somewhere, the places on the way are directories. -/
lemma entryAt_grown {d : Disk} (h : ∃ here, (d.trunk lab.layout.nodesDirectory).1 = .ok here)
    (hl : lab.Shares d.workdir l) : (lab.grown d).entryAt l = some .directory := by
  obtain ⟨here, hreach⟩ := h
  have htrunk : d.trunk lab.layout.nodesDirectory = (.ok here, lab.grown d) := Prod.ext hreach rfl
  have hworkdir : (lab.grown d).workdir = d.workdir := (Disk.changes_trunk _ _).workdir
  exact Disk.entryAt_of_reach (Disk.reach_of_trunk htrunk) (hworkdir.symm ▸ hl)

lemma name_eq_of_owns (h : lab.Owns workdir name l) (h' : lab.Owns workdir name' l) :
    name = name' := by
  obtain ⟨s, rfl⟩ := h
  obtain ⟨t, ht⟩ := h'
  simp only [List.append_assoc, List.singleton_append] at ht
  exact String.ext (List.cons.inj (List.append_cancel_left ht)).1.symm

lemma owns_of_lies (hname : checkName name = .ok ()) (h : (lab.nodeFiles name).Lies workdir l) :
    lab.Owns workdir name l := by
  obtain ⟨s, -, rfl⟩ := (lies_nodeFiles_iff hname).mp h
  exact ⟨[name.toList ++ s.toList], by simp⟩

lemma place_home (hname : checkName name = .ok ()) :
    (lab.home name).place workdir = lab.layout.nodesDirectory.place workdir ++ [name.toList] :=
  Path.place_join _ (checkName_eq_ok_iff.mp hname)

/-- The ways to the files of a node lead over shared places and its own. -/
lemma passes_nodeFile (hname : checkName name = .ok ()) {p : Path}
    (hp : p ∈ (lab.nodeFiles name).paths) (h : p.Passes workdir l) :
    lab.Shares workdir l ∨ lab.Owns workdir name l := by
  have hn := checkName_eq_ok_iff.mp hname
  rw [nodeFiles, Triple.ofNode, Triple.paths_ofPath] at hp
  obtain ⟨s, hs, rfl⟩ := List.mem_map.mp hp
  rcases Path.passes_withSuffix_join _ hn hs h with h | rfl
  · rcases Path.passes_join _ hn h with h | rfl
    · exact Or.inl h
    · exact Or.inr ⟨[], by rw [List.append_nil]; exact (place_home hname).symm⟩
  · refine Or.inr (owns_of_lies hname ⟨_, ?_, rfl⟩)
    rw [nodeFiles, Triple.ofNode, Triple.paths_ofPath]
    exact List.mem_map_of_mem hs

/-- The root keeps what it holds where only directories are made and other files are written. -/
lemma read_eq_of_changes {d d' : Disk} {D : Location → Prop} (hcomplete : d.Complete lab.rootFiles)
    (hd : Changes D (lab.IsFree d.workdir) d d') {p : Path}
    (hp : p = lab.rootFiles.certificate ∨ p = lab.rootFiles.key) : d'.read p = d.read p := by
  have hfound : ∃ e, d.lookUp p = .ok e := by
    rcases hp with rfl | rfl
    · exact hcomplete.1
    · exact hcomplete.2
  have hmem : p ∈ lab.rootFiles.paths := by
    rcases hp with rfl | rfl
    · exact List.mem_cons_self
    · exact List.mem_cons_of_mem _ List.mem_cons_self
  have hplace : ¬ lab.IsFree d.workdir (p.place d.workdir) := fun h => h ⟨p, hmem, rfl⟩
  obtain ⟨e, he⟩ := hfound
  rw [Disk.read, Disk.read, he, hd.lookUp_eq he hplace]

end Lab

/-! ### Outcomes -/

namespace Outcome

/-- The directory of the node was refused because something else lies on the way to it. -/
def Bars (lab : Lab) (o : Outcome) : Prop :=
  o.result = .error (.io (lab.home o.node) .present) ∨
    o.result = .error (.io (lab.home o.node) .notDirectory)

/-- Two outcomes are the same, unless the way to the directories of all nodes is blocked: then the
obstacle may be met in two ways. -/
def Alike (lab : Lab) (d : Disk) (o o' : Outcome) : Prop :=
  o' = o ∨ d.Blocked lab.layout.nodesDirectory ∧ o'.node = o.node ∧ o.Bars lab ∧ o'.Bars lab

variable {d : Disk} {o o' o'' : Outcome}

lemma Alike.refl (lab : Lab) (d : Disk) (o : Outcome) : o.Alike lab d o := Or.inl rfl

lemma Alike.symm (h : o.Alike lab d o') : o'.Alike lab d o := by
  rcases h with rfl | ⟨hblocked, hnode, ho, ho'⟩
  · exact Or.inl rfl
  · exact Or.inr ⟨hblocked, hnode.symm, ho', ho⟩

lemma Alike.trans (h : o.Alike lab d o') (h' : o'.Alike lab d o'') : o.Alike lab d o'' := by
  rcases h with rfl | ⟨hblocked, hnode, ho, ho'⟩
  · exact h'
  · rcases h' with rfl | ⟨-, hnode', -, ho''⟩
    · exact Or.inr ⟨hblocked, hnode, ho, ho'⟩
    · exact Or.inr ⟨hblocked, hnode'.trans hnode, ho, ho''⟩

lemma Alike.node_eq (h : o.Alike lab d o') : o'.node = o.node := by
  rcases h with rfl | ⟨-, hnode, -⟩
  · rfl
  · exact hnode

end Outcome

/-! ### Threads -/

/-- A call for a node, with what is left of it beside others and alone. -/
structure Thread (σ : Type) where
  name : String
  source : ℕ
  /-- What is left of the call beside others. -/
  program : Program Outcome
  /-- What is left of it where it runs alone, and the world there. -/
  alone : Program Outcome
  world : World σ

namespace Thread

/-- How the call ends alone. -/
def ending (authority : Authority σ) (t : Thread σ) : Outcome × World σ :=
  World.run authority t.alone t.world

/-- How far the call has come: not yet to its directory, past it, or to its end. -/
inductive Stage (lab : Lab) (d₀ : Disk) (t : Thread σ) : Prop where
  | outside (same : t.program = t.alone)
      (issues : t.alone.Issues lab t.name t.source
        fun f => ⟨t.name, .error (.io (lab.home t.name) f)⟩)
      (disk : t.world.disk = d₀)
  | housed (same : t.program = t.alone) (name : checkName t.name = .ok ())
      (writes : t.alone.Writes (lab.nodeFiles t.name))
      (reached : ∃ here, (d₀.trunk lab.layout.nodesDirectory).1 = .ok here)
      (agrees : Agrees (lab.Shares d₀.workdir) (lab.grown d₀) t.world.disk)
  | ended {o o' : Outcome} (program : t.program = .done o) (alone : t.alone = .done o')
      (alike : o'.Alike lab d₀ o)

/-- The call has come equally far beside others and alone, from the start `w₀`. -/
structure Sound (lab : Lab) (w₀ : World σ) (t : Thread σ) : Prop where
  apart : lab.ApartFrom w₀.disk.workdir t.name
  now : t.world.now = w₀.now
  refusals : t.world.refusals = []
  changes : Changes (fun _ => True) (lab.IsFree w₀.disk.workdir) w₀.disk t.world.disk
  stage : t.Stage lab w₀.disk

/-- The shared world as one thread sees it. -/
structure Beside (lab : Lab) (w₀ w : World σ) (t : Thread σ) : Prop where
  now : w.now = w₀.now
  refusals : w.refusals = []
  state : w.states t.source = t.world.states t.source
  changes : Changes (fun _ => True) (lab.IsFree w₀.disk.workdir) w₀.disk w.disk
  trunk : Agrees (lab.Shares w₀.disk.workdir) w₀.disk w.disk ∨
    Agrees (lab.Shares w₀.disk.workdir) (lab.grown w₀.disk) w.disk
  agrees : Agrees (lab.Shares w₀.disk.workdir) (lab.grown w₀.disk) t.world.disk →
    Agrees (lab.Shares w₀.disk.workdir) t.world.disk w.disk
  own : ∀ l, ¬ lab.Shares w₀.disk.workdir l → lab.Owns w₀.disk.workdir t.name l →
    w.disk.entryAt l = t.world.disk.entryAt l

/-- One effect of a thread takes the shared world from `w` to `w'`, and the thread from `t` to
`t'`. -/
structure Advances (authority : Authority σ) (lab : Lab) (w₀ w w' : World σ) (t t' : Thread σ) :
    Prop where
  name : t'.name = t.name
  source : t'.source = t.source
  ending : t'.ending authority = t.ending authority
  sound : t'.Sound lab w₀
  now : w'.now = w.now
  refusals : w'.refusals = []
  state : w'.states t.source = t'.world.states t.source
  others : ∀ i ≠ t.source, w'.states i = w.states i
  trunk : Agrees (lab.Shares w₀.disk.workdir) w.disk w'.disk ∧
      Agrees (lab.Shares w₀.disk.workdir) t.world.disk t'.world.disk ∨
    Agrees (lab.Shares w₀.disk.workdir) (lab.grown w₀.disk) w'.disk ∧
      Agrees (lab.Shares w₀.disk.workdir) (lab.grown w₀.disk) t'.world.disk
  own : ∀ l, ¬ lab.Shares w₀.disk.workdir l → lab.Owns w₀.disk.workdir t.name l →
    w'.disk.entryAt l = t'.world.disk.entryAt l
  frame : ∀ l, ¬ lab.Shares w₀.disk.workdir l → ¬ lab.Owns w₀.disk.workdir t.name l →
    w'.disk.entryAt l = w.disk.entryAt l

variable {t : Thread σ}

/-- A thread that goes on alone is bound for the same end. -/
lemma ending_of_step {e : Effect} {next : e.Answer → Program Outcome} {answer : e.Answer}
    {v : World σ} (halone : t.alone = .step e next)
    (hstep : World.handle authority e t.world = (answer, v)) (program : Program Outcome) :
    ending authority { t with program, alone := next answer, world := v } = t.ending authority := by
  rw [ending, ending, halone, World.run, World.run, Program.run, hstep]

/-- An effect that leaves both disks as they are, with the same answer on both. -/
lemma advances_of_quiet {e : Effect} {next : e.Answer → Program Outcome} {v : World σ}
    (hsound : t.Sound lab w₀) (hbeside : t.Beside lab w₀ w) (halone : t.alone = .step e next)
    (hdisk : t.world.disk = w₀.disk)
    (hissues : ∀ answer, (next answer).Issues lab t.name t.source
      fun f => ⟨t.name, .error (.io (lab.home t.name) f)⟩)
    (hstep : World.handle authority e t.world = ((World.handle authority e w).1, v))
    (hv : v.disk = t.world.disk ∧ v.now = t.world.now ∧ v.refusals = t.world.refusals)
    (hw : (World.handle authority e w).2.disk = w.disk ∧
      (World.handle authority e w).2.now = w.now ∧
        (World.handle authority e w).2.refusals = w.refusals)
    (hstate : (World.handle authority e w).2.states t.source = v.states t.source)
    (hothers : ∀ i ≠ t.source, (World.handle authority e w).2.states i = w.states i) :
    ∃ t' : Thread σ, t'.program = next (World.handle authority e w).1 ∧
      Advances authority lab w₀ w (World.handle authority e w).2 t t' := by
  obtain ⟨hvdisk, hvnow, hvrefusals⟩ := hv
  obtain ⟨hwdisk, hwnow, hwrefusals⟩ := hw
  refine ⟨{ t with
    program := next (World.handle authority e w).1
    alone := next (World.handle authority e w).1
    world := v }, rfl, ?_⟩
  refine ⟨rfl, rfl, ending_of_step halone hstep _, ⟨hsound.apart, ?_, ?_, ?_, ?_⟩, hwnow, ?_,
    hstate, hothers, Or.inl ⟨?_, ?_⟩, fun l hS hown => ?_, fun l _ _ => ?_⟩
  · exact hvnow.trans hsound.now
  · exact hvrefusals.trans hsound.refusals
  · exact hvdisk ▸ hsound.changes
  · exact .outside rfl (hissues _) (hvdisk.trans hdisk)
  · exact hwrefusals.trans hbeside.refusals
  · exact hwdisk ▸ Agrees.refl _ _
  · exact hvdisk ▸ Agrees.refl _ _
  · rw [hwdisk, hvdisk]
    exact hbeside.own l hS hown
  · rw [hwdisk]

/-- Where the directory of a node was made alike beside others and alone, the call goes on in it, or
it ends for the same reason or for one that a blocked way gives. -/
lemma stage_of_madeAlike {next : Except IoFailure Unit → Program Outcome}
    {a a₀ : Except IoFailure Unit} {d₁ d₂ : Disk} (hname : checkName t.name = .ok ())
    (hmade : Disk.MadeAlike lab.layout.nodesDirectory w₀.disk w.disk (a₀, d₁) (a, d₂))
    (hok : (next (.ok ())).Writes (lab.nodeFiles t.name))
    (herr : ∀ f, next (.error f) = .done ⟨t.name, .error (.io (lab.home t.name) f)⟩) :
    Stage lab w₀.disk
      { t with program := next a, alone := next a₀, world := { t.world with disk := d₁ } } := by
  obtain ⟨hanswer, htrunk, hreached, -⟩ := hmade
  cases a₀ with
  | ok u =>
      obtain rfl : a = .ok u := by
        rcases hanswer with h | ⟨-, h, -⟩
        · exact h
        · simp at h
      refine .housed rfl hname hok (hreached rfl) ?_
      rcases htrunk with ⟨e, h, -⟩ | ⟨h, -⟩
      · simp at h
      · exact h
  | error f =>
      rcases hanswer with h | ⟨hblocked, h, h'⟩
      · obtain rfl : a = .error f := h
        exact .ended (herr f) (herr f) (Outcome.Alike.refl _ _ _)
      · obtain rfl : f = .present := Except.error.inj h
        obtain rfl : a = .error .notDirectory := h'
        exact .ended (herr _) (herr _) (Or.inr ⟨hblocked, rfl, Or.inl rfl, Or.inr rfl⟩)

/-- The effect makes the directory of the node. -/
lemma advances_of_house {next : Except IoFailure Unit → Program Outcome}
    (hsound : t.Sound lab w₀) (hbeside : t.Beside lab w₀ w)
    (halone : t.alone = .step (.makeDirectories (lab.home t.name)) next)
    (hdisk : t.world.disk = w₀.disk) (hname : checkName t.name = .ok ())
    (hok : (next (.ok ())).Writes (lab.nodeFiles t.name))
    (herr : ∀ f, next (.error f) = .done ⟨t.name, .error (.io (lab.home t.name) f)⟩) :
    ∃ t' : Thread σ,
      t'.program = next (World.handle authority (.makeDirectories (lab.home t.name)) w).1 ∧
        Advances authority lab w₀ w
          (World.handle authority (.makeDirectories (lab.home t.name)) w).2 t t' := by
  have hn := checkName_eq_ok_iff.mp hname
  have hworkdir := hbeside.changes.workdir
  have hown : ∀ l, ¬ lab.Shares w₀.disk.workdir l → lab.Owns w₀.disk.workdir t.name l →
      w.disk.entryAt l = w₀.disk.entryAt l := fun l hS ho => hdisk ▸ hbeside.own l hS ho
  have hmade : Disk.MadeAlike lab.layout.nodesDirectory w₀.disk w.disk
      (w₀.disk.makeDirectories (lab.home t.name)) (w.disk.makeDirectories (lab.home t.name)) :=
    Disk.madeAlike hn hbeside.trunk fun hS => hown _ hS (List.prefix_refl _)
  have hchanges : Changes (fun _ => True) (lab.IsFree w₀.disk.workdir) w₀.disk
      (w₀.disk.makeDirectories (lab.home t.name)).2 :=
    (Disk.changes_makeDirectories _ _).mono (fun _ _ => trivial) fun _ h => h
  have hchanges' : Changes ((lab.home t.name).Passes w.disk.workdir) (fun _ => False) w.disk
      (w.disk.makeDirectories (lab.home t.name)).2 := Disk.changes_makeDirectories _ _
  have hstep : World.handle authority (.makeDirectories (lab.home t.name)) t.world =
      ((w₀.disk.makeDirectories (lab.home t.name)).1,
        { t.world with disk := (w₀.disk.makeDirectories (lab.home t.name)).2 }) := by
    rw [World.handle, hdisk]
  have hstage := stage_of_madeAlike hname hmade hok herr
  refine ⟨{ t with
    program := next (w.disk.makeDirectories (lab.home t.name)).1
    alone := next (w₀.disk.makeDirectories (lab.home t.name)).1
    world := { t.world with disk := (w₀.disk.makeDirectories (lab.home t.name)).2 } }, rfl, ?_⟩
  refine ⟨rfl, rfl, ending_of_step halone hstep _,
    ⟨hsound.apart, hsound.now, hsound.refusals, hchanges, hstage⟩, rfl, hbeside.refusals,
    hbeside.state, fun _ _ => rfl, ?_,
    fun l hS ho => hmade.elsewhere l hS (hown l hS ho), fun l hS ho => ?_⟩
  · rcases hmade.trunk with ⟨e, h, h'⟩ | ⟨h, h'⟩
    · simp only [World.handle, h, h', hdisk]
      exact Or.inl ⟨Agrees.refl _ _, Agrees.refl _ _⟩
    · exact Or.inr ⟨h', h⟩
  · refine (hchanges'.entry l).resolve_right ?_
    rintro (⟨hpasses, -⟩ | ⟨hfalse, -⟩)
    · rw [hworkdir] at hpasses
      rcases Path.passes_join _ hn hpasses with h | rfl
      · exact hS h
      · exact ho ⟨[], by rw [List.append_nil]; exact (Lab.place_home hname).symm⟩
    · exact hfalse

/-- The effect writes a file of the node. -/
lemma advances_of_write {p : Path} {content : Bytes}
    {next : Except IoFailure Unit → Program Outcome} (hsound : t.Sound lab w₀)
    (hbeside : t.Beside lab w₀ w) (halone : t.alone = .step (.write p content) next)
    (hname : checkName t.name = .ok ()) (hp : p ∈ (lab.nodeFiles t.name).paths)
    (hnext : ∀ r, (next r).Writes (lab.nodeFiles t.name))
    (hreached : ∃ here, (w₀.disk.trunk lab.layout.nodesDirectory).1 = .ok here)
    (hagrees : Agrees (lab.Shares w₀.disk.workdir) (lab.grown w₀.disk) t.world.disk) :
    ∃ t' : Thread σ, t'.program = next (World.handle authority (.write p content) w).1 ∧
      Advances authority lab w₀ w (World.handle authority (.write p content) w).2 t t' := by
  have hworkdir := hsound.changes.workdir
  have hshared := hbeside.agrees hagrees
  have hboth : Agrees (fun l => lab.Shares w₀.disk.workdir l ∨ lab.Owns w₀.disk.workdir t.name l)
      t.world.disk w.disk := by
    refine ⟨hshared.workdir, fun l hl => ?_⟩
    by_cases hS : lab.Shares w₀.disk.workdir l
    · exact hshared.entry l hS
    · exact hbeside.own l hS (hl.resolve_left hS)
  have hwrite := hboth.write (c := content) fun l hl =>
    Lab.passes_nodeFile hname hp (hworkdir ▸ hl)
  rcases hwrite with ⟨e, hv, hw⟩ | ⟨hdir, hv, hw⟩
  · have hv' := @World.handle_write_of_error _ authority _ _ _ _ hsound.refusals hv
    rw [World.handle_write_of_error hbeside.refusals hw]
    refine ⟨{ t with program := next (.error e), alone := next (.error e) }, rfl, ?_⟩
    exact ⟨rfl, rfl, ending_of_step halone hv' _, ⟨hsound.apart, hsound.now, hsound.refusals,
      hsound.changes, .housed rfl hname (hnext _) hreached hagrees⟩, rfl, hbeside.refusals,
      hbeside.state, fun _ _ => rfl, Or.inl ⟨Agrees.refl _ _, Agrees.refl _ _⟩, hbeside.own,
      fun _ _ _ => rfl⟩
  · set k := p.place t.world.disk.workdir with hk
    have hlies : (lab.nodeFiles t.name).Lies w₀.disk.workdir k := ⟨p, hp, by rw [hk, hworkdir]⟩
    have hown : lab.Owns w₀.disk.workdir t.name k := Lab.owns_of_lies hname hlies
    -- the places on the way are directories, so no file is written there
    have hS : ¬ lab.Shares w₀.disk.workdir k := fun hS =>
      hdir ((hagrees.entry k hS).trans (Lab.entryAt_grown hreached hS))
    have hnil : k ≠ [] := Disk.ne_nil_of_entryAt_ne_directory hdir
    have hv' := @World.handle_write_of_ok _ authority _ _ _ _ hsound.refusals hv
    rw [World.handle_write_of_ok hbeside.refusals hw]
    refine ⟨{ t with
      program := next (.ok ())
      alone := next (.ok ())
      world := { t.world with disk := t.world.disk.put k (.file content) } }, rfl, ?_⟩
    refine ⟨rfl, rfl, ending_of_step halone hv' _, ⟨hsound.apart, hsound.now, hsound.refusals, ?_,
      .housed rfl hname (hnext _) hreached (hagrees.trans (Agrees.of_put hS _))⟩, rfl,
      hbeside.refusals, hbeside.state, fun _ _ => rfl,
      Or.inl ⟨Agrees.of_put hS _, Agrees.of_put hS _⟩, fun l hl ho => ?_, fun l hl ho => ?_⟩
    · exact hsound.changes.trans (Disk.changes_put (hsound.apart hname k hlies) hdir)
    · by_cases hlk : l = k
      · rw [hlk, Disk.entryAt_put_self _ hnil, Disk.entryAt_put_self _ hnil]
      · rw [Disk.entryAt_put_of_ne _ hlk, Disk.entryAt_put_of_ne _ hlk]
        exact hbeside.own l hl ho
    · refine Disk.entryAt_put_of_ne _ (fun hlk => ho ?_) _
      rw [hlk]
      exact hown

/-- Each effect on the shared world takes a thread on, beside others and alone. -/
lemma advances (authority : Authority σ) (hcomplete : w₀.disk.Complete lab.rootFiles)
    (hsound : t.Sound lab w₀) (hbeside : t.Beside lab w₀ w) {e : Effect}
    {next : e.Answer → Program Outcome} (hprogram : t.program = .step e next) :
    ∃ t' : Thread σ, t'.program = next (World.handle authority e w).1 ∧
      Advances authority lab w₀ w (World.handle authority e w).2 t t' := by
  cases hsound.stage with
  | ended program alone alike => simp [program] at hprogram
  | housed same name writes reached agrees =>
      have halone := same.symm.trans hprogram
      rw [halone] at writes
      cases writes with
      | write hp hnext =>
          exact advances_of_write hsound hbeside halone name hp hnext reached agrees
  | outside same issues disk =>
      have halone := same.symm.trans hprogram
      rw [halone] at issues
      cases issues with
      | read hp hnext =>
          refine advances_of_quiet hsound hbeside halone disk hnext (v := t.world) ?_
            ⟨rfl, rfl, rfl⟩ ⟨rfl, rfl, rfl⟩ hbeside.state fun _ _ => rfl
          simp only [World.handle, disk, Lab.read_eq_of_changes hcomplete hbeside.changes hp]
      | @consult call next hnext =>
          refine advances_of_quiet hsound hbeside halone disk hnext
            (v := (World.handle authority (.consult t.source call) t.world).2) (Prod.ext ?_ rfl)
            ⟨rfl, rfl, rfl⟩ ⟨rfl, rfl, rfl⟩ ?_ fun i hi => ?_
          · simp only [World.handle, hsound.now, hbeside.now, hbeside.state]
          · simp [World.handle, World.setState, hsound.now, hbeside.now, hbeside.state]
          · simp [World.handle, World.setState, hi]
      | house hname hok herr =>
          exact advances_of_house hsound hbeside halone disk hname hok herr

end Thread

/-! ### The shared world -/

/-- The shared world is put together from the worlds of the threads: the directories on the way are
there as soon as one thread has made them, and below the directory of each node lies what lies there
on the disk of its thread. -/
structure Shared (lab : Lab) (w₀ w : World σ) (threads : List (Thread σ)) : Prop where
  now : w.now = w₀.now
  refusals : w.refusals = []
  workdir : w.disk.workdir = w₀.disk.workdir
  states : ∀ t ∈ threads, w.states t.source = t.world.states t.source
  trunk : Agrees (lab.Shares w₀.disk.workdir) w₀.disk w.disk ∧
      (∀ t ∈ threads, Agrees (lab.Shares w₀.disk.workdir) w₀.disk t.world.disk) ∨
    Agrees (lab.Shares w₀.disk.workdir) (lab.grown w₀.disk) w.disk ∧
      ∃ t ∈ threads, Agrees (lab.Shares w₀.disk.workdir) (lab.grown w₀.disk) t.world.disk
  own : ∀ t ∈ threads, ∀ l, ¬ lab.Shares w₀.disk.workdir l →
    lab.Owns w₀.disk.workdir t.name l → w.disk.entryAt l = t.world.disk.entryAt l
  rest : ∀ l, ¬ lab.Shares w₀.disk.workdir l →
    (∀ t ∈ threads, ¬ lab.Owns w₀.disk.workdir t.name l) → w.disk.entryAt l = w₀.disk.entryAt l

namespace Shared

variable {threads before after : List (Thread σ)} {t t' : Thread σ}

/-- What changed on the shared disk changed on the disk of some thread. -/
lemma changes (h : Shared lab w₀ w threads) (hsound : ∀ t ∈ threads, t.Sound lab w₀) :
    Changes (fun _ => True) (lab.IsFree w₀.disk.workdir) w₀.disk w.disk := by
  refine ⟨h.workdir, fun l => ?_⟩
  by_cases hS : lab.Shares w₀.disk.workdir l
  · rcases h.trunk with ⟨hw, -⟩ | ⟨hw, -⟩
    · exact Or.inl (hw.entry l hS)
    · have hgrown : Changes (fun _ => True) (lab.IsFree w₀.disk.workdir) w₀.disk
          (lab.grown w₀.disk) :=
        (Disk.changes_trunk _ _).mono (fun _ _ => trivial) fun _ h => h.elim
      rw [hw.entry l hS]
      exact hgrown.entry l
  · by_cases hown : ∃ t ∈ threads, lab.Owns w₀.disk.workdir t.name l
    · obtain ⟨t, ht, hown⟩ := hown
      rw [h.own t ht l hS hown]
      exact (hsound t ht).changes.entry l
    · simp only [not_exists, not_and] at hown
      exact Or.inl (h.rest l hS hown)

lemma beside (h : Shared lab w₀ w threads) (hsound : ∀ t ∈ threads, t.Sound lab w₀)
    (ht : t ∈ threads) : t.Beside lab w₀ w where
  now := h.now
  refusals := h.refusals
  state := h.states t ht
  changes := h.changes hsound
  trunk := h.trunk.imp And.left And.left
  agrees := by
    intro hgrown
    rcases h.trunk with ⟨hw, hthreads⟩ | ⟨hw, -⟩
    · exact (hthreads t ht).symm.trans hw
    · exact hgrown.symm.trans hw
  own := h.own t ht

lemma mem_around {u : Thread σ} :
    u ∈ before ++ t :: after ↔ u = t ∨ (u ∈ before ∨ u ∈ after) := by
  rw [List.mem_append, List.mem_cons, or_left_comm]

/-- The other threads differ from one in what no two threads share. -/
lemma ne_of_nodup {β : Type} {f : Thread σ → β} (h : ((before ++ t :: after).map f).Nodup)
    {u : Thread σ} (hu : u ∈ before ∨ u ∈ after) : f u ≠ f t := by
  rw [List.map_append, List.map_cons, List.nodup_append, List.nodup_cons] at h
  obtain ⟨-, ⟨hafter, -⟩, hbefore⟩ := h
  rcases hu with hu | hu
  · exact hbefore _ (List.mem_map_of_mem hu) _ List.mem_cons_self
  · exact fun heq => hafter (heq ▸ List.mem_map_of_mem hu)

/-- The world stays put together when one thread goes on. -/
lemma advance (h : Shared lab w₀ w (before ++ t :: after))
    (hnames : ((before ++ t :: after).map Thread.name).Nodup)
    (hsources : ((before ++ t :: after).map Thread.source).Nodup)
    (hstep : Thread.Advances authority lab w₀ w w' t t') :
    Shared lab w₀ w' (before ++ t' :: after) := by
  have ht : t ∈ before ++ t :: after := mem_around.mpr (Or.inl rfl)
  have ht' : t' ∈ before ++ t' :: after := mem_around.mpr (Or.inl rfl)
  have hold : ∀ u, u ∈ before ∨ u ∈ after → u ∈ before ++ t :: after :=
    fun _ hu => mem_around.mpr (Or.inr hu)
  have hnew : ∀ u, u ∈ before ∨ u ∈ after → u ∈ before ++ t' :: after :=
    fun _ hu => mem_around.mpr (Or.inr hu)
  have hworkdir : w'.disk.workdir = w₀.disk.workdir := by
    rcases hstep.trunk with ⟨hw, -⟩ | ⟨hw, -⟩
    · exact hw.workdir.trans h.workdir
    · exact hw.workdir.trans (Disk.changes_trunk _ _).workdir
  refine ⟨hstep.now.trans h.now, hstep.refusals, hworkdir, fun u hu => ?_, ?_,
    fun u hu l hS hown => ?_, fun l hS hnone => ?_⟩
  · rcases mem_around.mp hu with rfl | hu
    · rw [hstep.source]
      exact hstep.state
    · rw [hstep.others _ (ne_of_nodup hsources hu)]
      exact h.states u (hold u hu)
  · rcases hstep.trunk with ⟨hw, hown⟩ | ⟨hw, hown⟩
    · rcases h.trunk with ⟨hw₀, hthreads⟩ | ⟨hw₁, u, hu, hgrown⟩
      · refine Or.inl ⟨hw₀.trans hw, fun u hu => ?_⟩
        rcases mem_around.mp hu with rfl | hu
        · exact (hthreads t ht).trans hown
        · exact hthreads u (hold u hu)
      · refine Or.inr ⟨hw₁.trans hw, ?_⟩
        rcases mem_around.mp hu with rfl | hu
        · exact ⟨t', ht', hgrown.trans hown⟩
        · exact ⟨u, hnew u hu, hgrown⟩
    · exact Or.inr ⟨hw, t', ht', hown⟩
  · rcases mem_around.mp hu with rfl | hu
    · rw [hstep.name] at hown
      exact hstep.own l hS hown
    · have hother : ¬ lab.Owns w₀.disk.workdir t.name l :=
        fun h => ne_of_nodup hnames hu (Lab.name_eq_of_owns hown h)
      rw [hstep.frame l hS hother]
      exact h.own u (hold u hu) l hS hown
  · have hother : ¬ lab.Owns w₀.disk.workdir t.name l := by
      rw [← hstep.name]
      exact hnone t' ht'
    rw [hstep.frame l hS hother]
    refine h.rest l hS fun u hu => ?_
    rcases mem_around.mp hu with rfl | hu
    · exact hother
    · exact hnone u (hnew u hu)

end Shared

end LabTrust
