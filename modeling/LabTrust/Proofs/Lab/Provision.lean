/-
Many nodes at a time.

A lab makes the certificates of its nodes one after the other; a command makes some of them at a
time, whose effects come in any order. Both end alike, because each call ends as it would end alone.
* `Report.Alike`: two reports are the same, up to how an obstacle on the way was met.
* `Lab.SameChance`: two worlds with the same random values for each node.
* `Lab.issueAll_ends_alike`: reports and disks at the end of the two ways.
-/
import LabTrust.CommandLine.Run
import LabTrust.Proofs.Lab.Pace
import LabTrust.Proofs.Lab.Stability
import LabTrust.Proofs.Topology
import Mathlib.Data.List.Nodup

namespace LabTrust

open Disk (Agrees)

variable {σ : Type} {authority : Authority σ} {lab : Lab} {w w' : World σ}

/-! ### Reports -/

/-- Two failures are the same, unless the way to the directories of all nodes is blocked: then the
obstacle may be met in two ways. -/
def NodeFailure.Alike (lab : Lab) (d : Disk) (f f' : NodeFailure) : Prop :=
  Outcome.Alike lab d ⟨f.node, .error f.error⟩ ⟨f'.node, .error f'.error⟩

/-- Two reports name the same root, the same nodes that got a certificate, and like failures of the
same nodes, in the same order. -/
structure Report.Alike (lab : Lab) (d : Disk) (r r' : Report) : Prop where
  root : r'.root = r.root
  issued : r'.issued = r.issued
  failed : List.Forall₂ (NodeFailure.Alike lab d) r.failed r'.failed

namespace Report

variable {d : Disk} {outcomes outcomes' : List Outcome} {r r' : Report}

/-- Like outcomes give like reports. -/
lemma alike_ofOutcomes (root : RootOutcome)
    (h : List.Forall₂ (Outcome.Alike lab d) outcomes outcomes') :
    (ofOutcomes root outcomes).Alike lab d (ofOutcomes root outcomes') := by
  have hlists : outcomes'.filterMap Outcome.issued? = outcomes.filterMap Outcome.issued? ∧
      List.Forall₂ (NodeFailure.Alike lab d) (outcomes.filterMap Outcome.failure?)
        (outcomes'.filterMap Outcome.failure?) := by
    induction h with
    | nil => exact ⟨rfl, .nil⟩
    | @cons o o' os os' ho _ ih =>
        obtain ⟨hissued, hfailed⟩ := ih
        simp only [List.filterMap_cons]
        obtain ⟨node, result⟩ := o
        obtain ⟨node', result'⟩ := o'
        cases result with
        | ok b =>
            rcases ho with heq | ⟨-, -, h | h, -⟩
            · cases heq
              exact ⟨congrArg _ hissued, hfailed⟩
            · simp at h
            · simp at h
        | error e =>
            have herror : ∃ e', result' = .error e' := by
              rcases ho with heq | ⟨-, -, -, h | h⟩
              · cases heq
                exact ⟨e, rfl⟩
              · exact ⟨_, h⟩
              · exact ⟨_, h⟩
            obtain ⟨e', rfl⟩ := herror
            exact ⟨hissued, .cons ho hfailed⟩
  exact ⟨rfl, hlists.1, hlists.2⟩

/-- Where the way to the directories of nodes is not blocked, like reports are the same. -/
lemma Alike.eq (h : r.Alike lab d r') (hblocked : ¬ d.Blocked lab.layout.nodesDirectory) :
    r' = r := by
  obtain ⟨hroot, hissued, hfailed⟩ := h
  have hsame : r'.failed = r.failed := by
    generalize r.failed = fs at hfailed
    generalize r'.failed = fs' at hfailed
    induction hfailed with
    | nil => rfl
    | @cons f f' rest rest' hf _ ih =>
        rcases hf with heq | ⟨h, -⟩
        · obtain ⟨hnode, herror⟩ := Outcome.mk.inj heq
          rw [ih]
          congr 1
          cases f
          cases f'
          simp only [Except.error.injEq] at hnode herror
          rw [hnode, herror]
        · exact absurd h hblocked
  cases r
  cases r'
  simp_all

/-- Where no two outcomes are of one node, a node got a certificate or failed, but not both. -/
lemma issued_or_failed (root : RootOutcome) (hnodes : (outcomes.map Outcome.node).Nodup)
    {o : Outcome} (ho : o ∈ outcomes) :
    (o.node ∈ (ofOutcomes root outcomes).issued ∧
        o.node ∉ (ofOutcomes root outcomes).failed.map NodeFailure.node) ∨
      (o.node ∉ (ofOutcomes root outcomes).issued ∧
        o.node ∈ (ofOutcomes root outcomes).failed.map NodeFailure.node) := by
  have heq : ∀ o' ∈ outcomes, o'.node = o.node → o' = o := fun o' ho' hnode =>
    List.inj_on_of_nodup_map hnodes ho' ho hnode
  have hissued : o.node ∈ outcomes.filterMap Outcome.issued? ↔ ∃ b, o.result = .ok b := by
    rw [List.mem_filterMap]
    constructor
    · rintro ⟨o', ho', hname⟩
      rw [Outcome.issued?] at hname
      split at hname
      · next b hb =>
        obtain rfl := heq o' ho' (Option.some.inj hname)
        exact ⟨b, hb⟩
      · simp at hname
    · rintro ⟨b, hb⟩
      exact ⟨o, ho, by rw [Outcome.issued?, hb]⟩
  have hfailed : o.node ∈ (outcomes.filterMap Outcome.failure?).map NodeFailure.node ↔
      ∃ e, o.result = .error e := by
    rw [List.mem_map]
    constructor
    · rintro ⟨f, hf, hname⟩
      obtain ⟨o', ho', hfailure⟩ := List.mem_filterMap.mp hf
      rw [Outcome.failure?] at hfailure
      split at hfailure
      · simp at hfailure
      · next e he =>
        obtain rfl := Option.some.inj hfailure
        obtain rfl := heq o' ho' hname
        exact ⟨e, he⟩
    · rintro ⟨e, he⟩
      exact ⟨⟨o.node, e⟩, List.mem_filterMap.mpr ⟨o, ho, by rw [Outcome.failure?, he]⟩, rfl⟩
  rw [ofOutcomes]
  simp only [hissued, hfailed]
  cases o.result with
  | ok b => exact Or.inl ⟨⟨b, rfl⟩, by simp⟩
  | error e => exact Or.inr ⟨by simp, e, rfl⟩

end Report

/-! ### Runs -/

namespace Lab

variable {w₁ w₁' : World σ} {nodes : List NodeInfo}

/-- In order, each outcome is that of its node. -/
lemma node_inOrder : ((World.run authority (Program.inOrder (nodes.map lab.tryNode)) w).1).map
    Outcome.node = nodes.map NodeInfo.shortName := by
  induction nodes generalizing w with
  | nil => rfl
  | cons node rest ih =>
      have hrest := ih (w := (World.run authority (lab.tryNode node) w).2)
      rw [List.map_cons, Program.inOrder, World.run, Program.run_bind, Program.run_bind,
        Program.run, List.map_cons]
      refine congrArg₂ List.cons ?_ hrest
      rw [tryNode]
      exact congrArg (Outcome.node ∘ Prod.fst) (Program.run_bind _ _ _ _)

/-- Threads in turns, and the same one after the other, end with like outcomes and one disk. -/
lemma turns_alike (authority : Authority σ)
    (hlab : ∀ node ∈ nodes, lab.ApartFrom w₁.disk.workdir node.shortName)
    (hcomplete : w₁.disk.Complete lab.rootFiles)
    (hnodes : (nodes.map NodeInfo.shortName).Nodup) (hdisk : w₁'.disk = w₁.disk)
    (hnow : w₁'.now = w₁.now) (hrefusals : w₁.refusals = []) (hrefusals' : w₁'.refusals = [])
    (hstates : ∀ k s, (Program.sourcesInOrder authority (nodes.map lab.tryNode) w₁)[k]? = some s →
      w₁'.states (1 + k) = s) (limit : ℕ) (schedule : List ℕ) :
    let inOrder := World.run authority (Program.inOrder (nodes.map lab.tryNode)) w₁
    let inTurns := World.run authority (lab.issueInTurns limit schedule nodes) w₁'
    List.Forall₂ (Outcome.Alike lab w₁.disk) inOrder.1 inTurns.1 ∧
      inOrder.2.disk.Same inTurns.2.disk := by
  intro inOrder inTurns
  have hnames : (((lab.threads w₁' 1 nodes).map (Thread.fate authority)).map
      fun f => f.1).Nodup := by
    rw [List.map_map]
    exact (@name_threads _ lab w₁' 1 nodes).symm ▸ hnodes
  have hsources : (((lab.threads w₁' 1 nodes).map (Thread.fate authority)).map
      fun f => f.2.1).Nodup := by
    rw [List.map_map]
    exact (@source_threads _ lab w₁' 1 nodes).symm ▸ List.nodup_range'
  have hcomplete' : w₁'.disk.Complete lab.rootFiles := hdisk ▸ hcomplete
  have hkeeps := keeps_pace authority hcomplete' hnames hsources
  have hlab' : ∀ node ∈ nodes, lab.ApartFrom w₁'.disk.workdir node.shortName := hdisk ▸ hlab
  have hstart := pace_start authority 1 hlab' hrefusals'
  have hturns := hkeeps.interleave (max limit 1) schedule hstart
  have horder := hkeeps.interleave 1 [] hstart
  rw [Program.interleave_nil] at horder
  have honly : ∀ p ∈ nodes.map lab.tryNode, p.Only Effect.IsUsual := by
    intro p hp
    obtain ⟨node, -, rfl⟩ := List.mem_map.mp hp
    exact lab.only_tryNode node
  obtain ⟨hresults, hdisks⟩ := Program.inOrder_withSources honly hdisk hnow
    (hrefusals'.trans hrefusals.symm) hstates
  have halike := Outcome.forall₂_alike horder.alike hturns.alike
  have hsame := horder.same hturns
  rw [hdisk, hresults] at halike
  rw [Disk.Same, hdisks] at hsame
  exact ⟨halike, hsame⟩

/-- In the second world the nodes have a source each, in which each finds what it finds in the
usual source of the first world if all run in order there. The rest is the same, and no write is
refused. -/
structure SameChance (authority : Authority σ) (lab : Lab) (nodes : List NodeInfo)
    (w w' : World σ) : Prop where
  disk : w'.disk = w.disk
  now : w'.now = w.now
  refusals : w.refusals = []
  refusals' : w'.refusals = []
  root : w'.states 0 = w.states 0
  nodes : ∀ k s, (Program.sourcesInOrder authority ((lab.policy.qualifying nodes).map lab.tryNode)
    (World.run authority (lab.ensureRoot lab.rootInput).run w).2)[k]? = some s →
      w'.states (1 + k) = s

/-- For every world without refused writes there is such a second one. -/
lemma exists_sameChance (authority : Authority σ) (lab : Lab) (nodes : List NodeInfo)
    (hrefusals : w.refusals = []) : ∃ w', lab.SameChance authority nodes w w' := by
  let sources := Program.sourcesInOrder authority ((lab.policy.qualifying nodes).map lab.tryNode)
    (World.run authority (lab.ensureRoot lab.rootInput).run w).2
  refine ⟨{ w with states := fun i =>
    if i = 0 then w.states 0 else sources[i - 1]?.getD (w.states 0) },
    rfl, rfl, hrefusals, hrefusals, rfl, fun k s hs => ?_⟩
  have hk : ¬ 1 + k = 0 := by omega
  simp only [if_neg hk, Nat.add_sub_cancel_left]
  exact congrArg (Option.getD · _) hs

/-- How a root is made hangs on the usual source only, and leaves the others as they are. -/
lemma run_ensureRoot (authority : Authority σ) (lab : Lab) (hdisk : w'.disk = w.disk)
    (hnow : w'.now = w.now) (hrefusals : w'.refusals = w.refusals)
    (hroot : w'.states 0 = w.states 0) (input : RootInput) :
    (World.run authority (lab.ensureRoot input).run w').1 =
        (World.run authority (lab.ensureRoot input).run w).1 ∧
      (World.run authority (lab.ensureRoot input).run w).2.Lends 0
        (World.run authority (lab.ensureRoot input).run w').2 ∧
      ∀ i ≠ 0, (World.run authority (lab.ensureRoot input).run w').2.states i = w'.states i := by
  have honly : (lab.ensureRoot input).run.Only Effect.IsUsual := only_ensureRoot _ _ _
  have hrun := Program.run_drawFrom authority honly
    (⟨hdisk, hnow, hrefusals, hroot⟩ : w.Lends 0 w')
  rw [Program.drawFrom_zero honly] at hrun
  exact hrun

/-- A root that was made is complete, on a disk with the same working directory. -/
lemma complete_of_run {root : RootOutcome}
    (h : (World.run authority (lab.ensureRoot lab.rootInput).run w).1 = .ok root) :
    (World.run authority (lab.ensureRoot lab.rootInput).run w).2.disk.Complete lab.rootFiles ∧
      (World.run authority (lab.ensureRoot lab.rootInput).run w).2.disk.workdir =
        w.disk.workdir := by
  have hfiles : lab.rootInput.files lab.layout.rootDirectory = lab.rootFiles := rfl
  have hcomplete := @complete_of_ensureRoot _ ⟨authority, w.now, w.states, w.refusals⟩ w.disk _ _ _
    _ h
  rw [hfiles, Visit.after, Visit.world] at hcomplete
  exact hcomplete

/-- A provision whose root fails ends there; otherwise it reports how its nodes ended. -/
lemma run_provision (authority : Authority σ) (w : World σ) {nodes : List NodeInfo}
    (h : (lab.policy.qualifying nodes).isEmpty = false) :
    let rooted := World.run authority (lab.ensureRoot lab.rootInput).run w
    let ended := World.run authority
      (Program.inOrder ((lab.policy.qualifying nodes).map lab.tryNode)) rooted.2
    World.run authority (lab.provision nodes .proceed).run w = (match rooted.1 with
      | .ok root => (.ok (.ofOutcomes root ended.1), ended.2)
      | .error e => (.error e, rooted.2)) := by
  intro rooted ended
  rw [provision]
  simp only [h, Bool.false_eq_true, if_false]
  cases hroot : rooted.1 with
  | error e => exact World.run_bind_of_error (Prod.ext hroot rfl)
  | ok root =>
      have hnodes : World.run authority (Action.of (Program.inOrder
          ((lab.policy.qualifying nodes).map lab.tryNode))).run rooted.2 =
            (.ok ended.1, ended.2) :=
        World.run_lift _
      exact (World.run_bind_of_ok (Prod.ext hroot rfl)).trans (World.run_bind_of_ok hnodes)

/-- So does the command, with its nodes in turns and a report of its own on failures. -/
lemma run_issueAll (authority : Authority σ) (w : World σ) {nodes : List NodeInfo}
    (h : (lab.policy.qualifying nodes).isEmpty = false)
    (jobs : ℕ) (schedule : List ℕ) :
    let rooted := World.run authority (lab.ensureRoot lab.rootInput).run w
    let ended := World.run authority
      (lab.issueInTurns jobs schedule (lab.policy.qualifying nodes)) rooted.2
    World.run authority (CommandLine.issueAll lab jobs schedule nodes).run w =
      (match rooted.1 with
      | .ok root => (.ok (.ofOutcomes root ended.1), ended.2)
      | .error e => (.error (.within ("Failed to create the root CA of lab " ++ lab.name)
          (.ofError e)), rooted.2)) := by
  intro rooted ended
  have hwork : World.run authority (CommandLine.Work.within
      ("Failed to create the root CA of lab " ++ lab.name)
      (.ofAction (lab.ensureRoot lab.rootInput))).run w =
        ((rooted.1.mapError CommandLine.Diagnosis.ofError).mapError
          (.within ("Failed to create the root CA of lab " ++ lab.name)), rooted.2) := by
    refine (Program.run_bind _ _ _ _).trans ?_
    exact congrArg (fun r => (Except.mapError _ r.1, r.2)) (Program.run_bind _ _ _ _)
  rw [CommandLine.issueAll]
  simp only [h, Bool.false_eq_true, if_false]
  cases hroot : rooted.1 with
  | error e =>
      rw [hroot] at hwork
      exact World.run_bind_of_error hwork
  | ok root =>
      rw [hroot] at hwork
      have hnodes : World.run authority (CommandLine.Work.ofProgram
          (lab.issueInTurns jobs schedule (lab.policy.qualifying nodes))).run rooted.2 =
            (.ok ended.1, ended.2) :=
        World.run_lift _
      exact (World.run_bind_of_ok hwork).trans (World.run_bind_of_ok hnodes)

end Lab

/-! ### Two nodes -/

/-- Two nodes of a kind that gets certificates. One bears the name of the root's directory. -/
def Topology.pair : Topology where
  name := "lab"
  entries := [{ name := "r1", kind := "srl" }, { name := "root", kind := "srl" }]

/-- A file that describes them. -/
def Topology.pairFile : Bytes := .ofText (String.intercalate "\n"
  ["name = \"lab\"", "[[nodes]]", "name = \"r1\"", "kind = \"srl\"",
    "[[nodes]]", "name = \"root\"", "kind = \"srl\""])

lemma Topology.read_pairFile : read pairFile = .ok pair := by decide +kernel

/-- A world where nothing is in the way of a lab. -/
def World.bare : World Unit := ⟨{}, ⟨0, 0⟩, fun _ => (), []⟩

/-- A lab whose nodes have their directories behind something missing. -/
def Lab.detour : Lab where
  name := "lab"
  layout := { LabLayout.ofLab (.ofText "x/../y") "lab" with rootDirectory := .ofText "ca" }
  nodeTemplate := ⟨"node", [.text "[\"node\"]".toList]⟩

/-- There is a file where it leads, and a root that is complete. -/
def World.detour : World Unit where
  disk := { entries := (["y".toList], .file []) :: Disk.crowded.entries }
  now := ⟨0, 0⟩
  states _ := ()

/-- Beside an authority without random values all worlds give the same chance. -/
lemma Lab.SameChance.refl (lab : Lab) (nodes : List NodeInfo) (w : World Unit)
    (hrefusals : w.refusals = []) : lab.SameChance .plain nodes w w :=
  ⟨rfl, rfl, hrefusals, hrefusals, rfl, fun _ _ _ => rfl⟩

/-! ### In order and in turns -/

namespace Lab

/-- The certificates of a topology's nodes come out alike whether they are made one after the other
or some at a time, in whatever turns: the disk is the same at the end, and if the root was made the
reports name the same nodes, each once, and the same failures, unless something blocks the way to
the directories of all nodes. -/
theorem issueAll_ends_alike (authority : Authority σ) (lab : Lab) (content : Bytes) (t : Topology)
    (ht : Topology.read content = .ok t) (w w' : World σ)
    (hlab : ∀ node ∈ lab.policy.qualifying t.nodes,
      lab.ApartFrom w.disk.workdir node.shortName)
    (hchance : lab.SameChance authority t.nodes w w') (jobs : ℕ) (schedule : List ℕ) :
    let inOrder := World.run authority (lab.provision t.nodes .proceed).run w
    let inTurns := World.run authority (CommandLine.issueAll lab jobs schedule t.nodes).run w'
    let rooted := (World.run authority (lab.ensureRoot lab.rootInput).run w).2
    inOrder.2.disk.Same inTurns.2.disk ∧
      ((∃ e, inOrder.1 = .error e ∧ inTurns.1 = .error
          (.within ("Failed to create the root CA of lab " ++ lab.name) (.ofError e))) ∨
        ∃ r r', inOrder.1 = .ok r ∧ inTurns.1 = .ok r' ∧ r.Alike lab rooted.disk r' ∧
          ∀ node ∈ lab.policy.qualifying t.nodes,
            (node.shortName ∈ r'.issued ∧ node.shortName ∉ r'.failed.map NodeFailure.node) ∨
              (node.shortName ∉ r'.issued ∧
                node.shortName ∈ r'.failed.map NodeFailure.node)) := by
  intro inOrder inTurns rooted
  obtain ⟨hdisk, hnow, hrefusals, hrefusals', hstate, hnodes⟩ := hchance
  cases hempty : (lab.policy.qualifying t.nodes).isEmpty with
  | true =>
      have horder : inOrder = (.ok {}, w) := by
        simp only [inOrder, provision, hempty, if_true]
        rfl
      have hturns : inTurns = (.ok {}, w') := by
        simp only [inTurns, CommandLine.issueAll, hempty, if_true]
        rfl
      rw [horder, hturns]
      refine ⟨hdisk ▸ Agrees.refl _ _, Or.inr ⟨{}, {}, rfl, rfl, ⟨rfl, rfl, .nil⟩, ?_⟩⟩
      rw [List.isEmpty_iff.mp hempty]
      exact fun node hnode => absurd hnode List.not_mem_nil
  | false =>
      obtain ⟨hsame, hlends, hothers⟩ := run_ensureRoot authority lab hdisk
        hnow (hrefusals'.trans hrefusals.symm) hstate lab.rootInput
      have horder := run_provision authority w hempty
      have hturns := run_issueAll authority w' hempty jobs schedule
      simp only at horder
      simp only [hsame] at hturns
      cases hroot : (World.run authority (lab.ensureRoot lab.rootInput).run w).1 with
      | error e =>
          rw [hroot] at horder hturns
          simp only [inOrder, inTurns, horder, hturns]
          exact ⟨hlends.disk ▸ Agrees.refl _ _, Or.inl ⟨e, rfl, rfl⟩⟩
      | ok root =>
          obtain ⟨hcomplete, hworkdir⟩ := complete_of_run hroot
          have hdistinct : ((lab.policy.qualifying t.nodes).map NodeInfo.shortName).Nodup :=
            (Topology.nodup_of_read ht).sublist (List.filter_sublist.map _)
          obtain ⟨halike, hend⟩ := turns_alike authority (hworkdir ▸ hlab) hcomplete
            hdistinct hlends.disk hlends.now (World.refusals_run hrefusals _)
            (World.refusals_run hrefusals' _)
            (fun k s hs => (hothers _ (by omega)).trans (hnodes k s hs)) jobs schedule
          rw [hroot] at horder hturns
          simp only [inOrder, inTurns, horder, hturns]
          refine ⟨hend, Or.inr ⟨_, _, rfl, rfl, Report.alike_ofOutcomes root halike, ?_⟩⟩
          intro node hnode
          have hnames := (Outcome.map_node_alike halike).trans node_inOrder
          have hmem : node.shortName ∈ (lab.policy.qualifying t.nodes).map NodeInfo.shortName :=
            List.mem_map_of_mem hnode
          rw [← hnames] at hmem
          obtain ⟨o, ho, hname⟩ := List.mem_map.mp hmem
          rw [← hname]
          exact Report.issued_or_failed root (hnames ▸ hdistinct) ho

/-- Two nodes in the usual layout, one of them in the directory of the root. -/
theorem pair_ends_alike :
    let inOrder := World.run .plain (usual.provision Topology.pair.nodes .proceed).run .bare
    let inTurns :=
      World.run .plain (CommandLine.issueAll usual 2 [1, 0, 1] Topology.pair.nodes).run .bare
    inOrder.2.disk.Same inTurns.2.disk :=
  (issueAll_ends_alike .plain usual _ _ Topology.read_pairFile .bare .bare
    (fun node _ => apart_ofLab rfl node.shortName) (.refl _ _ _ rfl) 2 [1, 0, 1]).1

/-- Where the way to the directories of all nodes is blocked, the refusals hang on the turns. -/
theorem refusals_may_differ :
    ¬ ∀ (authority : Authority Unit) (lab : Lab) (content : Bytes) (t : Topology),
      Topology.read content = .ok t → ∀ w w' : World Unit,
        (∀ node ∈ lab.policy.qualifying t.nodes, lab.ApartFrom w.disk.workdir node.shortName) →
          lab.SameChance authority t.nodes w w' → ∀ (jobs : ℕ) (schedule : List ℕ),
            (World.run authority
                (CommandLine.issueAll lab jobs schedule t.nodes).run w').1.toOption =
              (World.run authority (lab.provision t.nodes .proceed).run w).1.toOption := by
  intro h
  have hsame := h .plain .detour _ _ Topology.read_pairFile .detour .detour (fun node hnode => ?_)
    (.refl _ _ _ rfl) 2 (List.replicate 6 1)
  · revert hsame
    decide +kernel
  · have hnodes : Lab.detour.policy.qualifying Topology.pair.nodes =
        [NodeInfo.ofLab "lab" "r1" "srl", NodeInfo.ofLab "lab" "root" "srl"] := by decide
    rw [hnodes] at hnode
    simp only [List.mem_cons, List.not_mem_nil, or_false] at hnode
    rcases hnode with rfl | rfl
    · exact apartFrom_of_place_ne (by decide)
    · exact apartFrom_of_place_ne (by decide)

end Lab

end LabTrust
