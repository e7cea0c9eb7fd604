/-
Topologies that were read, and the containers of their nodes.

* `Topology.nodup_of_read`: the names of the nodes differ.
* `NodeRegistry.find?_builtIn`: the built-in kinds by their names.
* `Topology.configs_of_read`: every node has a container, which bears its names; a node of an
  unknown kind has it as written, and one that runs a machine has the command of its kind.
-/
import LabTrust.Proofs.Node.Machine
import LabTrust.Topology

namespace LabTrust

/-! ### What was read -/

namespace Topology

variable {content : Bytes} {t : Topology}

/-- No name of a node comes again in a topology that was read. -/
lemma repeatedName?_of_read (h : read content = .ok t) :
    repeatedName? [] (t.entries.map (·.name)) = none := by
  rw [read] at h
  split at h
  · cases h
  · split at h
    · cases h
    · split at h
      · cases h
      · split at h
        · cases h
        · split at h
          · cases h
          · next hrepeated =>
            exact Except.ok.inj h ▸ hrepeated

lemma nodup_of_repeatedName? {seen names : List String} (h : repeatedName? seen names = none) :
    names.Nodup ∧ ∀ name ∈ names, name ∉ seen := by
  induction names generalizing seen with
  | nil => exact ⟨List.nodup_nil, fun _ hname => absurd hname List.not_mem_nil⟩
  | cons name rest ih =>
      rw [repeatedName?] at h
      split at h
      · simp at h
      · next hseen =>
        obtain ⟨hnodup, hnew⟩ := ih h
        refine ⟨List.nodup_cons.mpr ⟨fun hmem => hnew name hmem List.mem_cons_self, hnodup⟩, ?_⟩
        intro other hother
        rcases List.mem_cons.mp hother with rfl | hother
        · simpa using hseen
        · exact fun hmem => hnew other hother (List.mem_cons_of_mem _ hmem)

/-- The names of the nodes in a topology that was read differ. -/
lemma nodup_of_read (h : read content = .ok t) : (t.nodes.map NodeInfo.shortName).Nodup := by
  rw [nodes, List.map_map]
  exact (nodup_of_repeatedName? (repeatedName?_of_read h)).1

end Topology

/-! ### Built-in kinds -/

namespace NodeRegistry

lemma kinds_builtIn : builtIn.kinds = [.linux, .srl, .machine "vr-csr", .machine "vr-ftosv"] := by
  decide +kernel

/-- Two of the built-in kinds run a machine, two do not. -/
lemma find?_builtIn (name : String) :
    ((name = "vr-csr" ∨ name = "vr-ftosv") ∧ builtIn.find? name = some (.machine name)) ∨
    ¬ (name = "vr-csr" ∨ name = "vr-ftosv") ∧ (builtIn.find? name = some .linux ∨
      builtIn.find? name = some .srl ∨ builtIn.find? name = none) := by
  rw [Ordered.find?, ← kinds, kinds_builtIn]
  by_cases hmachine : name = "vr-csr" ∨ name = "vr-ftosv"
  · exact Or.inl ⟨hmachine, by rcases hmachine with rfl | rfl <;> rfl⟩
  refine Or.inr ⟨hmachine, ?_⟩
  by_cases hlinux : name = "linux"
  · exact Or.inl (by rw [hlinux]; rfl)
  by_cases hsrl : name = "srl"
  · exact Or.inr (Or.inl (by rw [hsrl]; rfl))
  obtain ⟨hcsr, hftosv⟩ := not_or.mp hmachine
  refine Or.inr (Or.inr ?_)
  simp [NodeKind.linux, NodeKind.srl, NodeKind.machine, Ne.symm hlinux, Ne.symm hsrl,
    Ne.symm hcsr, Ne.symm hftosv]

end NodeRegistry

/-! ### Containers -/

namespace NodeKind

lemma exists_apply_linux (config : NodeConfig) (net : ManagementNet) :
    ∃ out, linux.apply config net = .ok out :=
  exists_apply_of_plain rfl nofun

lemma exists_apply_srl (config : NodeConfig) (net : ManagementNet) :
    ∃ out, srl.apply config net = .ok out := by
  refine exists_apply_of_plain rfl ?_
  rintro _ ⟨rfl⟩ input
  exact ⟨_, expand_word (by cbv)⟩

end NodeKind

namespace Topology

variable {content : Bytes} {t : Topology} {n : TopologyNode}

/-- What becomes of a node beside the built-in kinds: a node of another kind is left as written, and
one that runs a machine has its own values in its command, or else those of its kind. -/
structure Settles (t : Topology) (n : TopologyNode) (config : NodeConfig) : Prop where
  names : config.shortName = n.name ∧ config.longName = "clab-" ++ t.name ++ "-" ++ n.name ∧
    config.kind = n.kind
  unknown : NodeRegistry.builtIn.find? n.kind = none → config = t.written n
  machine : n.kind = "vr-csr" ∨ n.kind = "vr-ftosv" → NodeKind.RunsMachine (t.written n) config
    ((n.env.find? "USERNAME").getD "admin") ((n.env.find? "PASSWORD").getD "admin")
    ((n.env.find? "CONNECTION_MODE").getD "tc")

lemma exists_settles (t : Topology) (n : TopologyNode) :
    ∃ config, (match NodeRegistry.builtIn.find? n.kind with
      | some kind => kind.apply (t.written n) t.net
      | none => .ok (t.written n)) = .ok config ∧ t.Settles n config := by
  rcases NodeRegistry.find?_builtIn n.kind with ⟨-, hfind⟩ | ⟨hkind, hfind | hfind | hfind⟩
  · obtain ⟨out, hout, hmachine⟩ := NodeKind.apply_machine n.kind (t.written n) t.net
    rw [hfind]
    exact ⟨out, hout, NodeKind.names_of_apply hout, by simp [hfind], fun _ => hmachine⟩
  · obtain ⟨out, hout⟩ := NodeKind.exists_apply_linux (t.written n) t.net
    rw [hfind]
    exact ⟨out, hout, NodeKind.names_of_apply hout, by simp [hfind], fun h => absurd h hkind⟩
  · obtain ⟨out, hout⟩ := NodeKind.exists_apply_srl (t.written n) t.net
    rw [hfind]
    exact ⟨out, hout, NodeKind.names_of_apply hout, by simp [hfind], fun h => absurd h hkind⟩
  · rw [hfind]
    exact ⟨_, rfl, ⟨rfl, rfl, rfl⟩, fun _ => rfl, fun h => absurd h hkind⟩

/-- Every topology that was read has a container for each of its nodes, in order. It bears the names
that certificates know the node by, no two of them the same short name. -/
theorem configs_of_read (content : Bytes) (t : Topology) (h : read content = .ok t) :
    ∃ configs, t.configs .builtIn = .ok configs ∧
      List.Forall₂ (fun node config => config.shortName = node.shortName ∧
        config.longName = node.longName ∧ config.kind = node.kind) t.nodes configs ∧
      (configs.map NodeConfig.shortName).Nodup ∧
      List.Forall₂ (fun n config =>
        (NodeRegistry.builtIn.find? n.kind = none → config = t.written n) ∧
        (n.kind = "vr-csr" ∨ n.kind = "vr-ftosv" → NodeKind.RunsMachine (t.written n) config
          ((n.env.find? "USERNAME").getD "admin") ((n.env.find? "PASSWORD").getD "admin")
          ((n.env.find? "CONNECTION_MODE").getD "tc"))) t.entries configs := by
  obtain ⟨configs, hconfigs, hsettles⟩ := Except.exists_mapM_eq_ok fun n _ =>
    exists_settles t n
  have hnames : configs.map NodeConfig.shortName = t.nodes.map NodeInfo.shortName := by
    rw [nodes, List.map_map, ← List.forall₂_eq_eq_eq, List.forall₂_map_left_iff,
      List.forall₂_map_right_iff]
    exact List.Forall₂.flip (hsettles.imp fun n config h => h.names.1)
  refine ⟨configs, hconfigs, ?_, hnames ▸ nodup_of_read h, ?_⟩
  · rw [nodes, List.forall₂_map_left_iff]
    exact hsettles.imp fun n config h => h.names
  · exact hsettles.imp fun n config h => ⟨h.unknown, h.machine⟩

/-- A lab of a machine that taps the network of its host and a node of an unknown kind. -/
def tapped : Topology where
  name := "lab"
  entries := [
    { name := "r1"
      kind := "vr-csr"
      env.items := [("CONNECTION_MODE", "macvtap"), ("PASSWORD", "\x7b\x7b node \x7d\x7d")]
      binds := ["/a:/a"] },
    { name := "r2"
      kind := "ceos"
      command := "run" }]

/-- Its file. -/
def tappedFile : Bytes := .ofText (String.intercalate "\n"
  ["name = \"lab\"", "[[nodes]]", "name = \"r1\"", "kind = \"vr-csr\"", "binds = [\"/a:/a\"]",
    "[nodes.env]", "PASSWORD = \"\x7b\x7b node \x7d\x7d\"", "CONNECTION_MODE = \"macvtap\"",
    "[[nodes]]", "name = \"r2\"", "kind = \"ceos\"", "cmd = \"run\""])

theorem configs_of_tapped : read tappedFile = .ok tapped ∧
    ∃ r1 r2, tapped.configs .builtIn = .ok [r1, r2] ∧ r1.longName = "clab-lab-r1" ∧
      r1.command = "--username admin --password \x7b\x7b node \x7d\x7d --hostname r1 " ++
        "--connection-mode macvtap --trace" ∧
      "/dev:/dev" ∈ r1.binds ∧
      r2 = tapped.written { name := "r2", kind := "ceos", command := "run" } := by
  have hread : read tappedFile = .ok tapped := by
    rw [read, tappedFile, Bytes.text?_ofText]
    decide +kernel
  obtain ⟨configs, hconfigs, hnames, -, hsettles⟩ := configs_of_read tappedFile tapped hread
  obtain ⟨r1, _, hr1, hrest, rfl⟩ := List.forall₂_cons_left_iff.mp hsettles
  obtain ⟨r2, _, hr2, hnil, rfl⟩ := List.forall₂_cons_left_iff.mp hrest
  obtain rfl := List.forall₂_nil_left_iff.mp hnil
  have hlong := (List.forall₂_cons.mp hnames).1.2.1
  have hmachine := hr1.2 (Or.inl rfl)
  exact ⟨hread, r1, r2, hconfigs, hlong, hmachine.command, hmachine.devices rfl,
    hr2.1 (by decide +kernel)⟩

end Topology

end LabTrust
