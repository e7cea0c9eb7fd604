/-
How the settings of a node and the defaults of its kind are put together.

* `NodeKind.fillDefaults_eq_ok_iff`: the defaults of a kind are filled in one by one.
* `NodeKind.foldl_addBind`: the rules of a kind add the binds of those that hold, each once.
* `NodeKind.IsMerged`: the environment that a node has in the end, told by its values.
* `NodeKind.apply_merges`: when defaults can be put under settings, and what the settings are then.
* `NodeKind.apply_settles`: doing so again changes nothing.
-/
import LabTrust.Node.Config
import LabTrust.Proofs.Except
import LabTrust.Proofs.Node.Environment

namespace LabTrust

/-- What the template of a default sees of a node and its network. -/
def NodeConfig.surroundings (config : NodeConfig) (net : ManagementNet) : Data :=
  .record [("node", config.names), ("mgmt", net.toData)]

/-- What the template of a command sees beside them: the environment of the node. -/
def NodeConfig.surroundingsWith (config : NodeConfig) (net : ManagementNet) (env : Environment) :
    Data :=
  .record [("node", config.names), ("mgmt", net.toData), ("env", env.toData)]

/-- The variable of a rule has the rule's value. -/
def BindRule.Holds (env : Environment) (rule : BindRule) : Prop :=
  env.find? rule.variableName = some rule.value

instance (env : Environment) (rule : BindRule) : Decidable (rule.Holds env) :=
  inferInstanceAs (Decidable (_ = _))

namespace NodeKind

variable {kind : NodeKind} {config out : NodeConfig} {net : ManagementNet}
  {defaults filled env env' : Environment} {entries items : List (String × String)}
  {name source : String}

/-! ### Defaults -/

/-- A default of a node, filled in. -/
def Fills (config : NodeConfig) (net : ManagementNet) (entry filled : String × String) : Prop :=
  filled.1 = entry.1 ∧ Template.expand entry.2 (config.surroundings net) = .ok filled.2

lemma names_of_fills (h : List.Forall₂ (Fills config net) entries items) :
    items.map Prod.fst = entries.map Prod.fst := by
  induction h with
  | nil => rfl
  | cons hentry _ ih => rw [List.map_cons, List.map_cons, hentry.1, ih]

lemma mem_of_fills (h : List.Forall₂ (Fills config net) entries items)
    (hmem : (name, source) ∈ entries) :
    ∃ value, Template.expand source (config.surroundings net) = .ok value ∧
      (name, value) ∈ items := by
  induction h with
  | nil => cases hmem
  | @cons entry filled _ _ hentry _ ih =>
      rcases List.mem_cons.mp hmem with rfl | hmem
      · obtain ⟨n, value⟩ := filled
        obtain ⟨rfl : n = name, hvalue⟩ := hentry
        exact ⟨value, hvalue, List.mem_cons_self⟩
      · obtain ⟨value, hvalue, hfilled⟩ := ih hmem
        exact ⟨value, hvalue, List.mem_cons_of_mem _ hfilled⟩

lemma fillDefault_eq_ok_iff {entry : String × String} :
    fillDefault config net env entry = .ok env' ↔
      ∃ value, Template.expand entry.2 (config.surroundings net) = .ok value ∧
        env.set entry.1 value = env' := by
  rw [fillDefault, ← NodeConfig.surroundings]
  cases Template.expand entry.2 (config.surroundings net) <;> simp

lemma fillDefault_fails_iff {entry : String × String} :
    (∃ e, fillDefault config net env entry = .error e) ↔
      ∃ detail, Template.expand entry.2 (config.surroundings net) = .error detail := by
  rw [fillDefault, ← NodeConfig.surroundings]
  cases Template.expand entry.2 (config.surroundings net) <;> simp

/-- Defaults that come after the variables of an environment are filled in one by one and put at its
end. -/
lemma foldlM_fillDefault_eq_ok_iff (horder : (env.items ++ entries).Pairwise (·.1 < ·.1)) :
    entries.foldlM (fillDefault config net) env = .ok filled ↔
      ∃ items, List.Forall₂ (Fills config net) entries items ∧
        env.items ++ items = filled.items := by
  induction entries generalizing env with
  | nil =>
      simp only [List.foldlM_nil, pure, Except.pure, Except.ok.injEq, List.forall₂_nil_left_iff,
        exists_eq_left, List.append_nil]
      exact Environment.ext_iff
  | cons entry rest ih =>
      have hlast : ∀ x ∈ env.items, x.1 < entry.1 := fun x hx =>
        (List.pairwise_append.mp horder).2.2 x hx entry List.mem_cons_self
      -- a default that is filled in keeps its name, and so its place
      have hset : ∀ value, (env.set entry.1 value).items = env.items ++ [(entry.1, value)] :=
        fun value => Environment.items_set_of_lt hlast
      have hrest : ∀ value, ((env.set entry.1 value).items ++ rest).Pairwise (·.1 < ·.1) :=
        fun value => Ordered.pairwise_of_names horder (by simp [hset])
      rw [List.foldlM_cons]
      constructor
      · intro h
        obtain ⟨next, hnext, hfold⟩ := Except.bind_eq_ok_iff.mp h
        obtain ⟨value, hvalue, rfl⟩ := fillDefault_eq_ok_iff.mp hnext
        obtain ⟨items, hitems, heq⟩ := (ih (hrest value)).mp hfold
        rw [hset, List.append_assoc] at heq
        exact ⟨(entry.1, value) :: items, .cons ⟨rfl, hvalue⟩ hitems, heq⟩
      · rintro ⟨_, hfills, heq⟩
        obtain ⟨⟨_, value⟩, items, ⟨rfl, hvalue⟩, hitems, rfl⟩ :=
          List.forall₂_cons_left_iff.mp hfills
        refine Except.bind_eq_ok_iff.mpr ⟨_, fillDefault_eq_ok_iff.mpr ⟨value, hvalue, rfl⟩, ?_⟩
        refine (ih (hrest value)).mpr ⟨items, hitems, ?_⟩
        rw [hset, List.append_assoc]
        exact heq

/-- The defaults of a kind are filled in one by one. -/
lemma fillDefaults_eq_ok_iff (defaults : Environment) :
    defaults.items.foldlM (fillDefault config net) .empty = .ok filled ↔
      List.Forall₂ (Fills config net) defaults.items filled.items := by
  have horder : (Environment.empty.items ++ defaults.items).Pairwise (·.1 < ·.1) := defaults.inOrder
  exact (foldlM_fillDefault_eq_ok_iff horder).trans exists_eq_right

/-- They cannot be filled in if and only if one of them cannot. -/
lemma foldlM_fillDefault_fails_iff : (∃ e, entries.foldlM (fillDefault config net) env = .error e) ↔
    ∃ entry ∈ entries, ∃ detail,
      Template.expand entry.2 (config.surroundings net) = .error detail := by
  induction entries generalizing env with
  | nil => simp [pure, Except.pure]
  | cons entry rest ih =>
      rw [List.foldlM_cons, List.exists_mem_cons_iff, ← @fillDefault_fails_iff config net env]
      cases hnext : fillDefault config net env entry with
      | error e => exact iff_of_true ⟨e, rfl⟩ (Or.inl ⟨e, rfl⟩)
      | ok next => exact ih.trans (by simp)

lemma find?_of_fills (h : List.Forall₂ (Fills config net) defaults.items filled.items)
    (hname : defaults.find? name = some source) :
    ∃ value, Template.expand source (config.surroundings net) = .ok value ∧
      filled.find? name = some value := by
  simp only [Environment.find?_eq_some_iff] at hname ⊢
  exact mem_of_fills h hname

/-! ### Binds -/

/-- The rules add the binds of those that hold, in their order: each once, and none that is there
already. -/
lemma foldl_addBind (rules : List BindRule) (binds : List String) :
    rules.foldl (addBind env) binds = binds ++
      ((rules.filter fun r => r.Holds env ∧ r.bind ∉ binds).map BindRule.bind).eraseDups := by
  induction rules generalizing binds with
  | nil => simp
  | cons rule rest ih =>
      have hstep : addBind env binds rule =
          if rule.Holds env ∧ rule.bind ∉ binds then binds ++ [rule.bind] else binds := rfl
      rw [List.foldl_cons, ih, hstep, List.filter_cons]
      split
      · next hadds =>
        rw [if_pos (decide_eq_true hadds), List.map_cons, List.eraseDups_cons, List.filter_map,
          List.filter_filter, List.append_assoc, List.singleton_append]
        congr 4
        refine List.filter_congr fun r _ => ?_
        rw [Bool.eq_iff_iff]
        simp only [decide_eq_true_eq, Function.comp_apply, Bool.and_eq_true, List.mem_append,
          List.mem_singleton, Bool.not_eq_true', beq_eq_false_iff_ne]
        tauto
      · next hadds => rw [if_neg (by simpa using hadds)]

/-- Once they were added, the rules add nothing. -/
lemma foldl_addBind_again (rules : List BindRule) (binds : List String) :
    rules.foldl (addBind env) (rules.foldl (addBind env) binds) =
      rules.foldl (addBind env) binds := by
  have hnone : rules.filter (fun r => r.Holds env ∧ r.bind ∉ rules.foldl (addBind env) binds) =
      [] := by
    rw [List.filter_eq_nil_iff]
    intro rule hrule hadds
    obtain ⟨hholds, hnew⟩ := of_decide_eq_true hadds
    rw [foldl_addBind, List.mem_append, not_or, List.mem_eraseDups, List.mem_map] at hnew
    exact hnew.2 ⟨rule, List.mem_filter.mpr ⟨hrule, decide_eq_true ⟨hholds, hnew.1⟩⟩, rfl⟩
  rw [foldl_addBind, hnone]
  simp

/-! ### Environments -/

/-- The environment of a node that has the defaults of its kind under its settings: the variables of
both. A value that is set stands as it is; any other variable has its default, filled in. -/
structure IsMerged (kind : NodeKind) (config : NodeConfig) (net : ManagementNet)
    (env : Environment) : Prop where
  names : ∀ name, name ∈ env.names ↔ name ∈ kind.defaults.names ∨ name ∈ config.env.names
  own : ∀ name value, config.env.find? name = some value → env.find? name = some value
  default : ∀ name source, config.env.find? name = none → kind.defaults.find? name = some source →
    ∃ value, Template.expand source (config.surroundings net) = .ok value ∧
      env.find? name = some value

/-- There is at most one such environment. -/
lemma IsMerged.unique (h : kind.IsMerged config net env) (h' : kind.IsMerged config net env') :
    env = env' := by
  refine Environment.eq_of_find?_eq fun name => ?_
  cases hown : config.env.find? name with
  | some value => rw [h.own name value hown, h'.own name value hown]
  | none =>
      cases hdefault : kind.defaults.find? name with
      | some source =>
          obtain ⟨value, hvalue, hname⟩ := h.default name source hown hdefault
          obtain ⟨value', hvalue', hname'⟩ := h'.default name source hown hdefault
          obtain rfl := Except.ok.inj (hvalue.symm.trans hvalue')
          rw [hname, hname']
      | none =>
          rw [Environment.find?_eq_none_iff] at hown hdefault
          have hnone : ∀ {e : Environment}, kind.IsMerged config net e → e.find? name = none :=
            fun he => Environment.find?_eq_none_iff.mpr fun hmem =>
              ((he.names name).mp hmem).elim hdefault hown
          rw [hnone h, hnone h']

/-- The settings over the defaults, which were filled in, are that environment. -/
lemma isMerged_overlay (h : List.Forall₂ (Fills config net) kind.defaults.items filled.items) :
    kind.IsMerged config net (filled.overlay config.env) := by
  have hnames : filled.names = kind.defaults.names := names_of_fills h
  refine ⟨fun name => ?_, fun name value hown => ?_, fun name source hown hdefault => ?_⟩
  · rw [Environment.mem_names_overlay, hnames]
  · rw [Environment.find?_overlay, hown]
    rfl
  · obtain ⟨value, hvalue, hname⟩ := find?_of_fills h hdefault
    refine ⟨value, hvalue, ?_⟩
    rw [Environment.find?_overlay, hown, hname]
    rfl

/-! ### Settings -/

/-- The settings of a node over the defaults of its kind, which were filled in. -/
def settle (kind : NodeKind) (config : NodeConfig) (filled : Environment) (command : String) :
    NodeConfig :=
  let env := filled.overlay config.env
  { config with env, binds := kind.bindRules.foldl (addBind env) config.binds, command }

lemma apply_eq_ok_iff : kind.apply config net = .ok out ↔
    ∃ (filled : Environment) (command : String),
      List.Forall₂ (Fills config net) kind.defaults.items filled.items ∧
      fillCommand kind config (filled.overlay config.env) net = .ok command ∧
      kind.settle config filled command = out := by
  rw [apply, Except.bind_eq_ok_iff]
  refine exists_congr fun filled => ?_
  rw [Except.bind_eq_ok_iff, fillDefaults_eq_ok_iff]
  constructor
  · rintro ⟨hfilled, command, hcommand, hout⟩
    exact ⟨command, hfilled, hcommand, Except.ok.inj hout⟩
  · rintro ⟨command, hfilled, hcommand, hout⟩
    exact ⟨hfilled, command, hcommand, congrArg Except.ok hout⟩

/-- The command is the node's own, or else the kind's, filled in. -/
lemma fillCommand_eq_ok_iff {command : String} : fillCommand kind config env net = .ok command ↔
    (kind.command = none → command = config.command) ∧ ∀ source, kind.command = some source →
      Template.expand source (config.surroundingsWith net env) = .ok command := by
  rw [fillCommand]
  split
  · next h => simp [h, eq_comm]
  · next source h => simp [h, Except.mapError_eq_ok_iff, NodeConfig.surroundingsWith]

lemma fillCommand_fails_iff : (∃ e, fillCommand kind config env net = .error e) ↔
    ∃ source, kind.command = some source ∧ ∃ detail,
      Template.expand source (config.surroundingsWith net env) = .error detail := by
  rw [fillCommand]
  split
  · next h => simp [h]
  · next source h => simp [h, Except.mapError_eq_error_iff, NodeConfig.surroundingsWith]

/-- Settings cannot be put over defaults if and only if a default, even one that is not needed, or
the command cannot be filled in. -/
lemma apply_fails_iff : (∃ e, kind.apply config net = .error e) ↔
      (∃ entry ∈ kind.defaults.items, ∃ detail,
        Template.expand entry.2 (config.surroundings net) = .error detail) ∨
      ∃ env, kind.IsMerged config net env ∧ ∃ source, kind.command = some source ∧ ∃ detail,
        Template.expand source (config.surroundingsWith net env) = .error detail := by
  rw [← @foldlM_fillDefault_fails_iff config net .empty]
  cases hfilled : kind.defaults.items.foldlM (fillDefault config net) .empty with
  | error e =>
      refine iff_of_true ⟨e, ?_⟩ (Or.inl ⟨e, rfl⟩)
      rw [apply, hfilled]
      rfl
  | ok filled =>
      have hmerged := isMerged_overlay ((fillDefaults_eq_ok_iff _).mp hfilled)
      have happly : (∃ e, kind.apply config net = .error e) ↔
          ∃ e, fillCommand kind config (filled.overlay config.env) net = .error e := by
        rw [apply, hfilled]
        cases hcommand : fillCommand kind config (filled.overlay config.env) net <;>
          simp [bind, Except.bind, hcommand, pure, Except.pure]
      rw [happly, fillCommand_fails_iff]
      constructor
      · rintro ⟨source, hsource, detail, hexpand⟩
        exact Or.inr ⟨_, hmerged, source, hsource, detail, hexpand⟩
      · rintro (⟨e, he⟩ | ⟨env, henv, hexpand⟩)
        · cases he
        · exact henv.unique hmerged ▸ hexpand

/-- Settings are put over the defaults of a kind if and only if all defaults and the command can be
filled in. Then each value is the node's own or else the default; the rules that hold bring their
binds, in order and once, behind those of the node; the command is that of the kind, if it has one;
and all else stays. -/
theorem apply_merges (kind : NodeKind) (config : NodeConfig) (net : ManagementNet) :
    ((∃ e, kind.apply config net = .error e) ↔
      (∃ entry ∈ kind.defaults.items, ∃ detail,
        Template.expand entry.2 (config.surroundings net) = .error detail) ∨
      ∃ env, kind.IsMerged config net env ∧ ∃ source, kind.command = some source ∧ ∃ detail,
        Template.expand source (config.surroundingsWith net env) = .error detail) ∧
    ∀ out, kind.apply config net = .ok out →
      kind.IsMerged config net out.env ∧
      out.binds = config.binds ++ ((kind.bindRules.filter fun r =>
        r.Holds out.env ∧ r.bind ∉ config.binds).map BindRule.bind).eraseDups ∧
      (kind.command = none → out.command = config.command) ∧
      (∀ source, kind.command = some source →
        Template.expand source (config.surroundingsWith net out.env) = .ok out.command) ∧
      out.shortName = config.shortName ∧ out.longName = config.longName ∧
      out.kind = config.kind ∧ out.image = config.image := by
  refine ⟨apply_fails_iff, fun out hout => ?_⟩
  obtain ⟨filled, command, hfilled, hcommand, rfl⟩ := apply_eq_ok_iff.mp hout
  obtain ⟨hown, hfill⟩ := fillCommand_eq_ok_iff.mp hcommand
  exact ⟨isMerged_overlay hfilled, foldl_addBind _ _, hown, hfill, rfl, rfl, rfl, rfl⟩

/-- A kind with a default that looks like a template once it is filled in, and with rules that
repeat. -/
def echoing : NodeKind where
  name := "echoing"
  family := .generic
  defaults.items := [("ECHO", "\x7b\x7b \"\x7b\x7b\" \x7d\x7d \x7b\x7b mgmt.network \x7d\x7d"),
    ("MODE", "tc")]
  bindRules := [⟨"MODE", "tap", "/dev:/dev"⟩, ⟨"ECHO", "\x7b\x7b lab", "/echo"⟩,
    ⟨"MODE", "tap", "/tap"⟩, ⟨"MODE", "tap", "/tap"⟩, ⟨"MODE", "tc", "/tc"⟩]
  command := some "run \x7b\x7b env.ECHO \x7d\x7d --mode \x7b\x7b env.MODE \x7d\x7d"

/-- A node that sets one of its variables and has one of its binds, twice. -/
def echoNode : NodeConfig where
  shortName := "r1"
  kind := "echoing"
  env.items := [("MODE", "tap"), ("OWN", "\x7b\x7b nothing \x7d\x7d")]
  binds := ["/dev:/dev", "/dev:/dev"]

/-- What the node comes to. -/
def echoed : NodeConfig where
  shortName := "r1"
  kind := "echoing"
  env.items := [("ECHO", "\x7b\x7b lab"), ("MODE", "tap"), ("OWN", "\x7b\x7b nothing \x7d\x7d")]
  binds := ["/dev:/dev", "/dev:/dev", "/echo", "/tap"]
  command := "run \x7b\x7b lab --mode tap"

lemma apply_echoing : echoing.apply echoNode { network := "lab" } = .ok echoed := by
  decide +kernel

/-- A default that cannot be filled in stops even a node that sets the variable. -/
theorem echoing_merges : echoing.apply echoNode { network := "lab" } = .ok echoed ∧
    echoing.IsMerged echoNode { network := "lab" } echoed.env ∧
    ∃ e, { echoing with defaults := { items := [("MODE", "\x7b\x7b nothing \x7d\x7d")] } }.apply
      echoNode { network := "lab" } = .error e := by
  refine ⟨apply_echoing, ((apply_merges echoing echoNode _).2 echoed apply_echoing).1,
    (apply_merges _ echoNode _).1.mpr (Or.inl ⟨_, List.mem_cons_self, ?_⟩)⟩
  exact ⟨"undefined value", by decide +kernel⟩

/-- Nothing is in the way of a kind without defaults, if its command can be filled in. -/
lemma exists_apply_of_plain (hdefaults : kind.defaults.items = [])
    (hcommand : ∀ source, kind.command = some source → ∀ input, ∃ command,
      Template.expand source input = .ok command) : ∃ out, kind.apply config net = .ok out := by
  obtain ⟨command, hfill⟩ : ∃ command,
      fillCommand kind config (Environment.overlay .empty config.env) net = .ok command := by
    cases hsource : kind.command with
    | none => exact ⟨_, by rw [fillCommand, hsource]⟩
    | some source =>
        obtain ⟨command, hexpand⟩ := hcommand source hsource _
        exact ⟨command, fillCommand_eq_ok_iff.mpr ⟨by simp [hsource], by simpa [hsource]⟩⟩
  refine ⟨_, apply_eq_ok_iff.mpr ⟨.empty, command, ?_, hfill, rfl⟩⟩
  rw [hdefaults]
  exact .nil

/-- What names a node stays as it is. -/
lemma names_of_apply (h : kind.apply config net = .ok out) :
    out.shortName = config.shortName ∧ out.longName = config.longName ∧ out.kind = config.kind := by
  obtain ⟨filled, command, -, -, rfl⟩ := apply_eq_ok_iff.mp h
  exact ⟨rfl, rfl, rfl⟩

/-! ### Doing it again -/

/-- The defaults of a kind under the settings of a node, `n` times. -/
def applyTimes (kind : NodeKind) (net : ManagementNet) : ℕ → NodeConfig → Except Error NodeConfig
  | 0, config => .ok config
  | n + 1, config => do kind.applyTimes net n (← kind.apply config net)

/-- Settings with the defaults of a kind have them already. -/
lemma apply_again (h : kind.apply config net = .ok out) : kind.apply out net = .ok out := by
  obtain ⟨filled, command, hfilled, hcommand, rfl⟩ := apply_eq_ok_iff.mp h
  have henv := filled.overlay_overlay config.env
  refine apply_eq_ok_iff.mpr ⟨filled, command, hfilled, ?_, ?_⟩
  · rw [settle, henv]
    exact fillCommand_eq_ok_iff.mpr ⟨fun _ => rfl, (fillCommand_eq_ok_iff.mp hcommand).2⟩
  · simp only [settle, henv, foldl_addBind_again]

/-- Settings that have the defaults of a kind keep them. -/
lemma applyTimes_of_fixed (h : kind.apply out net = .ok out) (n : ℕ) :
    kind.applyTimes net n out = .ok out := by
  induction n with
  | zero => rfl
  | succ n ih =>
      rw [applyTimes, h]
      exact ih

/-- Defaults are put under settings once and for all. -/
theorem apply_settles (kind : NodeKind) (config : NodeConfig) (net : ManagementNet) :
    (∀ out, kind.apply config net = .ok out → kind.apply out net = .ok out) ∧
    ∀ n, kind.applyTimes net (n + 1) config = kind.apply config net := by
  refine ⟨fun out => apply_again, fun n => ?_⟩
  rw [applyTimes]
  cases h : kind.apply config net with
  | error e => rfl
  | ok out => exact applyTimes_of_fixed (apply_again h) n

theorem echoing_settles : echoing.apply echoNode { network := "lab" } = .ok echoed ∧
    echoing.apply echoed { network := "lab" } = .ok echoed ∧
    echoing.applyTimes { network := "lab" } 3 echoNode = .ok echoed := by
  obtain ⟨hagain, htimes⟩ := apply_settles echoing echoNode { network := "lab" }
  exact ⟨apply_echoing, hagain echoed apply_echoing, (htimes 2).trans apply_echoing⟩

end NodeKind

end LabTrust
