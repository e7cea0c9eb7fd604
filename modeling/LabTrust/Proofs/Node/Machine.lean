/-
The kinds whose images run a machine.

* `NodeKind.machinePieces`: what the reader of templates finds in the command of such a kind.
* `NodeKind.expand_machineCommand`: the command holds the values of its variables as they are.
* `NodeKind.apply_machine`: settings over the defaults of such a kind; they can always be put there.
-/
import LabTrust.Proofs.Node.Merge
import LabTrust.Proofs.Template.Rendered

namespace LabTrust

namespace Template

variable {b b₁ : Bindings} {ps : List Piece} {t : String}

/-- A part of a map is that of the first entry of its name. -/
lemma lookup?_ofFields (fields : List (String × Data)) (key : String) :
    Value.lookup? (.ofText key) (Value.ofFields fields) = (fields.lookup key).map Value.ofData := by
  induction fields with
  | nil => rfl
  | cons field rest ih =>
      obtain ⟨name, d⟩ := field
      have hsame : Value.same (.ofText name) (.ofText key) = (name == key) := rfl
      rw [Value.lookup?, Value.ofFields, List.find?_cons, hsame, List.lookup_cons, BEq.comm]
      cases key == name
      · exact ih
      · rfl

/-- The text of a part of a named map stands as it is. -/
lemma fillAll_attribute {name key s : String} {fields : List (String × Data)}
    (hname : b.find name = .map (Value.ofFields fields))
    (hkey : fields.lookup key = some (.text s)) (hps : fillAll b ps = .ok (t, b₁)) :
    fillAll b (.value (.attribute (.name name) key) :: ps) = .ok (s ++ t, b₁) := by
  have hpart : partOf (.map (Value.ofFields fields)) (.ofText key) = .ok (.ofText s) := by
    rw [partOf, Value.part?, lookup?_ofFields, hkey]
    rfl
  have hp : (Piece.value (.attribute (.name name) key)).fill b = .ok (s, b) := by
    rw [Piece.fill]
    simp only [Expr.eval, hname, bind, Except.bind, hpart]
    rfl
  exact fillAll_cons hp hps

lemma expand_of_fillAll {source : String} {input : Data}
    (hsource : read? (dropLineEnd source.toList) = some ps)
    (h : fillAll (names input) ps = .ok (t, b)) : expand source input = .ok t := by
  have hfill : fill ps input = .ok t := by
    cases input <;> exact congrArg (Except.map (·.1)) h
  rw [expand, hsource]
  exact congrArg (Except.mapError _) hfill

end Template

namespace NodeKind

open Template

variable {config out : NodeConfig} {net : ManagementNet} {env : Environment}

/-! ### Templates -/

/-- The pieces of the command. -/
def machinePieces : List Piece :=
  [.text "--username ".toList, .value (.attribute (.name "env") "USERNAME"),
    .text " --password ".toList, .value (.attribute (.name "env") "PASSWORD"),
    .text " --hostname ".toList, .value (.attribute (.name "node") "short_name"),
    .text " --connection-mode ".toList, .value (.attribute (.name "env") "CONNECTION_MODE"),
    .text " --trace".toList]

set_option maxRecDepth 100000 in
lemma read?_machineCommand : read? (dropLineEnd machineCommand.toList) = some machinePieces := by
  cbv

/-- The command holds the values of three variables as they are. -/
lemma expand_machineCommand {user password mode : String}
    (huser : env.find? "USERNAME" = some user) (hpassword : env.find? "PASSWORD" = some password)
    (hmode : env.find? "CONNECTION_MODE" = some mode) :
    expand machineCommand (config.surroundingsWith net env) =
      .ok ("--username " ++ user ++ " --password " ++ password ++ " --hostname " ++
        config.shortName ++ " --connection-mode " ++ mode ++ " --trace") := by
  have hfill : fillAll (names (config.surroundingsWith net env)) machinePieces = .ok (_, _) :=
    fillAll_text _ <| fillAll_attribute rfl (Environment.lookup_toData huser) <| fillAll_text _ <|
    fillAll_attribute rfl (Environment.lookup_toData hpassword) <| fillAll_text _ <|
    fillAll_attribute rfl rfl <| fillAll_text _ <|
    fillAll_attribute rfl (Environment.lookup_toData hmode) <| fillAll_text _ <| fillAll_nil _
  refine (expand_of_fillAll read?_machineCommand hfill).trans (congrArg Except.ok ?_)
  simp only [String.append_assoc, String.append_empty]

/-- The defaults, filled in. -/
def machineEnvironment (net : ManagementNet) : Environment where
  items := [("CONNECTION_MODE", "tc"), ("DOCKER_NET_V4_ADDR", net.ipv4Subnet),
    ("DOCKER_NET_V6_ADDR", net.ipv6Subnet), ("PASSWORD", "admin"), ("USERNAME", "admin")]
  inOrder := Ordered.pairwise_of_names machineDefaults.inOrder rfl

lemma expand_word {word : String} {input : Data}
    (h : read? (dropLineEnd word.toList) = some [.text word.toList]) :
    expand word input = .ok word := by
  refine (expand_of_fillAll h (fillAll_text _ (fillAll_nil _))).trans ?_
  rw [String.append_empty]

/-- A text that is a part of the network stands for that part. -/
lemma expand_netPart {source key value : String} {fields : List (String × Data)}
    (hfields : net.toData = .record fields) (hkey : fields.lookup key = some (.text value))
    (hsource : read? (dropLineEnd source.toList) =
      some [.text "".toList, .value (.attribute (.name "mgmt") key)]) :
    expand source (config.surroundings net) = .ok value := by
  have hname : (names (config.surroundings net)).find "mgmt" = .map (Value.ofFields fields) := by
    rw [NodeConfig.surroundings, hfields]
    rfl
  refine (expand_of_fillAll hsource
    (fillAll_text _ (fillAll_attribute hname hkey (fillAll_nil _)))).trans ?_
  rw [String.append_empty, String.empty_append]

/-- They can always be filled in. -/
lemma fills_machine (config : NodeConfig) (net : ManagementNet) :
    List.Forall₂ (Fills config net) machineDefaults.items (machineEnvironment net).items := by
  have hadmin : expand "admin" (config.surroundings net) = .ok "admin" := expand_word (by cbv)
  exact .cons ⟨rfl, expand_word (by cbv)⟩ <| .cons ⟨rfl, expand_netPart rfl rfl (by cbv)⟩ <|
    .cons ⟨rfl, expand_netPart rfl rfl (by cbv)⟩ <| .cons ⟨rfl, hadmin⟩ <| .cons ⟨rfl, hadmin⟩ .nil

/-! ### Settings -/

/-- A container that runs a machine for a node: its command holds the login, the name of the node
and the mode of its connections, and in one of these modes it binds the devices. -/
structure RunsMachine (config out : NodeConfig) (user password mode : String) : Prop where
  hasUser : out.env.find? "USERNAME" = some user
  hasPassword : out.env.find? "PASSWORD" = some password
  hasMode : out.env.find? "CONNECTION_MODE" = some mode
  command : out.command = "--username " ++ user ++ " --password " ++ password ++ " --hostname " ++
    config.shortName ++ " --connection-mode " ++ mode ++ " --trace"
  devices : mode = "macvtap" → "/dev:/dev" ∈ out.binds
  binds : mode ≠ "macvtap" → out.binds = config.binds

/-- Every node can run a machine. The node's own values win over those of its kind. -/
lemma apply_machine (name : String) (config : NodeConfig) (net : ManagementNet) :
    ∃ out, (machine name).apply config net = .ok out ∧
      RunsMachine config out ((config.env.find? "USERNAME").getD "admin")
        ((config.env.find? "PASSWORD").getD "admin")
        ((config.env.find? "CONNECTION_MODE").getD "tc") := by
  have hfind : ∀ key {default}, (machineEnvironment net).find? key = some default →
      ((machineEnvironment net).overlay config.env).find? key =
        some ((config.env.find? key).getD default) := by
    intro key default hdefault
    rw [Environment.find?_overlay, hdefault]
    cases config.env.find? key <;> rfl
  have huser := hfind "USERNAME" rfl
  have hpassword := hfind "PASSWORD" rfl
  have hmode := hfind "CONNECTION_MODE" rfl
  refine ⟨_, apply_eq_ok_iff.mpr ⟨_, _, fills_machine config net, fillCommand_eq_ok_iff.mpr
    ⟨nofun, ?_⟩, rfl⟩, huser, hpassword, hmode, rfl, fun htap => ?_, fun htap => ?_⟩
  · rintro _ ⟨rfl⟩
    exact expand_machineCommand huser hpassword hmode
  · rw [htap] at hmode
    by_cases hmem : "/dev:/dev" ∈ config.binds <;> simp [settle, machine, addBind, hmode, hmem]
  · simp [settle, machine, addBind, hmode, htap]

end NodeKind

end LabTrust
