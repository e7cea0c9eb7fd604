/-
The documents that the built-in templates make.

* `LeafInput.document`, `RootInput.document`: the texts of the requests, part by part. The texts of
  the identity are pasted as they are.
* `Template.render_ofNode`, `Template.render_ofRoot`: every identity is rendered, to this text.
-/
import LabTrust.Identity
import LabTrust.Proofs.Except
import LabTrust.Proofs.Template.BuiltIn

namespace LabTrust

/-! ### Texts -/

namespace LeafInput

/-- What stands between the common name and the hosts, up to the last subject name. -/
def middle (i : LeafInput) : String :=
  "\"key\": \x7b
      \"algo\": \"rsa\",
      \"size\": 2048
    \x7d,
    \"names\": [\x7b
      \"C\": \"" ++ i.country ++ "\",
      \"L\": \"" ++ i.locality ++ "\",
      \"O\": \"" ++ i.organization ++ "\",
      \"OU\": \"" ++ i.unit ++ "\""

/-- The further hosts, each with a comma before it. -/
def hostLines : List String → String
  | [] => ""
  | host :: hosts => ",
      \"" ++ host ++ "\"" ++ hostLines hosts

/-- The hosts, up to the last quote. -/
def hostsField (i : LeafInput) : String :=
  "\"hosts\": [
      \"" ++ i.name ++ "\",
      \"" ++ i.longName ++ "\",
      \"" ++ i.fqdn ++ "\"" ++ hostLines i.hosts

/-- The request of a leaf under the built-in template. -/
def document (i : LeafInput) : String :=
  "\x7b
    \"CN\": \"" ++ i.name ++ "." ++ i.labName ++ ".io\",
    " ++ i.middle ++ "
    \x7d],
    " ++ i.hostsField ++ "
    ]
\x7d
"

end LeafInput

/-- The request of a root under the built-in template. -/
def RootInput.document (i : RootInput) : String :=
  "\x7b
    \"CN\": \"" ++ i.labName ++ " Root CA\",
    \"key\": \x7b
       \"algo\": \"rsa\",
       \"size\": 2048
    \x7d,
    \"names\": [\x7b
       \"C\": \"" ++ i.country ++ "\",
       \"L\": \"" ++ i.locality ++ "\",
       \"O\": \"" ++ i.organization ++ "\",
       \"OU\": \"" ++ i.unit ++ "\"
    \x7d],
    \"ca\": \x7b
       \"expiry\": \"" ++ i.expiry ++ "\"
    \x7d
\x7d
"

/-! ### Rendering -/

namespace Template

variable {b b₁ b₂ : Bindings} {ps : List Piece} {t : String}

lemma fillAll_cons {p : Piece} {s : String} (hp : p.fill b = .ok (s, b₁))
    (hps : fillAll b₁ ps = .ok (t, b₂)) : fillAll b (p :: ps) = .ok (s ++ t, b₂) := by
  rw [fillAll, hp]
  simp only [bind, Except.bind, hps]
  rfl

lemma fillAll_nil (b : Bindings) : fillAll b [] = .ok ("", b) := rfl

/-- A text piece stands as it is. -/
lemma fillAll_text (s : String) (hps : fillAll b ps = .ok (t, b₂)) :
    fillAll b (.text s.toList :: ps) = .ok (s ++ t, b₂) := by
  have hp : (Piece.text s.toList).fill b = .ok (s, b) := by rw [Piece.fill, String.ofList_toList]
  exact fillAll_cons hp hps

/-- A name that stands for a text is that text. -/
lemma fillAll_name {name s : String} (hname : b.find name = .ofText s)
    (hps : fillAll b ps = .ok (t, b₂)) :
    fillAll b (.value (.name name) :: ps) = .ok (s ++ t, b₂) := by
  have hp : (Piece.value (.name name)).fill b = .ok (s, b) := by
    rw [Piece.fill]
    simp only [Expr.eval, hname]
    rfl
  exact fillAll_cons hp hps

/-- Passes that each write a line write the lines one after the other. -/
lemma foldlM_hostLines {pass : String × ℕ → Value → Except Fault (String × ℕ)}
    (hpass : ∀ done host, pass done (.ofText host) =
      .ok (done.1 ++ LeafInput.hostLines [host], done.2 + 1)) (hosts : List String)
    (done : String × ℕ) : (hosts.map Value.ofText).foldlM pass done =
      .ok (done.1 ++ LeafInput.hostLines hosts, done.2 + hosts.length) := by
  induction hosts generalizing done with
  | nil => simp [LeafInput.hostLines, pure, Except.pure]
  | cons host hosts ih =>
      rw [List.map_cons, List.foldlM_cons, hpass]
      simp only [bind, Except.bind, ih]
      simp [LeafInput.hostLines, String.append_assoc, Nat.add_assoc, Nat.add_comm 1]

/-- One pass of the loop writes one line. -/
lemma fillAll_hostLine {host : String} (hname : b.find "host" = .ofText host) :
    fillAll b [.text ",
      \"".toList, .value (.name "host"), .text "\"".toList] =
      .ok (LeafInput.hostLines [host], b) := by
  rw [LeafInput.hostLines, String.append_assoc, String.append_assoc]
  exact fillAll_text _ (fillAll_name hname (fillAll_text _ (fillAll_nil b)))

lemma keepItems_none (target : Target) (items : List Value) :
    keepItems b target none items = .ok items := by
  cases items <;> rfl

/-- The loop writes the lines of all further hosts. -/
lemma fill_hostLoop {hosts : List String}
    (hname : b.find "hosts" = .list (hosts.map Value.ofText)) :
    hostLoop.fill b = .ok (LeafInput.hostLines hosts, b) := by
  have hitems : itemsOf (.list (hosts.map Value.ofText)) = .ok (hosts.map Value.ofText) := rfl
  rw [hostLoop, Piece.fill]
  simp only [Expr.eval, hname, bind, Except.bind, hitems, keepItems_none]
  cases hosts with
  | nil => rfl
  | cons host hosts =>
      simp only [List.map_cons, List.isEmpty_cons, Bool.false_eq_true, if_false]
      rw [← List.map_cons, foldlM_hostLines]
      · simp [pure, Except.pure]
      · intro done line
        simp only [List.length_map, List.length_cons, Bindings.bind]
        rw [fillAll_hostLine rfl]
        rfl

/-! ### The two documents -/

/-- The names that a template sees. -/
def names : Data → Bindings
  | .record fields => fields.map fun (name, d) => (name, Value.ofData d)
  | _ => []

lemma render_of_fillAll {template : Template} {input : Data} (hp : template.pieces = ps)
    (h : fillAll (names input) ps = .ok (t, b)) : template.render input = .ok t := by
  have hfill : fill template.pieces input = .ok t := by
    rw [hp]
    cases input <;> exact congrArg (Except.map (·.1)) h
  rw [render, hfill]

lemma ofItems_texts (hosts : List String) :
    Value.ofItems (hosts.map .text) = hosts.map Value.ofText := by
  induction hosts with
  | nil => rfl
  | cons host hosts ih =>
      rw [List.map_cons, List.map_cons, Value.ofItems, ih]
      rfl

/-- Every identity of a leaf is rendered. -/
theorem render_ofNode (i : LeafInput) : ofNode.render i.toData = .ok i.document := by
  have hhosts : (names i.toData).find "hosts" = .list (i.hosts.map Value.ofText) := by
    rw [← ofItems_texts]
    rfl
  have hloop := fill_hostLoop hhosts
  have hfill : fillAll (names i.toData) nodePieces = .ok (_, _) :=
    fillAll_text _ <| fillAll_name rfl <| fillAll_text _ <| fillAll_name rfl <| fillAll_text _ <|
    fillAll_name rfl <| fillAll_text _ <| fillAll_name rfl <| fillAll_text _ <|
    fillAll_name rfl <| fillAll_text _ <| fillAll_name rfl <| fillAll_text _ <|
    fillAll_name rfl <| fillAll_text _ <| fillAll_name rfl <| fillAll_text _ <|
    fillAll_name rfl <| fillAll_text _ <| fillAll_cons hloop <| fillAll_text _ <| fillAll_nil _
  refine (render_of_fillAll ofNode_pieces hfill).trans (congrArg Except.ok (String.toList_inj.1 ?_))
  unfold LeafInput.document LeafInput.middle LeafInput.hostsField
  simp only [String.toList_append, List.append_assoc]
  simp

/-- Every identity of a root is rendered. -/
theorem render_ofRoot (i : RootInput) : ofRoot.render i.toData = .ok i.document := by
  have hfill : fillAll (names i.toData) rootPieces = .ok (_, _) :=
    fillAll_text _ <| fillAll_name rfl <| fillAll_text _ <| fillAll_name rfl <| fillAll_text _ <|
    fillAll_name rfl <| fillAll_text _ <| fillAll_name rfl <| fillAll_text _ <|
    fillAll_name rfl <| fillAll_text _ <| fillAll_name rfl <| fillAll_text _ <| fillAll_nil _
  refine (render_of_fillAll ofRoot_pieces hfill).trans (congrArg Except.ok (String.toList_inj.1 ?_))
  unfold RootInput.document
  simp only [String.toList_append, List.append_assoc]
  simp

end Template

end LabTrust
