/-
Validities that settings may hold.

The settings are checked before anything is made, so that no validity fails later. A leaf takes its
validity from the settings as it is. A root takes it by way of a document, which is the one place
where a blank may spoil it: a control character cannot stand in the document.
* `Error.IsOfValidity`: the failures that say that a validity has no meaning or leads too far.
* `Action.Always.createRoot_fails`, `Action.Always.issueLeaf_fails`: which failures calls have.
* `Issuance.window_eq_ok`: a validity does not lead outside the calendar.
* `Settings.validities_hold`: what comes of the validities of settings that were accepted.
-/
import LabTrust.Proofs.Certificate.Refusals
import LabTrust.Proofs.Lab.Inspection
import LabTrust.Proofs.Request.Control

namespace LabTrust

/-! ### Failures -/

/-- A failure that says that a validity has no meaning, or leads outside the calendar. -/
def Error.IsOfValidity : Error → Prop
  | .badExpiry _ | .expiryOutOfRange _ => True
  | _ => False

/-- Other kinds of failures say no such thing. -/
lemma Error.not_isOfValidity_of_kind {e : Error} (h : e.kind ≠ .template) : ¬ e.IsOfValidity := by
  cases e <;> first | exact id | exact absurd rfl h

lemma kind_of_checkName {name : String} {e : Error} (h : checkName name = .error e) :
    e.kind = .invalidRequest := by
  rw [checkName] at h
  split at h <;> cases h
  rfl

namespace Request

variable {r : Request} {e : Error}

lemma kind_of_validate (h : r.validate = .error e) : e.kind = .invalidRequest := by
  rcases Except.bind_eq_error_iff.mp h with h | ⟨_, -, h⟩
  · rw [KeySpec.check] at h
    split at h <;> cases h
    rfl
  · split at h
    · cases h
    · split at h
      · cases h
        rfl
      · split at h <;> cases h
        rfl

lemma kind_of_checkHosts {policy : HostPolicy} (h : r.checkHosts policy = .error e) :
    e.kind = .invalidRequest := by
  rw [checkHosts] at h
  split at h <;> cases h
  rfl

lemma kind_of_read {document : Bytes} (h : read document = .error e) :
    e.kind = .template ∧ ¬ e.IsOfValidity := by
  rw [read] at h
  split at h
  · cases h
    exact ⟨rfl, id⟩
  · split at h <;> cases h
    exact ⟨rfl, id⟩

/-- A request that is valid asks for a kind of key that is made. -/
lemma check_key_of_validate (h : r.validate = .ok ()) : r.key.check = .ok () := by
  obtain ⟨_, hkey, -⟩ := Except.bind_eq_ok_iff.mp h
  exact hkey

end Request

lemma Template.kind_of_render {template : Template} {input : Data} {e : Error}
    (h : template.render input = .error e) : e.kind = .template ∧ ¬ e.IsOfValidity := by
  rw [Template.render] at h
  split at h <;> cases h
  exact ⟨rfl, id⟩

/-- What is checked about a leaf fails for its identity, for its document or for its validity. -/
lemma LeafOptions.plan_eq_error {options : LeafOptions} {template : Template} {input : LeafInput}
    {e : Error} (h : options.plan template input = .error e) :
    e.kind = .invalidRequest ∨ (e.kind = .template ∧ ¬ e.IsOfValidity) ∨
      options.lifetime input = .error e := by
  rw [plan] at h
  split at h
  · cases h
    exact Or.inl rfl
  rcases Except.bind_eq_error_iff.mp h with h | ⟨_, -, h⟩
  · exact Or.inl (kind_of_checkName h)
  rcases Except.bind_eq_error_iff.mp h with h | ⟨document, -, h⟩
  · exact Or.inr (Or.inl (Template.kind_of_render h))
  rcases Except.bind_eq_error_iff.mp h with h | ⟨request, -, h⟩
  · exact Or.inr (Or.inl (Request.kind_of_read h))
  rcases Except.bind_eq_error_iff.mp h with h | ⟨_, -, h⟩
  · exact Or.inl (Request.kind_of_validate h)
  rcases Except.bind_eq_error_iff.mp h with h | ⟨_, -, h⟩
  · exact Or.inl (Request.kind_of_checkHosts h)
  rcases Except.bind_eq_error_iff.mp h with h | ⟨_, -, h⟩
  · exact Or.inr (Or.inr h)
  · cases h

/-- It fails for its validity only if the validity has no meaning. -/
lemma LeafOptions.not_isOfValidity_of_plan {options : LeafOptions} {template : Template}
    {input : LeafInput} {lifetime : ℕ} (hlifetime : options.lifetime input = .ok lifetime)
    {e : Error} (h : options.plan template input = .error e) : ¬ e.IsOfValidity := by
  rcases plan_eq_error h with hkind | ⟨-, hother⟩ | h
  · exact Error.not_isOfValidity_of_kind (by simp [hkind])
  · exact hother
  · exact absurd (hlifetime.symm.trans h) nofun

/-! ### Calls -/

/-- An authority at one time refuses a call as it refuses it in some state. -/
lemma Issuance.exists_refusal {suite : Suite} {now : Instant} {call : Call} {failure : Error}
    (h : ((authority suite).fixedAt now).Answers call (.error failure)) :
    ∃ e, answer suite now e call = .error failure := by
  obtain ⟨e, h⟩ := Authority.answers_fixedAt.mp h
  refine ⟨e, ?_⟩
  rw [authority] at h
  cases hanswer : answer suite now e call with
  | ok made => simp [hanswer] at h
  | error failure' =>
      simp only [hanswer, Except.error.injEq] at h
      rw [h]

lemma Issuance.kind_of_answers {suite : Suite} {now : Instant} {call : Call} {failure : Error}
    (h : ((authority suite).fixedAt now).Answers call (.error failure))
    (hcall : Acceptable now call) : failure.kind = .crypto := by
  obtain ⟨e, h⟩ := exists_refusal h
  exact kind_of_answer hcall h

namespace Action.Always

variable {suite : Suite} {now : Instant} {w : World Entropy} {request : Request} {lifetime : ℕ}
  {template : Template} {document : String}

/-- Once the request of a root is known to be good, only files, keys and certificates can fail. -/
lemma createRoot_fails {directory : Path} {input : RootInput} {validity : Int × Int}
    (hdocument : template.render input.toData = .ok document)
    (hrequest : Request.read (.ofText document) = .ok request)
    (hvalid : request.validate = .ok ()) (hlifetime : request.authorityExpiry = .ok lifetime)
    (hwindow : Issuance.window now lifetime = .ok validity) :
    Always (World.handle ((Issuance.authority suite).fixedAt now)) (fun _ _ => True)
      (fun _ _ => True) (fun e _ => e.kind = .io ∨ e.kind = .crypto)
      (LabTrust.createRoot directory template input) w := by
  refine bind (makeDirectories (fun v _ => ⟨trivial, ?_⟩) fun f v _ => ⟨trivial, Or.inl rfl⟩)
  refine bind (orFail (fun _ h => ?_) fun e h => absurd (hdocument.symm.trans h) nofun)
  obtain rfl := Except.ok.inj (hdocument.symm.trans h)
  refine bind (orFail (fun _ h => ?_) fun e h => absurd (hrequest.symm.trans h) nofun)
  obtain rfl := Except.ok.inj (hrequest.symm.trans h)
  refine bind (orFail (fun _ _ => ?_) fun e h => absurd (hvalid.symm.trans h) nofun)
  refine bind (map (orFail (fun _ _ => ?_) fun e h => absurd (hlifetime.symm.trans h) nofun))
  refine bind (consult (fun key v₁ _ _ => ⟨trivial, ?_⟩) fun e v₁ he _ => ⟨trivial, Or.inr ?_⟩)
  swap
  · exact Issuance.kind_of_answers he (Request.check_key_of_validate hvalid)
  refine bind (consult (fun csr v₂ _ _ => ⟨trivial, ?_⟩) fun e v₂ he _ => ⟨trivial, Or.inr ?_⟩)
  swap
  · exact Issuance.kind_of_answers he trivial
  refine bind (consult (fun text v₃ _ _ => ⟨trivial, ?_⟩) fun e v₃ he _ => ⟨trivial, Or.inr ?_⟩)
  swap
  · exact Issuance.kind_of_answers he ⟨lifetime, validity, hlifetime, hwindow⟩
  exact bind (mono (persist (Stages.any _ _) fun _ _ => trivial) (fun _ _ _ => trivial)
    (fun _ _ _ => pure trivial) fun e v h => Or.inl h.1)

lemma ensureRoot_fails {directory : Path} {input : RootInput} {validity : Int × Int}
    (hdocument : template.render input.toData = .ok document)
    (hrequest : Request.read (.ofText document) = .ok request)
    (hvalid : request.validate = .ok ()) (hlifetime : request.authorityExpiry = .ok lifetime)
    (hwindow : Issuance.window now lifetime = .ok validity) :
    Always (World.handle ((Issuance.authority suite).fixedAt now)) (fun _ _ => True)
      (fun _ _ => True) (fun e _ => e.kind = .io ∨ e.kind = .crypto)
      (LabTrust.ensureRoot directory template input) w :=
  bind (isComplete (fun _ _ => trivial) (fun _ => pure trivial)
    fun _ => createRoot_fails hdocument hrequest hvalid hlifetime hwindow)

/-- A call for a leaf whose validity is good does not fail for it. -/
lemma issueLeaf_fails {rootCertificate rootKey target : Path} {input : LeafInput}
    {options : LeafOptions} (hlifetime : options.lifetime input = .ok lifetime)
    {validity : Int × Int} (hwindow : Issuance.window now lifetime = .ok validity) :
    Always (World.handle ((Issuance.authority suite).fixedAt now)) (fun _ _ => True)
      (fun _ _ => True) (fun e _ => ¬ e.IsOfValidity)
      (LabTrust.issueLeaf rootCertificate rootKey template input target options) w := by
  refine mono issueLeaf_failure (fun _ _ _ => trivial) (fun _ _ _ => trivial)
    fun e _ hfailure => ?_
  cases hfailure with
  | plan h => exact LeafOptions.not_isOfValidity_of_plan hlifetime h
  | signer => exact id
  | key hplan h =>
      have hkind := Issuance.kind_of_answers h
        (Request.check_key_of_validate (LeafOptions.settled_of_plan_eq_ok hplan).valid)
      exact Error.not_isOfValidity_of_kind (by simp [hkind])
  | request _ h =>
      exact Error.not_isOfValidity_of_kind (by simp [Issuance.kind_of_answers h trivial])
  | leaf hplan _ _ h =>
      have hgranted := (LeafOptions.settled_of_plan_eq_ok hplan).lifetime
      obtain rfl := Except.ok.inj (hgranted.symm.trans hlifetime)
      exact Error.not_isOfValidity_of_kind
        (by simp [Issuance.kind_of_answers h ⟨validity, hwindow⟩])
  | store h => exact Error.not_isOfValidity_of_kind (by simp [h])

end Action.Always

/-! ### Settings -/

/-- A clock in the calendar, up to the end of the year 9699. -/
def Instant.IsEarly (now : Instant) : Prop :=
  Issuance.calendar.1 ≤ now.second ∧ now.second < 86400 * (⟨9700, 1, 1⟩ : Date).dayNumber

instance (now : Instant) : Decidable now.IsEarly := inferInstanceAs (Decidable (_ ∧ _))

/-- From such a time no validity leads outside the calendar. -/
lemma Issuance.window_eq_ok {now : Instant} (hnow : now.IsEarly) {s : String} {lifetime : ℕ}
    (h : Expiry.parse s = .ok lifetime) :
    window now lifetime = .ok (now.second - 300, now.second + lifetime) := by
  obtain ⟨hfirst, hlast⟩ := hnow
  obtain ⟨-, -, hlongest⟩ := Expiry.parse_eq_ok_iff.mp h
  have hroom : 86400 * (⟨9700, 1, 1⟩ : Date).dayNumber + Expiry.longest ≤ calendar.2 := by decide
  have hbound : (lifetime : Int) ≤ Expiry.longest := Int.ofNat_le.mpr hlongest
  exact if_pos ⟨by omega, by omega⟩

namespace Settings

variable {settings : Settings} {text : String}

/-- What was accepted has validities with a meaning. -/
lemma exists_parse_of_read (h : read text = .ok settings) :
    ∃ rootLifetime leafLifetime, Expiry.parse settings.rootExpiry = .ok rootLifetime ∧
      Expiry.parse settings.leafExpiry = .ok leafLifetime := by
  have hparse : ∀ {field s : String}, checkExpiry field s = .ok () →
      ∃ n, Expiry.parse s = .ok n := by
    intro field s hs
    rw [checkExpiry] at hs
    split at hs
    · next n hn => exact ⟨n, hn⟩
    · cases hs
  rw [read] at h
  split at h
  · cases h
  · split at h
    · cases h
    · next s _ =>
      cases hcheck : s.check with
      | error e =>
          rw [hcheck] at h
          cases h
      | ok _ =>
          rw [hcheck] at h
          obtain rfl := Except.ok.inj h
          obtain ⟨_, hroot, hleaf⟩ := Except.bind_eq_ok_iff.mp hcheck
          obtain ⟨rootLifetime, hroot⟩ := hparse hroot
          obtain ⟨leafLifetime, hleaf⟩ := hparse hleaf
          exact ⟨rootLifetime, leafLifetime, hroot, hleaf⟩

/-- The lab of settings that keep the built-in templates. -/
def plainLab (settings : Settings) (name : String) (layout : LabLayout) : Lab where
  name := name
  layout := layout
  subject := settings.subject
  rootExpiry := settings.rootExpiry
  options := settings.leafOptions
  policy := settings.policy

/-- It is the lab that the settings describe. -/
lemma run_ofSettings (hroot : settings.rootTemplate = none) (hnode : settings.nodeTemplate = none)
    (name : String) (layout : LabLayout) {σ : Type} (authority : Authority σ) (w : World σ) :
    World.run authority (Lab.ofSettings name layout settings).run w =
      (.ok (settings.plainLab name layout), w) := by
  rw [Lab.ofSettings, hroot, hnode]
  rfl

end Settings

/-- The root of a lab asks for a key that is made, and has a name. -/
lemma RootInput.validate_request (i : RootInput) : i.request.validate = .ok () := by
  have hname : Text.blank i.request.commonName = false := by
    rw [Text.blank, List.isEmpty_eq_false_iff]
    intro hnil
    obtain ⟨before, after, hs, hbefore, hafter⟩ := Text.exists_trim i.request.commonName.toList
    rw [hnil, List.append_nil] at hs
    have hmem : 'R' ∈ i.request.commonName.toList := by
      have heq : i.request.commonName = i.labName ++ " Root CA" := rfl
      rw [heq, String.toList_append]
      exact List.mem_append_right _ (by decide)
    rw [hs] at hmem
    rcases List.mem_append.mp hmem with hmem | hmem
    · exact absurd (hbefore _ hmem) (by decide)
    · exact absurd (hafter _ hmem) (by decide)
  refine Except.bind_eq_ok_iff.mpr ⟨(), show KeySpec.check ⟨.rsa, 2048⟩ = .ok () by decide, ?_⟩
  rw [hname]
  rfl

/-- Settings that were accepted give every lab two validities. Leaves hold for the one, whenever the
call is made, and no call for a leaf fails for it. The root asks for the other unless its text holds
a control character; then only files, keys and certificates can keep the root from being made. -/
theorem Settings.validities_hold (text : String) (settings : Settings)
    (h : Settings.read text = .ok settings) (hroot : settings.rootTemplate = none)
    (hnode : settings.nodeTemplate = none) (name : String) (layout : LabLayout)
    (hplain : ∀ s ∈ [name, settings.subject.country, settings.subject.locality,
      settings.subject.organization, settings.subject.unit], Json.IsPlain s)
    (now : Instant) (hnow : now.IsEarly) :
    let lab := settings.plainLab name layout
    (∀ {σ : Type} (authority : Authority σ) (w : World σ),
      World.run authority (Lab.ofSettings name layout settings).run w = (.ok lab, w)) ∧
    ∃ rootLifetime leafLifetime document,
      Expiry.parse settings.rootExpiry = .ok rootLifetime ∧
      Expiry.parse settings.leafExpiry = .ok leafLifetime ∧
      Issuance.window now rootLifetime = .ok (now.second - 300, now.second + rootLifetime) ∧
      Issuance.window now leafLifetime = .ok (now.second - 300, now.second + leafLifetime) ∧
      lab.rootTemplate.render lab.rootInput.toData = .ok document ∧
      ((∃ r, Request.read (.ofText document) = .ok r) ↔ Text.LacksControl settings.rootExpiry) ∧
      (∀ r, Request.read (.ofText document) = .ok r → r.authorityExpiry = .ok rootLifetime) ∧
      (∀ input : LeafInput, Text.blank input.expiry = true →
        lab.options.lifetime input = .ok leafLifetime) ∧
      ∀ (suite : Suite) (states : ℕ → Entropy) (refusals : List (Option IoFailure)) (d : Disk),
        let v : Visit Entropy := ⟨Issuance.authority suite, now, states, refusals⟩
        (Text.LacksControl settings.rootExpiry → ∀ e,
          v.result (lab.ensureRoot lab.rootInput) d = .error e → e.kind = .io ∨ e.kind = .crypto) ∧
        ∀ input : LeafInput, Text.blank input.expiry = true → ∀ e,
          v.result (lab.issue input) d = .error e → ¬ e.IsOfValidity := by
  intro lab
  obtain ⟨rootLifetime, leafLifetime, hrootLifetime, hleafLifetime⟩ := exists_parse_of_read h
  have hrootExpiry : Expiry.parse lab.rootInput.expiry = .ok rootLifetime := hrootLifetime
  have hread := RootInput.read_document_iff (i := lab.rootInput) hplain hrootExpiry
  have hrequest := RootInput.read_document (i := lab.rootInput) hplain hrootExpiry
  have hasked := RootInput.authorityExpiry_request hrootExpiry
  have hdocument := Template.render_ofRoot lab.rootInput
  have hlifetime : ∀ input : LeafInput, Text.blank input.expiry = true →
      lab.options.lifetime input = .ok leafLifetime := by
    intro input hblank
    rw [LeafOptions.lifetime, if_pos hblank]
    exact hleafLifetime
  refine ⟨run_ofSettings hroot hnode name layout, rootLifetime, leafLifetime, _, hrootLifetime,
    hleafLifetime, Issuance.window_eq_ok hnow hrootLifetime,
    Issuance.window_eq_ok hnow hleafLifetime, hdocument, hread, fun r hr => ?_, hlifetime,
    fun suite states refusals d => ⟨fun hcontrol e he => ?_, fun input hblank e he => ?_⟩⟩
  · rw [hrequest (hread.mp ⟨r, hr⟩), Except.ok.injEq] at hr
    exact hr ▸ hasked
  · obtain ⟨w, hkind⟩ := Visit.of_fixedAt_error
      (Action.Always.ensureRoot_fails hdocument (hrequest hcontrol) (RootInput.validate_request _)
        hasked (Issuance.window_eq_ok hnow hrootLifetime)) he
    exact hkind
  · obtain ⟨w, hother⟩ := Visit.of_fixedAt_error
      (Action.Always.issueLeaf_fails (hlifetime input hblank)
        (Issuance.window_eq_ok hnow hleafLifetime)) he
    exact hother

/-- A blank that is no control character stands before the validity of the root. -/
def Settings.spaced : Settings := { rootExpiry := "\u00a01h" }

lemma Settings.read_spaced : Settings.read "ca_expiry = \"\u00a01h\"" = .ok .spaced := by
  decide +kernel

/-- The root asks for an hour. -/
theorem Settings.spaced_validity_holds :
    Settings.read "ca_expiry = \"\u00a01h\"" = .ok .spaced ∧
    ∃ rootLifetime document, Expiry.parse "\u00a01h" = .ok rootLifetime ∧
      Issuance.window ⟨0, 0⟩ rootLifetime = .ok (0 - 300, 0 + rootLifetime) ∧
      Template.ofRoot.render (RootInput.ofLab "lab" .default "\u00a01h").toData = .ok document ∧
      (∃ r, Request.read (.ofText document) = .ok r ∧ r.authorityExpiry = .ok rootLifetime) ∧
      ∀ suite states refusals d e,
        (⟨Issuance.authority suite, ⟨0, 0⟩, states, refusals⟩ : Visit Entropy).result
          ((Settings.spaced.plainLab "lab" ⟨.ofText "ca", .ofText "nodes"⟩).ensureRoot
            (RootInput.ofLab "lab" .default "\u00a01h")) d = .error e →
              e.kind = .io ∨ e.kind = .crypto := by
  obtain ⟨-, rootLifetime, leafLifetime, document, hroot, -, hwindow, -, hdocument, hread, hasked,
    -, hcalls⟩ := Settings.validities_hold _ .spaced Settings.read_spaced rfl rfl "lab"
      ⟨.ofText "ca", .ofText "nodes"⟩ (by decide) ⟨0, 0⟩ (by decide)
  have hcontrol : Text.LacksControl Settings.spaced.rootExpiry := by decide
  obtain ⟨r, hr⟩ := hread.mpr hcontrol
  exact ⟨Settings.read_spaced, rootLifetime, document, hroot, hwindow, hdocument,
    ⟨r, hr, hasked r hr⟩, fun suite states refusals d e he =>
      (hcalls suite states refusals d).1 hcontrol e he⟩

/-- A validity with a line end behind it is accepted, and then the document cannot be read. -/
theorem Settings.accepted_validity_may_fail :
    ¬ ∀ (text : String) (settings : Settings), Settings.read text = .ok settings →
      settings.rootTemplate = none → settings.nodeTemplate = none →
      ∀ (name : String) (layout : LabLayout),
        (∀ s ∈ [name, settings.subject.country, settings.subject.locality,
          settings.subject.organization, settings.subject.unit], Json.IsPlain s) →
        ∃ document r, Template.ofRoot.render (settings.plainLab name layout).rootInput.toData =
          .ok document ∧ Request.read (.ofText document) = .ok r := by
  intro h
  obtain ⟨document, r, hdocument, hr⟩ := h "ca_expiry = \"8760h\\n\""
    { rootExpiry := "8760h\n" } (by decide +kernel) rfl rfl "lab"
    ⟨.ofText "ca", .ofText "nodes"⟩ (by decide)
  rw [Template.render_ofRoot, Except.ok.injEq] at hdocument
  have hcontrol := (RootInput.read_document_iff
    (i := RootInput.ofLab "lab" .default "8760h\n") (n := 31536000) (by decide)
    (by decide)).mp ⟨r, hdocument ▸ hr⟩
  exact absurd hcontrol (by decide)

end LabTrust
