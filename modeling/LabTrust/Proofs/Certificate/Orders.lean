/-
The two ways by which the names of hosts get into a leaf.

An order may give the hosts of a leaf, or leave them to its request. A request that was built asks
for the names of its hosts, so both orders come to the same.
* `Issuance.sign_eq_of_altNames`: hosts with the names that the request asks for can be left out.
* `Issuance.body_of_sign`: what is signed of a leaf depends on the random values only through the
  serial number.
* `Issuance.hosts_survive_request`: the hosts of a request that was built can be given or left out.
-/
import LabTrust.Proofs.Certificate.Answered

namespace LabTrust

namespace Issuance

variable {suite : Suite} {now : Instant} {order : SigningOrder} {signer : Signer}
  {request : Request} {keyText csr text text₁ text₂ : String} {hosts : List String}
  {lifetime : Int} {e e' e₀ e₀' e₁ e₁' e₂ e₂' : Entropy}

/-- An order gives what it gives without hosts, if these have the names that its request asks
for. -/
lemma sign_eq_of_altNames (h : ∀ accepted, loadRequest suite csr = .ok accepted →
    altNames .signing hosts = .ok accepted.altNames) (e : Entropy) :
    sign suite now ⟨csr, hosts, lifetime⟩ signer e =
      sign suite now ⟨csr, [], lifetime⟩ signer e := by
  refine bind_congr fun issuer => ?_
  cases hrequest : loadRequest suite csr with
  | error failure => simp only [bind, Except.bind]
  | ok accepted =>
      by_cases hhosts : hosts = []
      · rw [hhosts]
      · simp only [bind, Except.bind, List.isEmpty_iff, hhosts, if_false, h accepted hrequest,
          List.isEmpty_nil, if_true]
        rfl

/-- The signed part of a leaf, and its names. -/
lemma body_of_sign (h : sign suite now order signer e = .ok (text, e')) :
    ∃ issuer accepted names validity leaf, loadIssuer signer = .ok issuer ∧
      loadRequest suite order.request = .ok accepted ∧
      (if order.hosts.isEmpty then pure accepted.altNames
        else altNames .signing order.hosts) = .ok names ∧
      window now order.lifetime = .ok validity ∧ Certificate.ofPem text = .ok leaf ∧
      leaf.body = (leafDraft issuer accepted names validity (drawSerial e).1).body
        issuer.key.signatureAlgorithm := by
  obtain ⟨issuer, accepted, names, validity, hissuer, haccepted, hnames, hvalidity, hcertify⟩ :=
    sign_eq_ok_iff.mp h
  exact ⟨issuer, accepted, names, validity, _, hissuer, haccepted, hnames, hvalidity,
    (heldBy_of_leafDraft hissuer haccepted hcertify).ofPem_eq, rfl⟩

/-- Leaves of one order with one serial number have one signed part. -/
lemma body_eq_of_serial (hserial : (drawSerial e₁).1 = (drawSerial e₂).1)
    (h₁ : sign suite now order signer e₁ = .ok (text₁, e₁'))
    (h₂ : sign suite now order signer e₂ = .ok (text₂, e₂')) :
    ∃ leaf₁ leaf₂, Certificate.ofPem text₁ = .ok leaf₁ ∧ Certificate.ofPem text₂ = .ok leaf₂ ∧
      leaf₁.body = leaf₂.body := by
  obtain ⟨issuer, accepted, names, validity, leaf₁, hissuer, haccepted, hnames, hvalidity, hleaf₁,
    hbody₁⟩ := body_of_sign h₁
  obtain ⟨issuer', accepted', names', validity', leaf₂, hissuer', haccepted', hnames', hvalidity',
    hleaf₂, hbody₂⟩ := body_of_sign h₂
  obtain rfl := Except.ok.inj (hissuer.symm.trans hissuer')
  obtain rfl := Except.ok.inj (haccepted.symm.trans haccepted')
  obtain rfl := Except.ok.inj (hnames.symm.trans hnames')
  obtain rfl := Except.ok.inj (hvalidity.symm.trans hvalidity')
  exact ⟨leaf₁, leaf₂, hleaf₁, hleaf₂, by rw [hbody₁, hbody₂, hserial]⟩

/-- The names of a leaf for a request that was built, with the hosts left out. -/
lemma altNames?_of_buildRequest (hbuild : buildRequest suite request keyText e₀ = .ok (csr, e₀'))
    (h : sign suite now ⟨csr, [], lifetime⟩ signer e = .ok (text, e')) :
    ∃ leaf, Certificate.ofPem text = .ok leaf ∧
      leaf.altNames? = request.hosts.mapM AltName.ofHost? := by
  obtain ⟨leaf, issuer, accepted, names, validity, hsettled⟩ := exists_settled h
  have hnames : names = accepted.altNames := (if_pos rfl).mp hsettled.hosts
  have hhosts := accepted_of_buildRequest hbuild hsettled.loadRequest
  exact ⟨leaf, hsettled.held.ofPem_eq,
    hsettled.isLeafFor.names.trans (hnames ▸ (Option.mapM_eq_some_iff.mpr hhosts).symm)⟩

/-- The hosts of a request that was built can be given with the order or left to the request: with
the same random values both orders fail alike or give the same text, and with the same serial number
the signed parts of what they give are the same bytes, with the names of the hosts in their order. -/
theorem hosts_survive_request (suite : Suite) (request : Request) (keyText csr : String)
    (e₀ e₀' : Entropy) (hbuild : buildRequest suite request keyText e₀ = .ok (csr, e₀'))
    (now : Instant) (lifetime : Int) (signer : Signer) :
    (∀ e, sign suite now ⟨csr, request.hosts, lifetime⟩ signer e =
      sign suite now ⟨csr, [], lifetime⟩ signer e) ∧
    ∀ e₁ e₂ text₁ text₂ e₁' e₂', (drawSerial e₁).1 = (drawSerial e₂).1 →
      sign suite now ⟨csr, request.hosts, lifetime⟩ signer e₁ = .ok (text₁, e₁') →
      sign suite now ⟨csr, [], lifetime⟩ signer e₂ = .ok (text₂, e₂') →
      ∃ leaf₁ leaf₂ names, Certificate.ofPem text₁ = .ok leaf₁ ∧
        Certificate.ofPem text₂ = .ok leaf₂ ∧ leaf₁.body = leaf₂.body ∧
        request.hosts.mapM AltName.ofHost? = some names ∧
        leaf₁.altNames? = some names ∧ leaf₂.altNames? = some names := by
  have hsame : ∀ e, sign suite now ⟨csr, request.hosts, lifetime⟩ signer e =
      sign suite now ⟨csr, [], lifetime⟩ signer e :=
    sign_eq_of_altNames fun accepted haccepted =>
      altNames_eq_ok_iff.mpr (accepted_of_buildRequest hbuild haccepted)
  refine ⟨hsame, fun e₁ e₂ text₁ text₂ e₁' e₂' hserial h₁ h₂ => ?_⟩
  rw [hsame] at h₁
  obtain ⟨leaf₁, leaf₂, hleaf₁, hleaf₂, hbody⟩ := body_eq_of_serial hserial h₁ h₂
  obtain ⟨names, hnames⟩ : ∃ names, request.hosts.mapM AltName.ofHost? = some names := by
    obtain ⟨key, -, hbuild⟩ := Except.bind_eq_ok_iff.mp hbuild
    obtain ⟨names, hnames, -⟩ := Except.bind_eq_ok_iff.mp hbuild
    exact ⟨names, Option.mapM_eq_some_iff.mpr (altNames_eq_ok_iff.mp hnames)⟩
  have hread : ∀ text leaf e e', Certificate.ofPem text = .ok leaf →
      sign suite now ⟨csr, [], lifetime⟩ signer e = .ok (text, e') →
        leaf.altNames? = some names := by
    intro text leaf e e' hleaf h
    obtain ⟨leaf', hleaf', hasked⟩ := altNames?_of_buildRequest hbuild h
    obtain rfl := Except.ok.inj (hleaf.symm.trans hleaf')
    exact hasked.trans hnames
  exact ⟨leaf₁, leaf₂, names, hleaf₁, hleaf₂, hbody, hnames, hread _ _ _ _ hleaf₁ h₁,
    hread _ _ _ _ hleaf₂ h₂⟩

/-! ### A blank host, a host twice, and addresses -/

/-- A request with hosts of all kinds. -/
def variedRequest : Request :=
  { commonName := "r1", hosts := ["r1", "", "10.0.0.1", "FE80:0::1", "r1"] }

/-- Their names in a certificate. -/
def variedNames : List AltName :=
  [.dns "r1", .dns "", .address [10, 0, 0, 1],
    .address [0xfe, 0x80, 0, 0, 0, 0, 0, 0, 0, 0, 0, 0, 0, 0, 0, 1], .dns "r1"]

/-- The request as bytes. -/
def variedDocument : Bytes :=
  (Der.sign .spelled rootKey
    (SigningRequest.bodyOf variedRequest.subject rootKey.publicKey variedNames) ⟨[], 0⟩).1

/-- The request as a text. -/
def variedText : String := Pem.write ⟨requestLabel, variedDocument⟩

set_option maxRecDepth 1000 in
lemma built_varied :
    Built .spelled variedRequest rootKey.toPem ⟨[], 0⟩ variedText rootKey variedNames := by
  have hnames : altNames .requestBuild variedRequest.hosts = .ok variedNames := by decide
  exact built_of_short Suite.modest_spelled ofPem?_rootKey hnames (by decide) _

lemma buildRequest_varied : buildRequest .spelled variedRequest rootKey.toPem ⟨[], 0⟩ =
    .ok (variedText, ⟨[], 0⟩) :=
  built_varied.buildRequest_eq

set_option maxRecDepth 1000 in
/-- The order without hosts is carried out. -/
lemma exists_sign_varied : ∃ text e',
    sign .spelled ⟨0, 0⟩ ⟨variedText, [], 3600⟩ rootSigner ⟨[], 0⟩ = .ok (text, e') := by
  have hrequest := loadRequest_of_built Suite.sound_spelled built_varied
  exact ⟨_, _, sign_of_short Suite.modest_spelled loadIssuer_rootSigner hrequest rfl window_hour
    (by decide) _⟩

/-- So is the order with the hosts, and the leaf is the same. -/
theorem varied_hosts_survive : ∃ text e',
    buildRequest .spelled variedRequest rootKey.toPem ⟨[], 0⟩ = .ok (variedText, ⟨[], 0⟩) ∧
      sign .spelled ⟨0, 0⟩ ⟨variedText, [], 3600⟩ rootSigner ⟨[], 0⟩ = .ok (text, e') ∧
      sign .spelled ⟨0, 0⟩ ⟨variedText, variedRequest.hosts, 3600⟩ rootSigner ⟨[], 0⟩ =
        .ok (text, e') ∧
      ∃ leaf, Certificate.ofPem text = .ok leaf ∧ leaf.altNames? = some variedNames := by
  obtain ⟨text, e', hwithout⟩ := exists_sign_varied
  obtain ⟨hsame, hserial⟩ := hosts_survive_request .spelled variedRequest rootKey.toPem variedText
    ⟨[], 0⟩ ⟨[], 0⟩ buildRequest_varied ⟨0, 0⟩ 3600 rootSigner
  have hwith := (hsame ⟨[], 0⟩).trans hwithout
  obtain ⟨leaf, _, names, hleaf, -, -, hnames, haltNames, -⟩ :=
    hserial _ _ _ _ _ _ rfl hwith hwithout
  obtain rfl : variedNames = names :=
    Option.some.inj (Eq.trans (by decide) hnames)
  exact ⟨text, e', buildRequest_varied, hwithout, hwith, leaf, hleaf, haltNames⟩

end Issuance

end LabTrust
