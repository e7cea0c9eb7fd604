/-
Why an authority refuses a call.

A refusal names the step of the work that it comes from. Keys, hosts and the lengths of documents
fail for the step that they belong to; only a validity fails for a reason of its own.
* `Issuance.exists_fault_of_generateKey`, `exists_fault_of_buildRequest`, `exists_report_of_certify`:
  which step a refusal names.
* `Issuance.Acceptable`: a call for a kind of key that is made, and for a validity that stays inside
  the calendar.
* `Issuance.kind_of_answer`: such a call fails for a reason of keys and certificates only.
-/
import LabTrust.Certificate.Issuance
import LabTrust.Proofs.Except

namespace LabTrust

namespace Issuance

variable {suite : Suite} {now : Instant} {stage : Stage} {e : Entropy} {failure : Error}

/-! ### Parts -/

lemma exists_fault_of_loadKey {text : String} (h : loadKey stage text = .error failure) :
    ∃ fault, failure = .crypto stage fault := by
  rw [loadKey] at h
  split at h
  · cases h
  · cases h
    exact ⟨_, rfl⟩

lemma exists_fault_of_altNames {hosts : List String} (h : altNames stage hosts = .error failure) :
    ∃ fault, failure = .crypto stage fault := by
  obtain ⟨host, -, h⟩ := Except.mapM_eq_error h
  rw [altName] at h
  split at h
  · cases h
  · cases h
    exact ⟨_, rfl⟩

lemma exists_report_of_publish {label : String} {document : Bytes}
    (h : publish stage label document = .error failure) :
    ∃ report, failure = .crypto stage (.other report) := by
  rw [publish] at h
  split at h
  · cases h
  · cases h
    exact ⟨_, rfl⟩

/-- A certificate is not made only because it cannot be written. -/
lemma exists_report_of_certify {key : SecretKey} {draft : CertificateDraft}
    (h : certify suite stage key draft e = .error failure) :
    ∃ report, failure = .crypto stage (.other report) := by
  rw [certify] at h
  split at h
  · cases h
    exact ⟨_, rfl⟩
  · rcases Except.bind_eq_error_iff.mp h with h | ⟨_, -, h⟩
    · exact exists_report_of_publish h
    · cases h

lemma exists_fault_of_loadIssuer {signer : Signer} (h : loadIssuer signer = .error failure) :
    ∃ fault, failure = .crypto .signerConstruction fault := by
  rcases Except.bind_eq_error_iff.mp h with h | ⟨key, -, h⟩
  · exact exists_fault_of_loadKey h
  · split at h
    · cases h
    · cases h
      exact ⟨_, rfl⟩

lemma exists_fault_of_loadRequest {text : String} (h : loadRequest suite text = .error failure) :
    ∃ fault, failure = .crypto .signing fault := by
  rw [loadRequest] at h
  split at h
  · cases h
  · cases h
    exact ⟨_, rfl⟩

/-! ### Calls -/

/-- The kind of key is made, and the validity stays inside the calendar. -/
def Acceptable (now : Instant) : Call → Prop
  | .generateKey spec => spec.check = .ok ()
  | .buildRequest _ _ => True
  | .selfSign request _ => ∃ lifetime validity,
      request.authorityExpiry = .ok lifetime ∧ window now lifetime = .ok validity
  | .sign order _ => ∃ validity, window now order.lifetime = .ok validity

lemma exists_fault_of_generateKey {spec : KeySpec} (hspec : spec.check = .ok ())
    (h : generateKey spec e = .error failure) :
    ∃ fault, failure = .crypto .keyGeneration fault := by
  rcases Except.bind_eq_error_iff.mp h with h | ⟨_, -, h⟩
  · rw [hspec] at h
    cases h
  · split at h
    · cases h
    · cases h
      exact ⟨_, rfl⟩

lemma exists_fault_of_buildRequest {request : Request} {key : String}
    (h : buildRequest suite request key e = .error failure) :
    ∃ fault, failure = .crypto .requestBuild fault := by
  rcases Except.bind_eq_error_iff.mp h with h | ⟨key, -, h⟩
  · exact exists_fault_of_loadKey h
  rcases Except.bind_eq_error_iff.mp h with h | ⟨names, -, h⟩
  · exact exists_fault_of_altNames h
  rcases Except.bind_eq_error_iff.mp h with h | ⟨_, -, h⟩
  · obtain ⟨report, rfl⟩ := exists_report_of_publish h
    exact ⟨_, rfl⟩
  · cases h

lemma kind_of_selfSign {request : Request} {key : String} {lifetime : ℕ} {validity : Int × Int}
    (hlifetime : request.authorityExpiry = .ok lifetime)
    (hwindow : window now lifetime = .ok validity)
    (h : selfSign suite now request key e = .error failure) : failure.kind = .crypto := by
  rcases Except.bind_eq_error_iff.mp h with h | ⟨key, -, h⟩
  · obtain ⟨fault, rfl⟩ := exists_fault_of_loadKey h
    rfl
  rcases Except.bind_eq_error_iff.mp h with h | ⟨names, -, h⟩
  · obtain ⟨fault, rfl⟩ := exists_fault_of_altNames h
    rfl
  rw [hlifetime] at h
  rcases Except.bind_eq_error_iff.mp h with h | ⟨_, hgranted, h⟩
  · cases h
  obtain rfl := Except.ok.inj hgranted
  rw [hwindow] at h
  rcases Except.bind_eq_error_iff.mp h with h | ⟨_, -, h⟩
  · cases h
  · obtain ⟨report, rfl⟩ := exists_report_of_certify h
    rfl

lemma kind_of_sign {order : SigningOrder} {signer : Signer} {validity : Int × Int}
    (hwindow : window now order.lifetime = .ok validity)
    (h : sign suite now order signer e = .error failure) : failure.kind = .crypto := by
  have hcertify : ∀ {issuer : Issuer} {accepted : AcceptedRequest} {names : List AltName},
      (window now order.lifetime >>= fun validity =>
        certify suite .signing issuer.key
          (leafDraft issuer accepted names validity (drawSerial e).1) (drawSerial e).2) =
            .error failure → failure.kind = .crypto := by
    intro issuer accepted names h
    rw [hwindow] at h
    rcases Except.bind_eq_error_iff.mp h with h | ⟨_, -, h⟩
    · cases h
    · obtain ⟨report, rfl⟩ := exists_report_of_certify h
      rfl
  rcases Except.bind_eq_error_iff.mp h with h | ⟨issuer, -, h⟩
  · obtain ⟨fault, rfl⟩ := exists_fault_of_loadIssuer h
    rfl
  rcases Except.bind_eq_error_iff.mp h with h | ⟨accepted, -, h⟩
  · obtain ⟨fault, rfl⟩ := exists_fault_of_loadRequest h
    rfl
  by_cases hhosts : order.hosts.isEmpty = true
  · simp only [hhosts, if_true, pure_bind] at h
    exact hcertify h
  · simp only [hhosts] at h
    rcases Except.bind_eq_error_iff.mp h with h | ⟨names, -, h⟩
    · obtain ⟨fault, rfl⟩ := exists_fault_of_altNames h
      rfl
    · exact hcertify h

/-- Such a call is refused for a reason of keys and certificates only. -/
theorem kind_of_answer {call : Call} (hcall : Acceptable now call)
    (h : answer suite now e call = .error failure) : failure.kind = .crypto := by
  cases call with
  | generateKey spec =>
      obtain ⟨fault, rfl⟩ := exists_fault_of_generateKey hcall h
      rfl
  | buildRequest request key =>
      obtain ⟨fault, rfl⟩ := exists_fault_of_buildRequest h
      rfl
  | selfSign request key =>
      obtain ⟨lifetime, validity, hlifetime, hwindow⟩ := hcall
      exact kind_of_selfSign hlifetime hwindow h
  | sign order signer =>
      obtain ⟨validity, hwindow⟩ := hcall
      exact kind_of_sign hwindow h

end Issuance

end LabTrust
