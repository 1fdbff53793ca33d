import KeyMint.Ta.Frame

/-!
# Failed requests

`process_req` hands a request either to a method of `lib.rs` (or `rkp.rs`) or to one outside it.
Each method of `lib.rs` that can fail makes all its checks before it writes the TA, so a failure
leaves the TA as it was.  The one exception is `GenerateCertificateRequest`, which always fails,
after `rpc_device_info` has fetched and cached the attestation IDs.

- `FailsCleanly`, and one lemma per method that can fail.
- `handleReq_failure_unchanged`: **a request that a method of `lib.rs` fails leaves the TA
  unchanged, apart from the attestation IDs that `GenerateCertificateRequest` caches**.
-/

namespace KeyMint

variable {env : Env}

/-- A method's failure leaves the TA `st` it was given as it was. -/
def FailsCleanly {α : Type} (st : KeyMintTa) (r : Except Error α × KeyMintTa) : Prop :=
  ∀ e, r.1 = .error e → r.2 = st

theorem FailsCleanly.of_ok {α : Type} {st : KeyMintTa} {r : Except Error α × KeyMintTa} {a : α}
    (h : r.1 = .ok a) : FailsCleanly st r :=
  fun _ he => by rw [h] at he; cases he

/-- A response without a value answers a method that failed. -/
theorem respond_rsp_eq_none {α : Type} {op : KeyMintOperation} {wrap : α → PerformOpRsp}
    {r : Except Error α} (h : (respond op wrap r).rsp = none) : ∃ e, r = .error e := by
  cases r with
  | ok a => cases h
  | error e => exact ⟨e, rfl⟩

namespace KeyMintTa

variable (st : KeyMintTa)

theorem addRngEntropy_failsCleanly (data : Bytes) : FailsCleanly st (st.addRngEntropy env data) := by
  unfold addRngEntropy
  split
  · exact fun _ _ => rfl
  · exact .of_ok rfl

/-- `delete_key` never fails: a keyblob that does not parse, and a failed `delete_secret`, are
only logged. -/
theorem deleteKey_fst (keyBlob : Bytes) : (st.deleteKey env keyBlob).1 = .ok () := by
  unfold deleteKey
  split <;> (try split) <;> rfl

theorem deleteAllKeys_fst : st.deleteAllKeys.1 = .ok () := by
  unfold deleteAllKeys
  split <;> rfl

theorem destroyAttestationIds_failsCleanly : FailsCleanly st st.destroyAttestationIds := by
  unfold destroyAttestationIds
  split
  · exact .of_ok rfl
  · exact fun _ _ => rfl

theorem getRootOfTrustChallenge_failsCleanly : FailsCleanly st st.getRootOfTrustChallenge := by
  unfold getRootOfTrustChallenge
  split
  · exact fun _ _ => rfl
  · exact .of_ok rfl

/-- A failure of `send_root_of_trust` that is not a panic leaves the TA as it was. -/
theorem sendRootOfTrust_failsCleanly (rootOfTrust : Bytes) (e : Error)
    (h : (st.sendRootOfTrust env rootOfTrust).1 = some (.error e)) :
    (st.sendRootOfTrust env rootOfTrust).2 = st := by
  unfold sendRootOfTrust at h ⊢
  split <;> simp_all

end KeyMintTa

theorem deviceLocked_failsCleanly (now : Timestamp) (st : KeyMintTa) (passwordOnly : Bool)
    (token : Option TimeStampToken) : FailsCleanly st (deviceLocked env now st passwordOnly token) := by
  unfold deviceLocked
  split
  · exact .of_ok rfl
  · exact fun _ _ => rfl

namespace Outcome

variable {st st' : KeyMintTa} {rsp : PerformOpResponse} {op : KeyMintOperation}

/-- A failed method of `lib.rs` that fails cleanly leaves the TA as it was. -/
theorem ofMethod_failure {α : Type} {wrap : α → PerformOpRsp} {r : Except Error α × KeyMintTa}
    (hc : FailsCleanly st r) (h : ofMethod op wrap r = .internal rsp st') (hfail : rsp.rsp = none) :
    st' = st := by
  simp only [ofMethod, internal.injEq] at h
  obtain ⟨rfl, rfl⟩ := h
  obtain ⟨e, he⟩ := respond_rsp_eq_none hfail
  exact hc e he

/-- A failed method that may panic, and whose failures are clean, leaves the TA as it was. -/
theorem ofPanicking_failure {α : Type} {wrap : α → PerformOpRsp}
    {r : Option (Except Error α) × KeyMintTa} (hc : ∀ e, r.1 = some (.error e) → r.2 = st)
    (h : ofPanicking op wrap r = .internal rsp st') (hfail : rsp.rsp = none) : st' = st := by
  obtain ⟨_ | res, st₁⟩ := r
  · cases h
  simp only [ofPanicking, internal.injEq] at h
  obtain ⟨rfl, rfl⟩ := h
  obtain ⟨e, rfl⟩ := respond_rsp_eq_none hfail
  exact hc e rfl

theorem ofQuery_snd {α : Type} {wrap : α → PerformOpRsp} {r : Except Error α}
    (h : ofQuery st op wrap r = .internal rsp st') : st' = st := by
  simp only [ofQuery, internal.injEq] at h
  exact h.2.symm

theorem ofHandled_ne_internal {α : Type} {wrap : α → PerformOpRsp} {r : Handled α} :
    ofHandled op wrap r ≠ .internal rsp st' := by
  simp [ofHandled]

end Outcome

/-- **A failed request of `lib.rs` changes nothing.**  For every state and every request that
`process_req` hands to a method of `lib.rs` or `rkp.rs`, a response without a value leaves the TA
as it was, except that `GenerateCertificateRequest`, which always fails, may have cached the
attestation IDs on the way. -/
theorem handleReq_failure_unchanged (now : Timestamp) (st : KeyMintTa) (req : PerformOpReq)
    {rsp : PerformOpResponse} {st' : KeyMintTa} (h : handleReq env now st req = .internal rsp st')
    (hfail : rsp.rsp = none) :
    st' = st ∨ (req.code = .rpcGenerateCertificateRequest ∧ st' = st.getAttestationIds.2) := by
  cases req with
  | setBootInfo _ _ verifiedBootState _ _ =>
    simp only [handleReq] at h
    split at h <;> simp only [Outcome.internal.injEq] at h
    · exact .inl h.2.symm
    · rw [← h.1] at hfail; cases hfail
  | setHalInfo | setAttestationIds =>
    simp only [handleReq, Outcome.internal.injEq] at h
    rw [← h.1] at hfail; cases hfail
  | rpcGenerateCertificateRequest =>
    simp only [handleReq, Outcome.ofMethod, Outcome.internal.injEq] at h
    exact .inr ⟨rfl, h.2.symm⟩
  | deviceAddRngEntropy data =>
    exact .inl (Outcome.ofMethod_failure (st.addRngEntropy_failsCleanly data) h hfail)
  | deviceDeleteKey keyBlob =>
    exact .inl (Outcome.ofMethod_failure (.of_ok (st.deleteKey_fst keyBlob)) h hfail)
  | deviceDeleteAllKeys =>
    exact .inl (Outcome.ofMethod_failure (.of_ok st.deleteAllKeys_fst) h hfail)
  | deviceDestroyAttestationIds =>
    exact .inl (Outcome.ofMethod_failure st.destroyAttestationIds_failsCleanly h hfail)
  | deviceDeviceLocked passwordOnly token =>
    exact .inl (Outcome.ofMethod_failure (deviceLocked_failsCleanly now st passwordOnly token) h hfail)
  | deviceEarlyBootEnded => exact .inl (Outcome.ofMethod_failure (.of_ok rfl) h hfail)
  | getRootOfTrustChallenge =>
    exact .inl (Outcome.ofMethod_failure st.getRootOfTrustChallenge_failsCleanly h hfail)
  | sendRootOfTrust rootOfTrust =>
    exact .inl (Outcome.ofPanicking_failure (st.sendRootOfTrust_failsCleanly rootOfTrust) h hfail)
  | getRootOfTrust => exact .inl (Outcome.ofPanicking_failure (fun _ _ => rfl) h hfail)
  | deviceGetHardwareInfo | deviceConvertStorageKeyToEphemeral | deviceGetKeyCharacteristics
  | rpcGetHardwareInfo | rpcGenerateEcdsaP256KeyPair
  | rpcGenerateCertificateV2Request => exact .inl (Outcome.ofQuery_snd h)
  | _ => exact (Outcome.ofHandled_ne_internal h).elim

/-- `GenerateCertificateRequest` on a fresh TA whose device provides attestation IDs fails, for
want of boot information, and leaves the IDs it fetched cached. -/
theorem handleReq_failure_unchanged_certReq :
    let st := KeyMintTa.new ⟨.trustedEnvironment, 1, "", "", "", false⟩ (.v3 "" "" false 0)
      ⟨fun _ => 0⟩ none (some ⟨some ⟨[1], [], [], [], []⟩⟩)
    let req := PerformOpReq.rpcGenerateCertificateRequest false [] [] []
    let st' := { st with attestationIdInfo := some ⟨[1], [], [], [], []⟩ }
    handleReq .reference ⟨0⟩ st req = .internal ⟨.unknownError, none⟩ st' ∧
      (st' = st ∨ (req.code = .rpcGenerateCertificateRequest ∧ st' = st.getAttestationIds.2)) := by
  intro st req st'
  have h : handleReq .reference ⟨0⟩ st req = .internal ⟨.unknownError, none⟩ st' := rfl
  exact ⟨h, handleReq_failure_unchanged _ _ _ h rfl⟩

end KeyMint
