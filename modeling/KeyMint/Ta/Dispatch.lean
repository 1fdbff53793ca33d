import KeyMint.Ta.Rkp

/-!
# The request dispatcher

`lib.rs` lines 474-841: `process` decodes a request, `process_req` selects the method for its
variant and builds the response, and `process` encodes the response.  A method of `lib.rs`
returns the TA it leaves; a method outside `lib.rs` returns the calls it made into the TA, which
`processReq` then runs.  The root-of-trust methods call into `coset`, which can panic: a panic
aborts the TA, and `process_req` gives no response.

- `processReq_response_shape`: a response carries the variant of its request's operation, and a
  failing method gives exactly its error code (`handlerError`).
- `processReq_fst_eq_none`: **`process_req` panics exactly on a `SendRootOfTrust` at a StrongBox
  whose message decodes to a `COSE_Mac0` without payload**, since `verify_tag` runs before the
  check for a payload.

A TA's life is a sequence of requests, each processed at some reading of the clock: `Run` is a
sequence of steps from one state to another, each allowed by a predicate on the step, and
`Reachable` holds of the states reached from `KeyMintTa::new`.
-/

namespace KeyMint

variable (env : Env)

/-- What handling a request does: its response, and the TA it leaves, either returned by a
method of `lib.rs` or made by the calls of a method outside it; or a panic, which aborts the TA
with no response. -/
inductive Outcome where
  | internal (rsp : PerformOpResponse) (st : KeyMintTa)
  | external (rsp : PerformOpResponse) (calls : List ExtCall)
  | panic

namespace Outcome

/-- A method of `lib.rs` that changes the TA. -/
def ofMethod {α : Type} (op : KeyMintOperation) (wrap : α → PerformOpRsp)
    (r : Except Error α × KeyMintTa) : Outcome :=
  .internal (respond op wrap r.1) r.2

/-- A method of `lib.rs` that only reads the TA. -/
def ofQuery {α : Type} (st : KeyMintTa) (op : KeyMintOperation) (wrap : α → PerformOpRsp)
    (r : Except Error α) : Outcome :=
  .internal (respond op wrap r) st

/-- A method of `lib.rs` that can panic (`none`). -/
def ofPanicking {α : Type} (op : KeyMintOperation) (wrap : α → PerformOpRsp)
    (r : Option (Except Error α) × KeyMintTa) : Outcome :=
  match r.1 with
  | some res => .internal (respond op wrap res) r.2
  | none => .panic

/-- A method outside `lib.rs`. -/
def ofHandled {α : Type} (op : KeyMintOperation) (wrap : α → PerformOpRsp) (r : Handled α) :
    Outcome :=
  .external (respond op wrap r.1) r.2

end Outcome

open Outcome in
/-- Process a single request: select the method for its variant, and use the request fields as
its parameters; build the response from what the method returns. -/
def handleReq (now : Timestamp) (st : KeyMintTa) : PerformOpReq → Outcome
  -- Internal messages.
  | .setBootInfo verifiedBootKey deviceBootLocked verifiedBootState verifiedBootHash
      bootPatchlevel =>
    match VerifiedBootState.tryFrom verifiedBootState with
    | .error e => .internal (opErrorRsp .setBootInfo (.cbor e)) st
    | .ok verifiedBootState =>
      .internal ⟨.ok, some .setBootInfo⟩ (st.setBootInfo env
        ⟨verifiedBootKey, deviceBootLocked, verifiedBootState, verifiedBootHash, bootPatchlevel⟩)
  | .setHalInfo osVersion osPatchlevel vendorPatchlevel =>
    .internal ⟨.ok, some .setHalInfo⟩ (st.setHalInfo ⟨osVersion, osPatchlevel, vendorPatchlevel⟩)
  | .setAttestationIds ids => .internal ⟨.ok, some .setAttestationIds⟩ (st.setAttestationIds ids)
  -- ISharedSecret messages.
  | .sharedSecretGetSharedSecretParameters =>
    ofHandled .sharedSecretGetSharedSecretParameters .sharedSecretGetSharedSecretParameters
      (env.handlers.getSharedSecretParams st)
  | .sharedSecretComputeSharedSecret params =>
    ofHandled .sharedSecretComputeSharedSecret .sharedSecretComputeSharedSecret
      (env.handlers.computeSharedSecret st params)
  -- ISecureClock messages.
  | .secureClockGenerateTimeStamp challenge =>
    ofHandled .secureClockGenerateTimeStamp .secureClockGenerateTimeStamp
      (env.handlers.generateTimestamp st now challenge)
  -- IKeyMintDevice messages.
  | .deviceGetHardwareInfo =>
    ofQuery st .deviceGetHardwareInfo .deviceGetHardwareInfo (st.getHardwareInfo env)
  | .deviceAddRngEntropy data =>
    ofMethod .deviceAddRngEntropy (fun _ => .deviceAddRngEntropy) (st.addRngEntropy env data)
  | .deviceGenerateKey keyParams attestationKey =>
    ofHandled .deviceGenerateKey .deviceGenerateKey
      (env.handlers.generateKey st keyParams attestationKey)
  | .deviceImportKey keyParams keyFormat keyData attestationKey =>
    ofHandled .deviceImportKey .deviceImportKey
      (env.handlers.importKey st keyParams keyFormat keyData attestationKey)
  | .deviceImportWrappedKey wrappedKeyData wrappingKeyBlob maskingKey unwrappingParams passwordSid
      biometricSid =>
    ofHandled .deviceImportWrappedKey .deviceImportWrappedKey
      (env.handlers.importWrappedKey st wrappedKeyData wrappingKeyBlob maskingKey unwrappingParams
        passwordSid biometricSid)
  | .deviceUpgradeKey keyBlobToUpgrade upgradeParams =>
    ofHandled .deviceUpgradeKey .deviceUpgradeKey
      (env.handlers.upgradeKey st keyBlobToUpgrade upgradeParams)
  | .deviceDeleteKey keyBlob =>
    ofMethod .deviceDeleteKey (fun _ => .deviceDeleteKey) (st.deleteKey env keyBlob)
  | .deviceDeleteAllKeys =>
    ofMethod .deviceDeleteAllKeys (fun _ => .deviceDeleteAllKeys) st.deleteAllKeys
  | .deviceDestroyAttestationIds =>
    ofMethod .deviceDestroyAttestationIds (fun _ => .deviceDestroyAttestationIds)
      st.destroyAttestationIds
  | .deviceBegin purpose keyBlob params authToken =>
    ofHandled .deviceBegin .deviceBegin
      (env.handlers.beginOperation st now purpose keyBlob params authToken)
  | .deviceDeviceLocked passwordOnly timestampToken =>
    ofMethod .deviceDeviceLocked (fun _ => .deviceDeviceLocked)
      (deviceLocked env now st passwordOnly timestampToken)
  | .deviceEarlyBootEnded =>
    ofMethod .deviceEarlyBootEnded (fun _ => .deviceEarlyBootEnded) st.earlyBootEnded
  | .deviceConvertStorageKeyToEphemeral storageKeyBlob =>
    ofQuery st .deviceConvertStorageKeyToEphemeral .deviceConvertStorageKeyToEphemeral
      (st.convertStorageKeyToEphemeral env storageKeyBlob)
  | .deviceGetKeyCharacteristics keyBlob appId appData =>
    ofQuery st .deviceGetKeyCharacteristics .deviceGetKeyCharacteristics
      (st.getKeyCharacteristics env keyBlob appId appData)
  | .getRootOfTrustChallenge =>
    ofMethod .getRootOfTrustChallenge .getRootOfTrustChallenge st.getRootOfTrustChallenge
  | .getRootOfTrust challenge =>
    ofPanicking .getRootOfTrust .getRootOfTrust (st.getRootOfTrust env challenge.toList, st)
  | .sendRootOfTrust rootOfTrust =>
    ofPanicking .sendRootOfTrust (fun _ => .sendRootOfTrust) (st.sendRootOfTrust env rootOfTrust)
  -- IKeyMintOperation messages.
  | .operationUpdateAad opHandle input authToken timestampToken =>
    ofHandled .operationUpdateAad (fun _ => .operationUpdateAad)
      (env.handlers.opUpdateAad st now ⟨opHandle⟩ input authToken timestampToken)
  | .operationUpdate opHandle input authToken timestampToken =>
    ofHandled .operationUpdate .operationUpdate
      (env.handlers.opUpdate st now ⟨opHandle⟩ input authToken timestampToken)
  | .operationFinish opHandle input signature authToken timestampToken confirmationToken =>
    ofHandled .operationFinish .operationFinish
      (env.handlers.opFinish st now ⟨opHandle⟩ input signature authToken timestampToken
        confirmationToken)
  | .operationAbort opHandle =>
    ofHandled .operationAbort (fun _ => .operationAbort) (env.handlers.opAbort st ⟨opHandle⟩)
  -- IRemotelyProvisionedComponentOperation messages.
  | .rpcGetHardwareInfo =>
    ofQuery st .rpcGetHardwareInfo .rpcGetHardwareInfo st.getRpcHardwareInfo
  | .rpcGenerateEcdsaP256KeyPair _ =>
    ofQuery st .rpcGenerateEcdsaP256KeyPair
      (fun (pubkey, ret) => .rpcGenerateEcdsaP256KeyPair pubkey ret) KeyMintTa.generateEcdsaP256Keypair
  | .rpcGenerateCertificateRequest .. =>
    ofMethod .rpcGenerateCertificateRequest
      (fun (deviceInfo, protectedData, ret) =>
        .rpcGenerateCertificateRequest deviceInfo protectedData ret)
      (st.generateCertReq env)
  | .rpcGenerateCertificateV2Request .. =>
    ofQuery st .rpcGenerateCertificateV2Request .rpcGenerateCertificateV2Request
      KeyMintTa.generateCertReqV2

/-- The error that the method `process_req` selects for a request returns, if it fails: the
`Err(e)` arms of `process_req`.  `SetBootInfo` fails only on an unknown boot state, and
`SetHalInfo` and `SetAttestationIds` never fail. -/
def handlerError (now : Timestamp) (st : KeyMintTa) : PerformOpReq → Option Error
  | .setBootInfo _ _ verifiedBootState _ _ =>
    (errOf (VerifiedBootState.tryFrom verifiedBootState)).map .cbor
  | .setHalInfo .. | .setAttestationIds .. => none
  | .sharedSecretGetSharedSecretParameters => errOf (env.handlers.getSharedSecretParams st).1
  | .sharedSecretComputeSharedSecret params => errOf (env.handlers.computeSharedSecret st params).1
  | .secureClockGenerateTimeStamp challenge =>
    errOf (env.handlers.generateTimestamp st now challenge).1
  | .deviceGetHardwareInfo => errOf (st.getHardwareInfo env)
  | .deviceAddRngEntropy data => errOf (st.addRngEntropy env data).1
  | .deviceGenerateKey keyParams attestationKey =>
    errOf (env.handlers.generateKey st keyParams attestationKey).1
  | .deviceImportKey keyParams keyFormat keyData attestationKey =>
    errOf (env.handlers.importKey st keyParams keyFormat keyData attestationKey).1
  | .deviceImportWrappedKey wrappedKeyData wrappingKeyBlob maskingKey unwrappingParams passwordSid
      biometricSid =>
    errOf (env.handlers.importWrappedKey st wrappedKeyData wrappingKeyBlob maskingKey
      unwrappingParams passwordSid biometricSid).1
  | .deviceUpgradeKey keyBlobToUpgrade upgradeParams =>
    errOf (env.handlers.upgradeKey st keyBlobToUpgrade upgradeParams).1
  | .deviceDeleteKey keyBlob => errOf (st.deleteKey env keyBlob).1
  | .deviceDeleteAllKeys => errOf st.deleteAllKeys.1
  | .deviceDestroyAttestationIds => errOf st.destroyAttestationIds.1
  | .deviceBegin purpose keyBlob params authToken =>
    errOf (env.handlers.beginOperation st now purpose keyBlob params authToken).1
  | .deviceDeviceLocked passwordOnly timestampToken =>
    errOf (deviceLocked env now st passwordOnly timestampToken).1
  | .deviceEarlyBootEnded => errOf st.earlyBootEnded.1
  | .deviceConvertStorageKeyToEphemeral storageKeyBlob =>
    errOf (st.convertStorageKeyToEphemeral env storageKeyBlob)
  | .deviceGetKeyCharacteristics keyBlob appId appData =>
    errOf (st.getKeyCharacteristics env keyBlob appId appData)
  | .getRootOfTrustChallenge => errOf st.getRootOfTrustChallenge.1
  | .getRootOfTrust challenge => (st.getRootOfTrust env challenge.toList).bind errOf
  | .sendRootOfTrust rootOfTrust => (st.sendRootOfTrust env rootOfTrust).1.bind errOf
  | .operationUpdateAad opHandle input authToken timestampToken =>
    errOf (env.handlers.opUpdateAad st now ⟨opHandle⟩ input authToken timestampToken).1
  | .operationUpdate opHandle input authToken timestampToken =>
    errOf (env.handlers.opUpdate st now ⟨opHandle⟩ input authToken timestampToken).1
  | .operationFinish opHandle input signature authToken timestampToken confirmationToken =>
    errOf (env.handlers.opFinish st now ⟨opHandle⟩ input signature authToken timestampToken
      confirmationToken).1
  | .operationAbort opHandle => errOf (env.handlers.opAbort st ⟨opHandle⟩).1
  | .rpcGetHardwareInfo => errOf st.getRpcHardwareInfo
  | .rpcGenerateEcdsaP256KeyPair _ => errOf KeyMintTa.generateEcdsaP256Keypair
  | .rpcGenerateCertificateRequest .. => errOf (st.generateCertReq env).1
  | .rpcGenerateCertificateV2Request .. => errOf KeyMintTa.generateCertReqV2

/-- The response of a handled request, if it did not panic. -/
def Outcome.rsp : Outcome → Option PerformOpResponse
  | .internal rsp _ | .external rsp _ => some rsp
  | .panic => none

/-- `process_req`: the response, or none when the TA panicked, and the TA afterwards.  A panic
changes nothing before it aborts, so the model keeps the TA as it was: a run that goes on after
a panic over-approximates the TA, which does not. -/
def processReq (now : Timestamp) (st : KeyMintTa) (req : PerformOpReq) :
    Option PerformOpResponse × KeyMintTa :=
  match handleReq env now st req with
  | .internal rsp st => (some rsp, st)
  | .external rsp calls => (some rsp, st.applyExtCalls env calls)
  | .panic => (none, st)

theorem processReq_fst (now : Timestamp) (st : KeyMintTa) (req : PerformOpReq) :
    (processReq env now st req).1 = (handleReq env now st req).rsp := by
  unfold processReq
  cases handleReq env now st req <;> rfl

variable {env}

theorem Outcome.rsp_ofPanicking {α : Type} (op : KeyMintOperation) (wrap : α → PerformOpRsp)
    (r : Option (Except Error α) × KeyMintTa) :
    (ofPanicking op wrap r).rsp = r.1.map (respond op wrap) := by
  obtain ⟨_ | _, _⟩ := r <;> rfl

/-- `respond_shape` for a response that was given. -/
theorem respond_shape_some {α : Type} {op c : KeyMintOperation} {wrap : α → PerformOpRsp}
    (hwrap : ∀ a, (wrap a).code = c) (r : Except Error α) :
    (∀ rsp x, some (respond op wrap r) = some rsp → rsp.rsp = some x →
      x.code = c ∧ rsp.errorCode = .ok) ∧
      ∀ e, errOf r = some e → some (respond op wrap r) = some ⟨e.code, none⟩ := by
  obtain ⟨h₁, h₂⟩ := @respond_shape _ op c wrap hwrap r
  exact ⟨by rintro _ x ⟨⟩; exact h₁ x, fun e he => by rw [h₂ e he]⟩

theorem respond_shape_panicking {α : Type} {op c : KeyMintOperation} {wrap : α → PerformOpRsp}
    (hwrap : ∀ a, (wrap a).code = c) (r : Option (Except Error α)) :
    (∀ rsp x, r.map (respond op wrap) = some rsp → rsp.rsp = some x →
      x.code = c ∧ rsp.errorCode = .ok) ∧
      ∀ e, r.bind errOf = some e → r.map (respond op wrap) = some ⟨e.code, none⟩ := by
  cases r with
  | none => simp
  | some res => exact respond_shape_some hwrap res

/-- **The response mirrors the request.**  A response that holds a value holds the variant of
the request's operation, with `Ok`; and when the selected method fails, the response is exactly
its error code with no value. -/
theorem processReq_response_shape (now : Timestamp) (st : KeyMintTa) (req : PerformOpReq) :
    (∀ rsp r, (processReq env now st req).1 = some rsp → rsp.rsp = some r →
      r.code = req.code ∧ rsp.errorCode = .ok) ∧
    ∀ e, handlerError env now st req = some e →
      (processReq env now st req).1 = some ⟨e.code, none⟩ := by
  rw [processReq_fst]
  cases req with
  | setBootInfo _ _ verifiedBootState _ _ =>
    simp only [handleReq, handlerError]
    cases VerifiedBootState.tryFrom verifiedBootState with
    | error e =>
      exact ⟨by rintro _ r ⟨⟩ ⟨⟩, by rintro e' ⟨⟩; rfl⟩
    | ok b =>
      exact ⟨by rintro _ r ⟨⟩ ⟨⟩; exact ⟨rfl, rfl⟩, by rintro _ ⟨⟩⟩
  | setHalInfo | setAttestationIds =>
    exact ⟨by rintro _ r ⟨⟩ ⟨⟩; exact ⟨rfl, rfl⟩, by rintro _ ⟨⟩⟩
  | getRootOfTrust | sendRootOfTrust =>
    simp only [handleReq, handlerError, Outcome.rsp_ofPanicking]
    exact respond_shape_panicking (by intro _; rfl) _
  | _ =>
    simp only [handleReq, handlerError, Outcome.ofMethod, Outcome.ofQuery, Outcome.ofHandled,
      Outcome.rsp]
    exact respond_shape_some (by intro _; rfl) _

/-! ## Panics -/

namespace KeyMintTa

variable {st : KeyMintTa}

/-- `get_root_of_trust` never panics: the message it tags always has a payload. -/
theorem getRootOfTrust_ne_none (challenge : Bytes) : st.getRootOfTrust env challenge ≠ none := by
  unfold getRootOfTrust
  split
  · simp
  · split <;> simp [Coset.tryCreateTag, rotMac0]

/-- `send_root_of_trust` panics exactly at a StrongBox, on a message that decodes to a
`COSE_Mac0` without payload. -/
theorem sendRootOfTrust_fst_eq_none (rootOfTrust : Bytes) :
    (st.sendRootOfTrust env rootOfTrust).1 = none ↔
      st.isStrongbox = true ∧ ∃ mac0,
        fromTaggedSlice env.wire.serializer env.coset.mac0 coseMac0Tag rootOfTrust = .ok mac0 ∧
        mac0.payload = none := by
  have hsend : (st.sendRootOfTrust env rootOfTrust).1 = none ↔
      st.receiveRootOfTrust env rootOfTrust = none := by
    unfold sendRootOfTrust
    rcases st.receiveRootOfTrust env rootOfTrust with _ | _ | _ <;> simp
  rw [hsend]
  unfold receiveRootOfTrust
  cases hsb : st.isStrongbox
  · simp
  · rcases fromTaggedSlice env.wire.serializer env.coset.mac0 coseMac0Tag rootOfTrust with
      _ | mac0 <;> simp [mapErrTo, Except.mapError, Coset.verifyTag, Coset.tbm]

end KeyMintTa

/-- **`process_req` panics on one request only.**  It gives no response exactly for a
`SendRootOfTrust` at a StrongBox whose message decodes to a `COSE_Mac0` without payload: the
method hands the message to `verify_tag` before it checks for a payload, and `coset` computes the
`MAC_structure` there by unwrapping the payload. -/
theorem processReq_fst_eq_none (now : Timestamp) (st : KeyMintTa) (req : PerformOpReq) :
    (processReq env now st req).1 = none ↔
      ∃ rootOfTrust mac0, req = .sendRootOfTrust rootOfTrust ∧ st.isStrongbox = true ∧
        fromTaggedSlice env.wire.serializer env.coset.mac0 coseMac0Tag rootOfTrust = .ok mac0 ∧
        mac0.payload = none := by
  rw [processReq_fst]
  cases req with
  | setBootInfo _ _ verifiedBootState _ _ =>
    simp only [handleReq]
    cases VerifiedBootState.tryFrom verifiedBootState <;> simp [Outcome.rsp]
  | getRootOfTrust challenge =>
    simp [handleReq, Outcome.rsp_ofPanicking, st.getRootOfTrust_ne_none]
  | sendRootOfTrust rootOfTrust =>
    simp [handleReq, Outcome.rsp_ofPanicking, st.sendRootOfTrust_fst_eq_none]
  | _ =>
    simp [handleReq, Outcome.ofMethod, Outcome.ofQuery, Outcome.ofHandled, Outcome.rsp]

/-- A StrongBox fresh from `KeyMintTa::new` gives no response to a `SendRootOfTrust` whose message
is a `COSE_Mac0` without payload. -/
theorem processReq_fst_eq_none_payloadless :
    let S := KeyMintTa.new ⟨.strongbox, 1, "", "", "", false⟩ (.v3 "" "" false 0) ⟨fun _ => 0⟩
      none none
    let m := encodeValue (.tag coseMac0Tag (.array [.null, .integer 5, .null, .null, .bytes []]))
    (processReq .reference ⟨0⟩ S (.sendRootOfTrust m)).1 = none :=
  (processReq_fst_eq_none ⟨0⟩ _ _).mpr ⟨_, _, rfl, rfl, rfl, rfl⟩

variable (env)

/-- The slots that `new_secret` filled while a request was processed; only methods outside
`lib.rs` call it. -/
def stepNewSecretSlots (now : Timestamp) (st : KeyMintTa) (req : PerformOpReq) :
    List SecureDeletionSlot :=
  match handleReq env now st req with
  | .internal .. | .panic => []
  | .external _ calls => st.newSecretSlots env calls

/-- Process a single serialized request, returning a serialized response, or none when the TA
panicked. -/
def process (now : Timestamp) (st : KeyMintTa) (reqData : Bytes) : Option Bytes × KeyMintTa :=
  let (rsp, st) :=
    match fromSlice env.wire.serializer env.reqCodec reqData with
    | .ok req => processReq env now st req
    | .error _ => (some (errorRsp .unknownError), st)
  (rsp.map fun rsp =>
    match intoVec env.wire.serializer env.rspCodec rsp with
    | .ok rspData => rspData
    | .error _ => invalidCborRspData, st)

/-! ## Runs -/

/-- A sequence of requests from `st` to `st'`, each processed at some clock reading and allowed
by `P`. -/
inductive Run (P : Timestamp → KeyMintTa → PerformOpReq → Prop) : KeyMintTa → KeyMintTa → Prop
  | refl (st : KeyMintTa) : Run P st st
  | step {st st' : KeyMintTa} (now : Timestamp) (req : PerformOpReq) :
      P now st req → Run P (processReq env now st req).2 st' → Run P st st'

/-- The states of a TA started by `KeyMintTa::new`, after any sequence of requests. -/
inductive Reachable : KeyMintTa → Prop
  | new (hwInfo : HardwareInfo) (rpcInfo : RpcInfo) (rng : Rng) (sddMgr : Option SddManager)
      (attestIds : Option AttestIdsDevice) :
      Reachable (KeyMintTa.new hwInfo rpcInfo rng sddMgr attestIds)
  | step {st : KeyMintTa} (now : Timestamp) (req : PerformOpReq) :
      Reachable st → Reachable (processReq env now st req).2

variable {env}

/-- Any step: no constraint on the requests of a run. -/
def AnyStep : Timestamp → KeyMintTa → PerformOpReq → Prop := fun _ _ _ => True

theorem Reachable.run {st st' : KeyMintTa} (h : Reachable env st) (hrun : Run env AnyStep st st') :
    Reachable env st' := by
  induction hrun with
  | refl => exact h
  | step now req _ _ ih => exact ih (h.step now req)

end KeyMint
