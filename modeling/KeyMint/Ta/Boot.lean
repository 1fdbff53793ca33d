import KeyMint.Ta.Frame

/-!
# Start-of-day state

`lib.rs` lines 405-473 and 853-857: the boot information, HAL information and attestation IDs
are set once after start of day and then latched, and `EarlyBootEnded` ends early boot.

- `latched_state_stays`: **over every run, early boot never restarts and no latched value is
  overwritten**, whatever the requests, and whatever the methods outside `lib.rs` do through
  their calls into the TA.
- `setBootInfo_latches_after_earlyBootEnded`: `set_boot_info` only logs a call after early boot
  and then latches the boot information as during early boot, so the bootloader window does not
  close with `EarlyBootEnded`.
- `attestationIds_after_destroy`: `destroy_attestation_ids` wipes the device's IDs but not the
  TA's cache of them, so **for the rest of the boot `get_attestation_ids` answers exactly what was
  cached before**: the IDs, if they had been fetched, and nothing otherwise.
-/

namespace KeyMint

/-- **Latched start-of-day state.**  Along any run, once early boot has ended it stays ended, and
once the boot information, the HAL information or the attestation IDs hold a value, every later
state holds the same value. -/
theorem latched_state_stays {env : Env} {st st' : KeyMintTa} (h : Run env AnyStep st st') :
    (st.inEarlyBoot = false → st'.inEarlyBoot = false) ∧
    (∀ b, st.bootInfo = some b → st'.bootInfo = some b) ∧
    (∀ h, st.halInfo = some h → st'.halInfo = some h) ∧
    (∀ ids, st.attestationIdInfo = some ids → st'.attestationIdInfo = some ids) :=
  let l := h.latches
  ⟨l.inEarlyBoot, l.bootInfo, l.halInfo, l.attestationIdInfo⟩

/-- A second `SetHalInfo` on a fresh TA. -/
theorem latched_state_stays_setHalInfo :
    let st := (processReq .reference ⟨0⟩ (KeyMintTa.new ⟨.trustedEnvironment, 1, "", "", "", false⟩
      (.v3 "" "" false 0) ⟨fun _ => 0⟩ none none) (.setHalInfo 1 2 3)).2
    let st' := (processReq .reference ⟨0⟩ st (.setHalInfo 4 5 6)).2
    (st.inEarlyBoot = false → st'.inEarlyBoot = false) ∧
    (∀ b, st.bootInfo = some b → st'.bootInfo = some b) ∧
    (∀ h, st.halInfo = some h → st'.halInfo = some h) ∧
    (∀ ids, st.attestationIdInfo = some ids → st'.attestationIdInfo = some ids) :=
  latched_state_stays (.step ⟨0⟩ (.setHalInfo 4 5 6) trivial (.refl _))

/-- `set_boot_info` latches the boot information whenever none is set, in early boot or not. -/
theorem setBootInfo_of_none (env : Env) (st : KeyMintTa) (b : BootInfo) (h : st.bootInfo = none) :
    (st.setBootInfo env b).bootInfo = some b ∧
      (st.setBootInfo env b).rotData = some (KeyMintTa.rotDataOf env b) := by
  simp [KeyMintTa.setBootInfo, h]

/-- **Boot information is accepted after early boot.**  From a fresh TA, `EarlyBootEnded` leaves
a reachable state that is out of early boot with no boot information, and a `SetBootInfo` there
sets both the boot information and the root-of-trust data. -/
theorem setBootInfo_latches_after_earlyBootEnded (env : Env) (now : Timestamp)
    (hwInfo : HardwareInfo) (rpcInfo : RpcInfo) (rng : Rng) (sddMgr : Option SddManager)
    (attestIds : Option AttestIdsDevice) (verifiedBootKey : ByteArr 32) (deviceBootLocked : Bool)
    (verifiedBootState : VerifiedBootState) (verifiedBootHash : ByteArr 32)
    (bootPatchlevel : UInt32) :
    let st₁ := (processReq env now (KeyMintTa.new hwInfo rpcInfo rng sddMgr attestIds)
      .deviceEarlyBootEnded).2
    let b : BootInfo :=
      ⟨verifiedBootKey, deviceBootLocked, verifiedBootState, verifiedBootHash, bootPatchlevel⟩
    let st₂ := (processReq env now st₁ (.setBootInfo verifiedBootKey deviceBootLocked
      verifiedBootState.toI32 verifiedBootHash bootPatchlevel)).2
    Reachable env st₁ ∧ st₁.inEarlyBoot = false ∧ st₁.bootInfo = none ∧ st₁.rotData = none ∧
      st₂.bootInfo = some b ∧ st₂.rotData = some (KeyMintTa.rotDataOf env b) := by
  refine ⟨.step _ _ (.new ..), rfl, rfl, rfl, ?_⟩
  simp only [processReq, handleReq, VerifiedBootState.tryFrom_toI32]
  exact setBootInfo_of_none env _ _ rfl

/-! ## Attestation IDs after `DestroyAttestationIds` -/

/-- The device holds no attestation IDs any more, and the TA's cache holds `ids`. -/
def IdsDestroyed (ids : Option AttestationIdInfo) (st : KeyMintTa) : Prop :=
  st.attestIds = some ⟨none⟩ ∧ st.attestationIdInfo = ids

namespace KeyMintTa

variable {env : Env} {ids : Option AttestationIdInfo} {st : KeyMintTa}

/-- With the device's IDs wiped, fetching them changes nothing: the cache answers, or the device
fails. -/
theorem getAttestationIds_of_destroyed (h : st.attestIds = some ⟨none⟩) :
    st.getAttestationIds = (st.attestationIdInfo, st) := by
  unfold getAttestationIds
  split <;> simp_all [AttestIdsDevice.get]

theorem idsDestroyed_applyExtCall (h : IdsDestroyed ids st) (call : ExtCall) :
    IdsDestroyed ids (st.applyExtCall env call) := by
  cases call with
  | newSecret => rw [applyExtCall, sddNewSecret_frame]; exact h
  | deleteSecret slot => rw [applyExtCall, sddDeleteSecret_frame]; exact h
  | getAttestationIds => rw [applyExtCall, getAttestationIds_of_destroyed h.1]; exact h
  | _ => exact h

theorem idsDestroyed_applyExtCalls (h : IdsDestroyed ids st) (calls : List ExtCall) :
    IdsDestroyed ids (st.applyExtCalls env calls) := by
  induction calls generalizing st with
  | nil => exact h
  | cons call calls ih => exact ih (idsDestroyed_applyExtCall h call)

end KeyMintTa

open KeyMintTa in
/-- **One request keeps the IDs destroyed and the cache as it is**: `SetAttestationIds` is refused
on a device that provides IDs, the device has none left to fetch, and a second
`DestroyAttestationIds` wipes nothing more. -/
theorem IdsDestroyed.processReq {env : Env} {ids : Option AttestationIdInfo} {st : KeyMintTa}
    (h : IdsDestroyed ids st) (now : Timestamp) (req : PerformOpReq) :
    IdsDestroyed ids (processReq env now st req).2 := by
  cases req
  case getRootOfTrust challenge =>
    rw [processReq_snd_ofPanicking now st (.getRootOfTrust challenge) (by rfl) fun _ => rfl]
    exact h
  case sendRootOfTrust rootOfTrust =>
    rw [processReq_snd_ofPanicking now st (.sendRootOfTrust rootOfTrust) (by rfl)
      st.sendRootOfTrust_snd_of_fst_eq_none, sendRootOfTrust_frame]
    exact h
  all_goals simp only [KeyMint.processReq, handleReq, Outcome.ofMethod, Outcome.ofQuery,
    Outcome.ofHandled]
  case setBootInfo _ _ s _ _ =>
    cases VerifiedBootState.tryFrom s
    · exact h
    · dsimp only; rw [setBootInfo_frame]; exact h
  case setHalInfo => rw [setHalInfo_frame]; exact h
  case setAttestationIds => simp only [setAttestationIds, h.1, Option.isSome_some, if_true]; exact h
  case deviceAddRngEntropy => rw [addRngEntropy_frame]; exact h
  case deviceDeleteKey => rw [deleteKey_frame]; exact h
  case deviceDeleteAllKeys => rw [deleteAllKeys_frame]; exact h
  case deviceDestroyAttestationIds => simp only [destroyAttestationIds, h.1]; exact ⟨rfl, h.2⟩
  case deviceDeviceLocked => rw [deviceLocked_frame]; exact h
  case getRootOfTrustChallenge => rw [getRootOfTrustChallenge_frame]; exact h
  case rpcGenerateCertificateRequest =>
    rw [generateCertReq_snd, getAttestationIds_of_destroyed h.1]; exact h
  all_goals first | exact h | exact idsDestroyed_applyExtCalls h _

theorem IdsDestroyed.run {env : Env} {P : Timestamp → KeyMintTa → PerformOpReq → Prop}
    {ids : Option AttestationIdInfo} {st st' : KeyMintTa} (h : IdsDestroyed ids st)
    (hrun : Run env P st st') : IdsDestroyed ids st' := by
  induction hrun with
  | refl => exact h
  | step now req _ _ ih => exact ih (h.processReq now req)

/-- **Destroyed attestation IDs stay as they were cached.**  After a `DestroyAttestationIds` that
reaches the device's ID store, in every state of every later run the TA's cache is what it was
before, and `get_attestation_ids` returns it: IDs fetched before the destruction are still
served, and IDs never fetched are never available again. -/
theorem attestationIds_after_destroy (env : Env) {st st' : KeyMintTa} (hdev : st.attestIds.isSome)
    (hrun : Run env AnyStep st.destroyAttestationIds.2 st') :
    st'.attestationIdInfo = st.attestationIdInfo ∧ st'.getAttestationIds.1 = st.attestationIdInfo := by
  have h₀ : IdsDestroyed st.attestationIdInfo st.destroyAttestationIds.2 := by
    obtain ⟨d, hd⟩ := Option.isSome_iff_exists.mp hdev
    simp only [KeyMintTa.destroyAttestationIds, hd]
    exact ⟨rfl, rfl⟩
  have h := h₀.run hrun
  exact ⟨h.2, by rw [KeyMintTa.getAttestationIds_of_destroyed h.1, h.2]⟩

/-- IDs cached by a `GenerateCertificateRequest` survive the destruction of the device's store. -/
theorem attestationIds_after_destroy_cached :
    let ids : AttestationIdInfo := ⟨[1], [], [], [], []⟩
    let st := (processReq .reference ⟨0⟩ (KeyMintTa.new ⟨.trustedEnvironment, 1, "", "", "", false⟩
      (.v3 "" "" false 0) ⟨fun _ => 0⟩ none (some ⟨some ids⟩))
      (.rpcGenerateCertificateRequest false [] [] [])).2
    st.attestationIdInfo = some ids ∧ st.attestIds.isSome ∧
      (st.destroyAttestationIds.2.attestationIdInfo = st.attestationIdInfo ∧
        st.destroyAttestationIds.2.getAttestationIds.1 = st.attestationIdInfo) :=
  ⟨rfl, rfl, attestationIds_after_destroy .reference rfl (.refl _)⟩

end KeyMint
