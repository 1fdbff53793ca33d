import KeyMint.Ta.Frame

/-!
# Root-of-trust transfer

`lib.rs` lines 943-1001 and 1036-1054.  A StrongBox instance does not learn the boot state from
the bootloader: it draws a challenge, the TEE instance returns its boot information in a
`COSE_Mac0` tagged under the shared HMAC key with the challenge as external AAD, and the
StrongBox verifies the tag against its challenge and latches the boot information.

- `rot_transfer_agreement`: **the two parties agree**, under any requests at the StrongBox that
  draw no new challenge, given that the serializer reads back what it writes, `coset` reads a
  `COSE_Mac0` back as `Coset.Mac0Decodes` states, and the comparison is byte equality.
- `sendRootOfTrust_latches_without_rotData`: `send_root_of_trust` latches the boot information
  but not the root-of-trust data derived from it, which `set_boot_info` sets with it: a StrongBox
  that received its root of trust still fails `root_of_trust()`.
- `tee_rotData_bound`: on a TEE, where `send_root_of_trust` is refused, the root-of-trust data
  stays bound to the boot information over every run.
- `sendRootOfTrust_keyblobs_unusable`: **a StrongBox that received its root of trust never opens
  a keyblob again in the boot**, since the root-of-trust data it lacks is latched with the boot
  information.
-/

namespace KeyMint

/-! ## 1. The two halves of the transfer -/

namespace KeyMintTa

variable {env : Env}

/-- `get_root_of_trust` reads only the HMAC, the serializer and `coset` of its environment. -/
theorem getRootOfTrust_congr {env' : Env} (hhmac : env.hmac = env'.hmac)
    (hser : env.wire.serializer = env'.wire.serializer) (hcoset : env.coset = env'.coset)
    (T : KeyMintTa) (aad : Bytes) : T.getRootOfTrust env aad = T.getRootOfTrust env' aad := by
  have hdev : T.deviceHmac env = T.deviceHmac env' := by funext data; simp only [deviceHmac, hhmac]
  simp only [getRootOfTrust, rotPayload, hdev, hser, hcoset]

/-- What a successful `get_root_of_trust` did: encode the boot information, tag it with the
challenge as external AAD, and encode the tagged message. -/
theorem getRootOfTrust_eq_ok {T : KeyMintTa} {aad m : Bytes}
    (h : T.getRootOfTrust env aad = some (.ok m)) :
    ∃ payload tag, T.rotPayload env = .ok payload ∧
      T.deviceHmac env (env.coset.macStructureData .coseMac0 (rotMac0 payload).protectedHeader aad
        payload) = .ok tag ∧
      toTaggedVec env.wire.serializer env.coset.mac0 coseMac0Tag { rotMac0 payload with tag } =
        .ok m := by
  unfold getRootOfTrust at h
  split at h
  · cases h
  · split at h
    · cases h
    · rename_i payload hp
      simp only [Coset.tryCreateTag, Coset.tbm_of_payload (rfl : (rotMac0 payload).payload = _),
        Option.map_some', Option.some.injEq, bind_eq_ok, mapErrTo_eq_ok, except_pure_eq,
        Except.ok.injEq] at h
      obtain ⟨_, ⟨tag, ht, rfl⟩, he⟩ := h
      exact ⟨payload, tag, hp, ht, he⟩

theorem getRootOfTrustChallenge_eq_ok {S : KeyMintTa} {c : ByteArr 16}
    (h : S.getRootOfTrustChallenge.1 = .ok c) :
    S.isStrongbox = true ∧ S.getRootOfTrustChallenge.2.rotChallenge = c ∧
      S.getRootOfTrustChallenge.2.hwInfo = S.hwInfo := by
  by_cases hsb : S.isStrongbox <;> simp_all [getRootOfTrustChallenge]

/-- A tag that the StrongBox's own HMAC reproduces verifies, when the comparison is byte
equality. -/
theorem verifyRotTag_of_deviceHmac (hcmp : env.compare.IsByteEq) {S : KeyMintTa} {data tag : Bytes}
    (h : S.deviceHmac env data = .ok tag) : S.verifyRotTag env tag data = .ok () := by
  simp [verifyRotTag, verifyDeviceHmac, h, (hcmp tag tag).mpr rfl]

/-- **The StrongBox reads back what the TEE sent.**  When the StrongBox's challenge is the TEE's
external AAD and both hold the same HMAC key, the StrongBox accepts the TEE's message and decodes
the TEE's boot information from it. -/
theorem receiveRootOfTrust_getRootOfTrust (hcmp : env.compare.IsByteEq)
    (hser : env.wire.serializer.RoundTrips) (hmac0 : env.coset.Mac0Decodes)
    {T S : KeyMintTa} {b : BootInfo} {m : Bytes} (hb : T.bootInfo = some b)
    (hm : T.getRootOfTrust env S.rotChallenge.toList = some (.ok m)) (hsb : S.isStrongbox = true)
    (hkey : T.hmacKey = S.hmacKey) : S.receiveRootOfTrust env m = some (.ok b) := by
  obtain ⟨payload, tag, hp, hdev, henc⟩ := getRootOfTrust_eq_ok hm
  simp only [rotPayload, hb, mapErrTo_eq_ok] at hp
  obtain ⟨v, hv, rfl⟩ := map_eq_ok.mp henc
  -- The StrongBox reads the message back with its protected header refilled, which makes the
  -- same MAC structure.
  obtain ⟨p, hdec, hrefill⟩ := hmac0 _ v rfl hv
  have hdev' : S.deviceHmac env
      (env.coset.macStructureData .coseMac0 p S.rotChallenge.toList payload) = .ok tag := by
    rw [hrefill.2.2, deviceHmac, ← hkey]; exact hdev
  simp [receiveRootOfTrust, hsb, fromTaggedSlice_encode hser, hdec, Coset.verifyTag, rotMac0,
    verifyRotTag_of_deviceHmac hcmp hdev', fromTaggedSlice_toTaggedVec hser bootInfoAsCbor_roundTrips hp]

end KeyMintTa

/-! ## 2. Agreement -/

/-- Under the reference collaborators, a TEE with boot information and an HMAC key answers every
challenge. -/
theorem getRootOfTrust_reference {T : KeyMintTa} {b : BootInfo} {key : Bytes}
    (hsb : T.isStrongbox = false) (hb : T.bootInfo = some b) (hkey : T.hmacKey = some key)
    (aad : Bytes) : ∃ m, T.getRootOfTrust .reference aad = some (.ok m) := by
  simp [KeyMintTa.getRootOfTrust, hsb, KeyMintTa.rotPayload, hb, toTaggedVec, bootInfoAsCbor,
    Coset.tryCreateTag, KeyMintTa.deviceHmac, hkey, Env.reference, Hmac.mac, Hmac.zero,
    CoseMac0.referenceAsCbor, optBytesAsCbor, headerAsCbor, KeyMintTa.rotMac0, Header.ofAlgorithm,
    Except.map]

/-- **A StrongBox latches its boot information without its root-of-trust data.**  A fresh
StrongBox agrees on an HMAC key, draws a challenge, and receives the root of trust of a TEE that
holds boot information `b`: the state it reaches is reachable, holds `b`, and has no
root-of-trust data, so `root_of_trust()` fails in it. -/
theorem sendRootOfTrust_latches_without_rotData (b : BootInfo) :
    let T := (processReq .reference ⟨0⟩ (processReq .reference ⟨0⟩
      (KeyMintTa.new ⟨.trustedEnvironment, 1, "", "", "", false⟩ (.v3 "" "" false 0)
        ⟨fun _ => 0⟩ none none)
      (.setBootInfo b.verifiedBootKey b.deviceBootLocked b.verifiedBootState.toI32
        b.verifiedBootHash b.bootPatchlevel)).2 (.sharedSecretComputeSharedSecret [])).2
    let S₁ := (processReq .reference ⟨0⟩ (processReq .reference ⟨0⟩
      (KeyMintTa.new ⟨.strongbox, 1, "", "", "", false⟩ (.v3 "" "" false 0) ⟨fun _ => 0⟩ none none)
      (.sharedSecretComputeSharedSecret [])).2 .getRootOfTrustChallenge).2
    ∃ m, T.getRootOfTrust .reference S₁.rotChallenge.toList = some (.ok m) ∧
      Reachable .reference (processReq .reference ⟨0⟩ S₁ (.sendRootOfTrust m)).2 ∧
      (processReq .reference ⟨0⟩ S₁ (.sendRootOfTrust m)).2.bootInfo = some b ∧
      (processReq .reference ⟨0⟩ S₁ (.sendRootOfTrust m)).2.rotData = none := by
  intro T S₁
  have hT : T = { KeyMintTa.new ⟨.trustedEnvironment, 1, "", "", "", false⟩ (.v3 "" "" false 0)
      ⟨fun _ => 0⟩ none none with
      bootInfo := some b, rotData := some (KeyMintTa.rotDataOf .reference b), hmacKey := some [] } := by
    simp only [T, processReq, handleReq, VerifiedBootState.tryFrom_toI32]; rfl
  have hTb : T.bootInfo = some b := by rw [hT]
  obtain ⟨m, hm⟩ := getRootOfTrust_reference (by rw [hT]; rfl) hTb (by rw [hT])
    S₁.rotChallenge.toList
  have hrecv := KeyMintTa.receiveRootOfTrust_getRootOfTrust ConstTimeEq.byteEq_isByteEq
    CborSerializer.reference_roundTrips
    (Coset.mac0Decodes_of_roundTrips CoseMac0.referenceAsCbor_roundTrips) hTb hm rfl (by rw [hT]; rfl)
  refine ⟨m, hm, .step _ _ (.step _ _ (.step _ _ (.new ..))), ?_, ?_⟩ <;>
    simp [processReq, handleReq, Outcome.ofPanicking, KeyMintTa.sendRootOfTrust, hrecv] <;> rfl

/-! ## 4. The root-of-trust data of a TEE -/

/-- The root-of-trust data is bound to the boot information: present exactly when it is, and
derived from it as `set_boot_info` derives it. -/
def RotBound (env : Env) (st : KeyMintTa) : Prop :=
  st.rotData = st.bootInfo.map (KeyMintTa.rotDataOf env)

namespace KeyMintTa

variable {env : Env} {st : KeyMintTa}

theorem rotBound_of_eq {st' : KeyMintTa} (hb : RotBound env st)
    (h : (st'.bootInfo, st'.rotData) = (st.bootInfo, st.rotData)) : RotBound env st' := by
  simp only [Prod.mk.injEq] at h
  unfold RotBound; rw [h.1, h.2]; exact hb

theorem rotBound_setBootInfo (hb : RotBound env st) (b : BootInfo) :
    RotBound env (st.setBootInfo env b) := by
  unfold setBootInfo; split
  · rfl
  · exact hb

theorem sendRootOfTrust_of_not_strongbox (h : st.isStrongbox = false) (rootOfTrust : Bytes) :
    (st.sendRootOfTrust env rootOfTrust).2 = st := by
  simp [sendRootOfTrust, receiveRootOfTrust, h]

end KeyMintTa

/-- Every step of a TEE keeps the root-of-trust data bound. -/
theorem StepForm.rotBound {env : Env} {now : Timestamp} {st st' : KeyMintTa} {req : PerformOpReq}
    (h : StepForm env now st req st') (hb : RotBound env st) (htee : st.isStrongbox = false) :
    RotBound env st' := by
  cases h with
  | quiet _ h => exact KeyMintTa.rotBound_of_eq hb (by rw [h.bootInfo, h.rotData])
  | setBootInfo _ b => exact KeyMintTa.rotBound_setBootInfo hb b
  | deleteKey _ kb => exact KeyMintTa.rotBound_of_eq hb (by rw [st.deleteKey_frame kb])
  | deleteAllKeys => exact KeyMintTa.rotBound_of_eq hb (by rw [st.deleteAllKeys_frame])
  | getRootOfTrustChallenge =>
    exact KeyMintTa.rotBound_of_eq hb (by rw [st.getRootOfTrustChallenge_frame])
  | sendRootOfTrust _ r => rw [KeyMintTa.sendRootOfTrust_of_not_strongbox htee]; exact hb
  | external _ _ calls _ =>
    exact KeyMintTa.rotBound_of_eq hb
      (congrArg (fun c => (c.bootInfo, c.rotData)) (@KeyMintTa.core_applyExtCalls env st calls))

theorem Run.rotBound {env : Env} {st st' : KeyMintTa} (h : Run env AnyStep st st')
    (hb : RotBound env st) (htee : st.isStrongbox = false) : RotBound env st' := by
  induction h with
  | refl => exact hb
  | @step s _ now req _ _ ih =>
    have hf : StepForm env now s req _ := processReq_stepForm now s req
    exact ih (hf.rotBound hb htee) (by rw [KeyMintTa.isStrongbox, hf.latches.hwInfo]; exact htee)

/-- **On a TEE the root of trust stays bound.**  In every state a TEE reaches from
`KeyMintTa::new`, the root-of-trust data is present exactly when the boot information is, and is
derived from it; so `root_of_trust()` succeeds as soon as boot information is latched.  Only
`send_root_of_trust`, which runs on a StrongBox alone, breaks the binding. -/
theorem tee_rotData_bound (env : Env) (hwInfo : HardwareInfo)
    (htee : hwInfo.securityLevel ≠ .strongbox) (rpcInfo : RpcInfo) (rng : Rng)
    (sddMgr : Option SddManager) (attestIds : Option AttestIdsDevice) (st : KeyMintTa)
    (hrun : Run env AnyStep (KeyMintTa.new hwInfo rpcInfo rng sddMgr attestIds) st) :
    st.rotData = st.bootInfo.map (KeyMintTa.rotDataOf env) ∧
      ∀ b, st.bootInfo = some b → st.rootOfTrust = .ok (KeyMintTa.rotDataOf env b) := by
  have hb : RotBound env st := hrun.rotBound rfl (by simp [KeyMintTa.isStrongbox, KeyMintTa.new, htee])
  refine ⟨hb, fun b hbi => ?_⟩
  simp [KeyMintTa.rootOfTrust, show st.rotData = _ from hb, hbi]

/-! ## 5. A StrongBox after the transfer -/

/-- Root-of-trust data is only ever present together with boot information. -/
def RotWithBoot (st : KeyMintTa) : Prop := st.rotData.isSome → st.bootInfo.isSome

theorem StepForm.rotWithBoot {env : Env} {now : Timestamp} {st st' : KeyMintTa}
    {req : PerformOpReq} (h : StepForm env now st req st') (hr : RotWithBoot st) :
    RotWithBoot st' := by
  have hl := h.latches
  have grow : st.bootInfo.isSome → st'.bootInfo.isSome := fun hb => by
    obtain ⟨b, hb⟩ := Option.isSome_iff_exists.mp hb
    simp [hl.bootInfo b hb]
  -- Only `set_boot_info` writes the root-of-trust data, and it writes the boot information too.
  suffices hrot : st'.rotData = st.rotData ∨ st'.bootInfo.isSome by
    rcases hrot with hrot | hb
    · exact fun h' => grow (hr (hrot ▸ h'))
    · exact fun _ => hb
  cases h with
  | quiet _ hq => exact .inl hq.rotData
  | setBootInfo _ b =>
    unfold KeyMintTa.setBootInfo
    split
    · exact .inr rfl
    · exact .inl rfl
  | deleteKey _ kb => exact .inl (by rw [st.deleteKey_frame kb])
  | deleteAllKeys => exact .inl (by rw [st.deleteAllKeys_frame])
  | getRootOfTrustChallenge => exact .inl (by rw [st.getRootOfTrustChallenge_frame])
  | sendRootOfTrust _ r => exact .inl (by rw [st.sendRootOfTrust_frame r])
  | external _ _ calls _ => exact .inl (congrArg Core.rotData (st.core_applyExtCalls calls))

theorem Reachable.rotWithBoot {env : Env} {st : KeyMintTa} (h : Reachable env st) :
    RotWithBoot st := by
  induction h with
  | new => intro h; cases h
  | step now req _ ih => exact (processReq_stepForm now _ req).rotWithBoot ih

namespace KeyMintTa

variable {env : Env}

/-- A successful `send_root_of_trust` on a TA without boot information latches the boot
information it received, and nothing else. -/
theorem sendRootOfTrust_of_none {st : KeyMintTa} {rootOfTrust : Bytes} (hnone : st.bootInfo = none)
    (hsend : (st.sendRootOfTrust env rootOfTrust).1 = some (.ok ())) :
    ∃ b, (st.sendRootOfTrust env rootOfTrust).2 = { st with bootInfo := some b } := by
  unfold sendRootOfTrust at hsend ⊢
  rcases h : receiveRootOfTrust env st rootOfTrust with _ | e | b <;> simp only [h] at hsend ⊢
  · cases hsend
  · cases hsend
  · exact ⟨b, by simp [hnone]⟩

/-- Without root-of-trust data, no keyblob opens: one that does not parse is an invalid keyblob,
and the hidden parameters of any other cannot be built. -/
theorem keyblobParseDecrypt_of_rotData_none {st : KeyMintTa} (h : st.rotData = none)
    (keyBlob : Bytes) (params : List KeyParam) :
    ∃ e, st.keyblobParseDecrypt env keyBlob params = .error e ∧
      (e.code = .invalidKeyBlob ∨ e.code = .hardwareNotYetAvailable) := by
  unfold keyblobParseDecrypt EncryptedKeyBlob.new mapErrTo
  cases fromSlice env.wire.serializer (EncryptedKeyBlob.asCbor env.wire env.coset) keyBlob with
  | error e => exact ⟨_, rfl, .inl rfl⟩
  | ok ekb =>
    exact ⟨kmErr .hardwareNotYetAvailable "No root-of-trust info available",
      by simp [Except.mapError, rootOfTrust, h], .inr rfl⟩

end KeyMintTa

/-- **A StrongBox that received its root of trust never opens a keyblob.**  In a reachable state
without boot information, a successful `SendRootOfTrust` latches boot information but no
root-of-trust data.  From then on, in every state of every run, `keyblob_parse_decrypt` fails for
every keyblob and every parameter list: with `InvalidKeyBlob` when the bytes do not parse, and
with `HardwareNotYetAvailable` otherwise.  `SetBootInfo` cannot repair this, as the boot
information is latched. -/
theorem sendRootOfTrust_keyblobs_unusable {env : Env} {st st' : KeyMintTa} {rootOfTrust : Bytes}
    (hreach : Reachable env st) (hnone : st.bootInfo = none)
    (hsend : (st.sendRootOfTrust env rootOfTrust).1 = some (.ok ()))
    (hrun : Run env AnyStep (st.sendRootOfTrust env rootOfTrust).2 st') (keyBlob : Bytes)
    (params : List KeyParam) :
    ∃ e, st'.keyblobParseDecrypt env keyBlob params = .error e ∧
      (e.code = .invalidKeyBlob ∨ e.code = .hardwareNotYetAvailable) := by
  have hrot : st.rotData = none := by
    cases h : st.rotData
    · rfl
    · simpa [hnone] using hreach.rotWithBoot (by simp [h])
  obtain ⟨b, hst₁⟩ := KeyMintTa.sendRootOfTrust_of_none hnone hsend
  rw [hst₁] at hrun
  have hrot' : st'.rotData = none := by rw [hrun.latches.rotData rfl]; exact hrot
  exact KeyMintTa.keyblobParseDecrypt_of_rotData_none hrot' keyBlob params

/-- A fresh StrongBox that agreed on the reference HMAC key and drew a challenge, and a TEE answer
carrying the boot information `b` that it accepts. -/
theorem reference_transfer (b : BootInfo) :
    let S := (processReq .reference ⟨0⟩ (processReq .reference ⟨0⟩
      (KeyMintTa.new ⟨.strongbox, 1, "", "", "", false⟩ (.v3 "" "" false 0) ⟨fun _ => 0⟩ none none)
      (.sharedSecretComputeSharedSecret [])).2 .getRootOfTrustChallenge).2
    ∃ m, Reachable .reference S ∧ S.bootInfo = none ∧
      S.receiveRootOfTrust .reference m = some (.ok b) := by
  intro S
  let T : KeyMintTa := { KeyMintTa.new ⟨.trustedEnvironment, 1, "", "", "", false⟩
    (.v3 "" "" false 0) ⟨fun _ => 0⟩ none none with bootInfo := some b, hmacKey := some [] }
  obtain ⟨m, hm⟩ := @getRootOfTrust_reference T b [] rfl rfl rfl S.rotChallenge.toList
  exact ⟨m, .step _ _ (.step _ _ (.new ..)), rfl,
    KeyMintTa.receiveRootOfTrust_getRootOfTrust ConstTimeEq.byteEq_isByteEq
      CborSerializer.reference_roundTrips
      (Coset.mac0Decodes_of_roundTrips CoseMac0.referenceAsCbor_roundTrips) rfl hm rfl rfl⟩

/-- The reference StrongBox after it received a root of trust opens no keyblob. -/
theorem sendRootOfTrust_keyblobs_unusable_reference :
    let S := (processReq .reference ⟨0⟩ (processReq .reference ⟨0⟩
      (KeyMintTa.new ⟨.strongbox, 1, "", "", "", false⟩ (.v3 "" "" false 0) ⟨fun _ => 0⟩ none none)
      (.sharedSecretComputeSharedSecret [])).2 .getRootOfTrustChallenge).2
    ∃ m, Reachable .reference S ∧ S.bootInfo = none ∧
      (S.sendRootOfTrust .reference m).1 = some (.ok ()) ∧
      ∃ e, (S.sendRootOfTrust .reference m).2.keyblobParseDecrypt .reference [] [] = .error e ∧
        (e.code = .invalidKeyBlob ∨ e.code = .hardwareNotYetAvailable) := by
  intro S
  obtain ⟨m, hreach, hnone, hrecv⟩ :=
    reference_transfer ⟨Mathlib.Vector.replicate 32 0, true, .verified, Mathlib.Vector.replicate 32 0, 0⟩
  have hsend : (S.sendRootOfTrust .reference m).1 = some (.ok ()) := by
    simp [KeyMintTa.sendRootOfTrust, hrecv]
  exact ⟨m, hreach, hnone, hsend,
    sendRootOfTrust_keyblobs_unusable hreach hnone hsend (.refl _) [] []⟩

end KeyMint
