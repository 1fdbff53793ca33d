import KeyMint.Ta.RootOfTrust

/-!
# Inputs authenticated under the HMAC key

Two requests carry data that the TA accepts only under the HMAC key agreed with the other KeyMint
instances (`hmac_key`): `DeviceLocked` on a device without a secure clock takes the lock time
from a `TimeStampToken`, and `SendRootOfTrust` takes the boot information from a `COSE_Mac0`.
When the comparison is byte equality, a success means the MAC the TA recomputed is the one it
received.

- `deviceLocked_authenticated`: **a lock is recorded at the clock's reading, or at the time of a
  token whose MAC is the HMAC of its MAC input under the TA's key**.
- `sendRootOfTrust_authenticated`: **a StrongBox latches boot information only from a message
  whose tag is the HMAC of its `MAC_structure` over the challenge it issued**.
-/

namespace KeyMint

variable {env : Env}

namespace KeyMintTa

/-- A verification that succeeds recomputed the received MAC under the TA's HMAC key. -/
theorem verifyDeviceHmac_eq_ok_true (hcmp : env.compare.IsByteEq) {st : KeyMintTa}
    {data mac : Bytes} (h : st.verifyDeviceHmac env data mac = .ok true) :
    ∃ key, st.hmacKey = some key ∧ env.hmac.mac key .sha256 data = .ok mac := by
  simp only [verifyDeviceHmac, bind_eq_ok, except_pure_eq, Except.ok.injEq] at h
  obtain ⟨remac, hremac, heq⟩ := h
  obtain rfl := (hcmp mac remac).mp heq
  unfold deviceHmac at hremac
  split at hremac
  · exact ⟨_, ‹_›, hremac⟩
  · cases hremac

theorem verifyRotTag_eq_ok {st : KeyMintTa} {tag data : Bytes}
    (h : st.verifyRotTag env tag data = .ok ()) : st.verifyDeviceHmac env data tag = .ok true := by
  unfold verifyRotTag at h
  split at h <;> first | assumption | cases h

/-- What a successful `receive` of a root of trust did: on a StrongBox, decode the `COSE_Mac0`,
check its tag under the HMAC key against the current challenge, and decode the boot information
of its payload. -/
theorem receiveRootOfTrust_eq_ok (hcmp : env.compare.IsByteEq) {st : KeyMintTa}
    {rootOfTrust : Bytes} {b : BootInfo}
    (h : st.receiveRootOfTrust env rootOfTrust = some (.ok b)) :
    st.isStrongbox = true ∧ ∃ mac0 payload key,
      fromTaggedSlice env.wire.serializer env.coset.mac0 coseMac0Tag rootOfTrust = .ok mac0 ∧
      st.hmacKey = some key ∧ mac0.payload = some payload ∧
      env.hmac.mac key .sha256 (env.coset.macStructureData .coseMac0 mac0.protectedHeader
        st.rotChallenge.toList payload) = .ok mac0.tag ∧
      fromTaggedSlice env.wire.serializer bootInfoAsCbor bootInfoTag payload = .ok b := by
  unfold receiveRootOfTrust at h
  split at h
  · cases h
  · rename_i hsb
    split at h
    · cases h
    · rename_i mac0 hmac0
      -- A message without payload panics in `verify_tag`, so it has one.
      rcases hp : mac0.payload with _ | payload
      · simp [Coset.verifyTag, Coset.tbm, hp] at h
      · simp only [Coset.verifyTag, Coset.tbm_of_payload hp, Option.map_some', Option.some.injEq,
          bind_eq_ok, hp, ok_bind, mapErrTo_eq_ok] at h
        obtain ⟨_, hv, hrest⟩ := h
        obtain ⟨key, hkey, hmac⟩ := verifyDeviceHmac_eq_ok_true hcmp (verifyRotTag_eq_ok hv)
        exact ⟨by simpa using hsb, mac0, payload, key, mapErrTo_eq_ok.mp hmac0, hkey, hp, hmac,
          hrest⟩

end KeyMintTa

/-- The time `device_locked` records: the clock's reading, or the timestamp of a token whose MAC
verifies. -/
theorem lockTime_eq_ok (hcmp : env.compare.IsByteEq) {now t : Timestamp} {st : KeyMintTa}
    {token : Option TimeStampToken} (h : lockTime env now st token = .ok t) :
    (env.clock = true ∧ t = now) ∨
    (env.clock = false ∧ ∃ tok macInput key, token = some tok ∧ t = tok.timestamp ∧
      env.timestampTokenMacInput tok = .ok macInput ∧ st.hmacKey = some key ∧
      env.hmac.mac key .sha256 macInput = .ok tok.mac) := by
  unfold lockTime at h
  cases hc : env.clock
  · rcases token with _ | tok <;> simp only [hc, Bool.false_eq_true, if_false] at h
    · cases h
    · simp only [bind_eq_ok] at h
      obtain ⟨macInput, hmi, ok, hv, hrest⟩ := h
      cases ok
      · cases hrest
      · obtain ⟨key, hkey, hmac⟩ := KeyMintTa.verifyDeviceHmac_eq_ok_true hcmp hv
        cases hrest
        exact .inr ⟨rfl, tok, macInput, key, rfl, rfl, hmi, hkey, hmac⟩
  · simp only [hc, if_true, Except.ok.injEq] at h
    exact .inl ⟨rfl, h.symm⟩

/-- **Lock times are authenticated.**  When `DeviceLocked` succeeds, the TA changed only its lock
state, to a lock since a time `t`: the secure clock's reading on a device with a clock, and
otherwise the timestamp of the request's token, whose MAC is the HMAC-SHA256 of the token's MAC
input under the TA's agreed HMAC key.  So a device without a clock and without an agreed key
never records a lock. -/
theorem deviceLocked_authenticated (hcmp : env.compare.IsByteEq) (now : Timestamp)
    (st : KeyMintTa) (passwordOnly : Bool) (token : Option TimeStampToken) {st' : KeyMintTa}
    (h : deviceLocked env now st passwordOnly token = (.ok (), st')) :
    ∃ t, st' = { st with deviceLocked :=
        if passwordOnly then .passwordLockedSince t else .lockedSince t } ∧
      ((env.clock = true ∧ t = now) ∨
       (env.clock = false ∧ ∃ tok macInput key, token = some tok ∧ t = tok.timestamp ∧
        env.timestampTokenMacInput tok = .ok macInput ∧ st.hmacKey = some key ∧
        env.hmac.mac key .sha256 macInput = .ok tok.mac)) := by
  unfold deviceLocked at h
  split at h
  · rename_i t ht
    exact ⟨t, (Prod.mk.inj h).2.symm, lockTime_eq_ok hcmp ht⟩
  · cases (Prod.mk.inj h).1

/-- A device without a secure clock, with the reference HMAC and the empty agreed key, records a
lock at the time of a token whose MAC is that HMAC. -/
theorem deviceLocked_authenticated_token :
    let env : Env := { Env.reference with clock := false }
    let st : KeyMintTa := { KeyMintTa.new ⟨.trustedEnvironment, 1, "", "", "", false⟩
      (.v3 "" "" false 0) ⟨fun _ => 0⟩ none none with hmacKey := some [] }
    let tok : TimeStampToken := ⟨0, ⟨9⟩, List.replicate 32 0⟩
    deviceLocked env ⟨7⟩ st false (some tok) = (.ok (), { st with deviceLocked := .lockedSince ⟨9⟩ }) ∧
      ∃ t, { st with deviceLocked := .lockedSince ⟨9⟩ } =
          { st with deviceLocked := if false then .passwordLockedSince t else .lockedSince t } ∧
        ((env.clock = true ∧ t = ⟨7⟩) ∨
         (env.clock = false ∧ ∃ tok' macInput key, some tok = some tok' ∧ t = tok'.timestamp ∧
          env.timestampTokenMacInput tok' = .ok macInput ∧ st.hmacKey = some key ∧
          env.hmac.mac key .sha256 macInput = .ok tok'.mac)) := by
  intro env st tok
  have h : deviceLocked env ⟨7⟩ st false (some tok) =
      (.ok (), { st with deviceLocked := .lockedSince ⟨9⟩ }) := rfl
  exact ⟨h, deviceLocked_authenticated ConstTimeEq.byteEq_isByteEq _ _ _ _ h⟩

/-- **Root-of-trust messages are authenticated.**  When `SendRootOfTrust` succeeds, the TA is a
StrongBox, the message decodes to a `COSE_Mac0` whose tag is the HMAC-SHA256, under the TA's
agreed HMAC key, of its `MAC_structure` with the TA's current challenge as external AAD, and the
boot information decoded from its payload is latched unless some was already. -/
theorem sendRootOfTrust_authenticated (hcmp : env.compare.IsByteEq) (st : KeyMintTa)
    (rootOfTrust : Bytes) {st' : KeyMintTa}
    (h : st.sendRootOfTrust env rootOfTrust = (some (.ok ()), st')) :
    st.isStrongbox = true ∧ ∃ mac0 payload b key,
      fromTaggedSlice env.wire.serializer env.coset.mac0 coseMac0Tag rootOfTrust = .ok mac0 ∧
      st.hmacKey = some key ∧ mac0.payload = some payload ∧
      env.hmac.mac key .sha256 (env.coset.macStructureData .coseMac0 mac0.protectedHeader
        st.rotChallenge.toList payload) = .ok mac0.tag ∧
      fromTaggedSlice env.wire.serializer bootInfoAsCbor bootInfoTag payload = .ok b ∧
      st' = if st.bootInfo.isNone then { st with bootInfo := some b } else st := by
  unfold KeyMintTa.sendRootOfTrust at h
  rcases hr : st.receiveRootOfTrust env rootOfTrust with _ | e | b <;> simp only [hr] at h
  · cases (Prod.mk.inj h).1
  · cases (Prod.mk.inj h).1
  · obtain ⟨hsb, mac0, payload, key, hmac0, hkey, hpayload, hmac, hb⟩ :=
      KeyMintTa.receiveRootOfTrust_eq_ok hcmp hr
    exact ⟨hsb, mac0, payload, b, key, hmac0, hkey, hpayload, hmac, hb, (Prod.mk.inj h).2.symm⟩

/-- The reference StrongBox accepts the answer of the reference TEE to its challenge. -/
theorem sendRootOfTrust_authenticated_reference :
    let S := (processReq .reference ⟨0⟩ (processReq .reference ⟨0⟩
      (KeyMintTa.new ⟨.strongbox, 1, "", "", "", false⟩ (.v3 "" "" false 0) ⟨fun _ => 0⟩ none none)
      (.sharedSecretComputeSharedSecret [])).2 .getRootOfTrustChallenge).2
    ∃ m S', S.sendRootOfTrust .reference m = (some (.ok ()), S') ∧
      S.isStrongbox = true ∧ ∃ mac0 payload b key,
        fromTaggedSlice Env.reference.wire.serializer Env.reference.coset.mac0 coseMac0Tag m =
          .ok mac0 ∧
        S.hmacKey = some key ∧ mac0.payload = some payload ∧
        Env.reference.hmac.mac key .sha256 (Env.reference.coset.macStructureData .coseMac0
          mac0.protectedHeader S.rotChallenge.toList payload) = .ok mac0.tag ∧
        fromTaggedSlice Env.reference.wire.serializer bootInfoAsCbor bootInfoTag payload = .ok b ∧
        S' = if S.bootInfo.isNone then { S with bootInfo := some b } else S := by
  intro S
  let b : BootInfo :=
    ⟨Mathlib.Vector.replicate 32 0, true, .verified, Mathlib.Vector.replicate 32 0, 0⟩
  obtain ⟨m, -, -, hrecv⟩ := reference_transfer b
  have h : S.sendRootOfTrust .reference m =
      (some (.ok ()), if S.bootInfo.isNone then { S with bootInfo := some b } else S) := by
    unfold KeyMintTa.sendRootOfTrust; rw [hrecv]
  exact ⟨m, _, h, sendRootOfTrust_authenticated ConstTimeEq.byteEq_isByteEq S m h⟩

end KeyMint
