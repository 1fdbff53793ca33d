import KeyMint.Ta.Env

/-!
# The methods of `KeyMintTa` in `lib.rs`

Each method that changes the TA takes the TA and returns it with its result; a method on `&self`
returns its result only.  `RefCell` fields (`device_locked`, `attestation_id_info`) are written
like the others.  Logging is left out.

The calls that methods outside `lib.rs` make into the TA (`ExtCall`) are run here too, through the
same functions: `applyExtCalls`.
-/

namespace KeyMint

variable (env : Env)

namespace KeyMintTa

/-! ## 1. Start-of-day configuration -/

/-- The bytes `set_boot_info` stores when the root of trust fails to encode. -/
def rotEncodeFailure : Bytes := "Internal error! Failed to encode root-of-trust".toUTF8.toList

/-- The root-of-trust data bound into keyblobs for the given boot information. -/
def rotDataOf (bootInfo : BootInfo) : Bytes :=
  match intoVec env.wire.serializer rootOfTrustInfoAsCbor bootInfo.rootOfTrustInfo with
  | .ok data => data
  | .error _ => rotEncodeFailure

/-- Configure the boot-specific root of trust info.  A call after early boot is logged as an
error, and then handled as one during early boot. -/
def setBootInfo (st : KeyMintTa) (bootInfo : BootInfo) : KeyMintTa :=
  if st.bootInfo.isNone then
    { st with bootInfo := some bootInfo, rotData := some (rotDataOf env bootInfo) }
  else st

/-- Configure the HAL-derived information, learnt from the userspace operating system. -/
def setHalInfo (st : KeyMintTa) (halInfo : HalInfo) : KeyMintTa :=
  if st.halInfo.isNone then { st with halInfo := some halInfo } else st

/-- Configure attestation IDs externally: refused when the device provides them, or when they are
already set. -/
def setAttestationIds (st : KeyMintTa) (ids : AttestationIdInfo) : KeyMintTa :=
  if st.attestIds.isSome then st
  else if st.attestationIdInfo.isSome then st
  else { st with attestationIdInfo := some ids }

/-- Retrieve the attestation ID information for the device, if available, fetching it from the
device on first use. -/
def getAttestationIds (st : KeyMintTa) : Option AttestationIdInfo × KeyMintTa :=
  let st :=
    if st.attestationIdInfo.isNone then
      match st.attestIds with
      | some getIdsImpl =>
        match getIdsImpl.get with
        | .ok ids => { st with attestationIdInfo := some ids }
        | .error _ => st
      | none => st
    else st
  (st.attestationIdInfo, st)

def earlyBootEnded (st : KeyMintTa) : Except Error Unit × KeyMintTa :=
  (.ok (), { st with inEarlyBoot := false })

/-! ## 2. Device requests handled in `lib.rs` -/

def addRngEntropy (st : KeyMintTa) (data : Bytes) : Except Error Unit × KeyMintTa :=
  if data.length > 2048 then
    (.error (kmErr .invalidInputLength ("entropy size " ++ toString data.length ++ " too large")), st)
  else (.ok (), { st with rng := env.addEntropy st.rng data })

/-- Generate an HMAC-SHA256 value over the data using the device's HMAC key (if available). -/
def deviceHmac (st : KeyMintTa) (data : Bytes) : Except Error Bytes :=
  match st.hmacKey with
  | some hmacKey => env.hmac.mac hmacKey .sha256 data
  | none => .error (kmErr .hardwareNotYetAvailable "HMAC key not agreed")

/-- Verify an HMAC-SHA256 value over the data using the device's HMAC key (if available). -/
def verifyDeviceHmac (st : KeyMintTa) (data mac : Bytes) : Except Error Bool := do
  let remac ← deviceHmac env st data
  pure (env.compare.eq mac remac)

def getHardwareInfo (st : KeyMintTa) : Except Error KeyMintHardwareInfo :=
  .ok ⟨st.hwInfo.versionNumber, st.hwInfo.securityLevel, st.hwInfo.implName, st.hwInfo.authorName,
    !env.clock⟩

/-- `delete_secret` on the device's secure-deletion manager, whose failure is logged. -/
def sddDeleteSecret (st : KeyMintTa) (slot : SecureDeletionSlot) : KeyMintTa :=
  match st.sddMgr with
  | some sddMgr =>
    match sddMgr.deleteSecret slot with
    | .ok sddMgr => { st with sddMgr := some sddMgr }
    | .error _ => st
  | none => st

/-- `new_secret` on the device's secure-deletion manager: the slot it filled, if it succeeded. -/
def sddNewSecret (st : KeyMintTa) : Option SecureDeletionSlot × KeyMintTa :=
  match st.sddMgr with
  | some sddMgr =>
    match newSecret env.alloc sddMgr st.rng with
    | .ok ((slot, _), sddMgr, rng) => (some slot, { st with sddMgr := some sddMgr, rng })
    | .error _ => (none, st)
  | none => (none, st)

end KeyMintTa

/-- The time at which `device_locked` records the lock: the secure clock's reading, or the
timestamp of a token whose MAC verifies. -/
def lockTime (now : Timestamp) (st : KeyMintTa) (timestampToken : Option TimeStampToken) :
    Except Error Timestamp :=
  if env.clock then .ok now
  else match timestampToken with
    | some token => do
      let macInput ← env.timestampTokenMacInput token
      if !(← st.verifyDeviceHmac env macInput token.mac) then
        .error (kmErr .invalidArgument "timestamp MAC not verified")
      else pure token.timestamp
    | none => .error (kmErr .invalidArgument "no clock and no external timestamp provided!")

/-- `KeyMintTa::device_locked` (outside the namespace, whose `deviceLocked` is the field). -/
def deviceLocked (now : Timestamp) (st : KeyMintTa) (passwordOnly : Bool)
    (timestampToken : Option TimeStampToken) : Except Error Unit × KeyMintTa :=
  match lockTime env now st timestampToken with
  | .ok now =>
    (.ok (), { st with deviceLocked :=
      if passwordOnly then .passwordLockedSince now else .lockedSince now })
  | .error e => (.error e, st)

namespace KeyMintTa

/-- Delete the secure-deletion secret of a keyblob that parses; the keyblob is not decrypted, so
its slot is trusted. -/
def deleteKey (st : KeyMintTa) (keyblob : Bytes) : Except Error Unit × KeyMintTa :=
  match EncryptedKeyBlob.new env.wire env.coset keyblob with
  | .ok (.v1 encryptedKeyblob) =>
    match encryptedKeyblob.secureDeletionSlot with
    | some slot => (.ok (), sddDeleteSecret st slot)
    | none => (.ok (), st)
  | .error _ => (.ok (), st)

def deleteAllKeys (st : KeyMintTa) : Except Error Unit × KeyMintTa :=
  match st.sddMgr with
  | some sddMgr => (.ok (), { st with sddMgr := some sddMgr.deleteAll })
  | none => (.ok (), st)

def destroyAttestationIds (st : KeyMintTa) : Except Error Unit × KeyMintTa :=
  match st.attestIds with
  | some attestIds => (.ok (), { st with attestIds := some attestIds.destroyAll })
  | none => (.error (kmErr .unimplemented "no attestation ID functionality available"), st)

/-! ## 3. Root-of-trust transfer -/

def getRootOfTrustChallenge (st : KeyMintTa) : Except Error (ByteArr 16) × KeyMintTa :=
  if !st.isStrongbox then
    (.error (kmErr .unimplemented "root-of-trust challenge only for StrongBox"), st)
  else
    let (challenge, rng) := st.rng.fillBytes 16
    (.ok challenge, { st with rotChallenge := challenge, rng })

/-- The `COSE_Mac0` that `get_root_of_trust` builds before it is tagged: the HMAC algorithm in
the protected header, and the payload. -/
def rotMac0 (payload : Bytes) : CoseMac0 :=
  ⟨⟨none, .ofAlgorithm .hmac256256⟩, ⟨none⟩, some payload, []⟩

/-- The payload of `get_root_of_trust`: the tagged encoding of the boot information. -/
def rotPayload (st : KeyMintTa) : Except Error Bytes :=
  match st.bootInfo with
  | some info => mapErrTo (kmErr .unknownError "Failed to CBOR-encode RootOfTrust")
      (toTaggedVec env.wire.serializer bootInfoAsCbor bootInfoTag info)
  | none => .error (kmErr .hardwareNotYetAvailable "root-of-trust unavailable")

/-- `get_root_of_trust`; `none` is a panic of `try_create_tag`, which needs the payload that
`rotMac0` always sets. -/
def getRootOfTrust (st : KeyMintTa) (challenge : Bytes) : Option (Except Error Bytes) :=
  if st.isStrongbox then
    some (.error (kmErr .unimplemented "root-of-trust retrieval not for StrongBox"))
  else
    match rotPayload env st with
    | .error e => some (.error e)
    | .ok payload =>
      (env.coset.tryCreateTag (rotMac0 payload) challenge (deviceHmac env st)).map fun mac0 => do
        mapErrTo (kmErr .unknownError "Failed to CBOR-encode RootOfTrust")
          (toTaggedVec env.wire.serializer env.coset.mac0 coseMac0Tag (← mac0))

/-- The check of a received tag that `send_root_of_trust` hands to `verify_tag`. -/
def verifyRotTag (st : KeyMintTa) (tag data : Bytes) : Except Error Unit :=
  match verifyDeviceHmac env st data tag with
  | .ok true => .ok ()
  | .ok false => .error (kmErr .verificationFailed "HMAC verification of RootOfTrust failed")
  | .error e => .error e

/-- What `send_root_of_trust` does before it latches: check the role, decode the `COSE_Mac0`,
verify its tag against the challenge, and decode the boot information it carries.  The tag is
verified before the payload is checked, so a message without payload makes `verify_tag` panic
(`none`): the check for a missing payload is never reached. -/
def receiveRootOfTrust (st : KeyMintTa) (rootOfTrust : Bytes) : Option (Except Error BootInfo) :=
  if !st.isStrongbox then
    some (.error (kmErr .unimplemented "root-of-trust delivery only for StrongBox"))
  else
    match mapErrTo (kmErr .invalidArgument "Failed to CBOR-decode CoseMac0")
        (fromTaggedSlice env.wire.serializer env.coset.mac0 coseMac0Tag rootOfTrust) with
    | .error e => some (.error e)
    | .ok mac0 =>
      (env.coset.verifyTag mac0 st.rotChallenge.toList (verifyRotTag env st)).map fun verified => do
        verified
        let payload ← match mac0.payload with
          | some payload => .ok payload
          | none => .error (kmErr .invalidArgument "Missing payload in CoseMac0")
        mapErrTo (kmErr .invalidArgument "Failed to CBOR-decode RootOfTrust")
          (fromTaggedSlice env.wire.serializer bootInfoAsCbor bootInfoTag payload)

/-- `send_root_of_trust`; a panic (`none`) leaves the TA as it was when it aborted. -/
def sendRootOfTrust (st : KeyMintTa) (rootOfTrust : Bytes) : Option (Except Error Unit) × KeyMintTa :=
  match receiveRootOfTrust env st rootOfTrust with
  | some (.ok bootInfo) =>
    (some (.ok ()), if st.bootInfo.isNone then { st with bootInfo := some bootInfo } else st)
  | some (.error e) => (some (.error e), st)
  | none => (none, st)

/-! ## 4. Keyblobs -/

/-- One check of the version loop of `keyblob_decrypt`: a keyblob's value against the current
one. -/
def checkVersion (v curr : UInt32) (name : String) : Except Error Unit :=
  if v < curr then
    .error (kmErr .keyRequiresUpgrade
      ("keyblob with old " ++ name ++ " " ++ toString v ++ " needs upgrade to current " ++
        toString curr))
  else if v = curr then .ok ()
  else
    .error (kmErr .invalidKeyBlob
      ("keyblob with future " ++ name ++ " " ++ toString v ++ " (current " ++ toString curr ++ ")"))

/-- The version loop of `keyblob_decrypt` on one parameter; a version that is not known yet is
logged and not checked. -/
def checkVersionParam (st : KeyMintTa) : KeyParam → Except Error Unit
  | .osVersion v =>
    match st.halInfo with
    | some halInfo =>
      if halInfo.osVersion = 0 then
        -- Special case: upgrades to OS version zero are always allowed.
        if v ≠ 0 then
          .error (kmErr .keyRequiresUpgrade
            ("keyblob with OS version " ++ toString v ++ " needs upgrade to current version 0"))
        else .ok ()
      else checkVersion v halInfo.osVersion "OS version"
    | none => .ok ()
  | .osPatchlevel v =>
    match st.halInfo with
    | some halInfo => checkVersion v halInfo.osPatchlevel "OS patchlevel"
    | none => .ok ()
  | .vendorPatchlevel v =>
    match st.halInfo with
    | some halInfo => checkVersion v halInfo.vendorPatchlevel "vendor patchlevel"
    | none => .ok ()
  | .bootPatchlevel v =>
    match st.bootInfo with
    | some bootInfo => checkVersion v bootInfo.bootPatchlevel "boot patchlevel"
    | none => .ok ()
  | _ => .ok ()

/-- The version loop of `keyblob_decrypt`, which stops at the first failing parameter. -/
def checkVersions (st : KeyMintTa) : List KeyParam → Except Error Unit
  | [] => .ok ()
  | param :: params => do
    checkVersionParam st param
    checkVersions st params

/-- Decrypt an encrypted key blob, and check its versions against the current ones. -/
def keyblobDecrypt (st : KeyMintTa) (encryptedKeyblob : EncryptedKeyBlob) (hidden : List KeyParam) :
    Except Error PlaintextKeyBlob := do
  let rootKek ← env.rootKek (env.kekContext encryptedKeyblob)
  let keyblob ← decrypt env.wire env.coset st.sddMgr env.aes env.hmac rootKek encryptedKeyblob
    hidden
  let keyChars ← characteristicsAt keyblob.characteristics st.hwInfo.securityLevel
  checkVersions st keyChars
  pure keyblob

/-- Parse and decrypt an encrypted key blob. -/
def keyblobParseDecrypt (st : KeyMintTa) (keyBlob : Bytes) (params : List KeyParam) :
    Except Error (PlaintextKeyBlob × Option SecureDeletionSlot) := do
  let encryptedKeyblob ← EncryptedKeyBlob.new env.wire env.coset keyBlob
  let hidden ← env.hidden params (← st.rootOfTrust)
  let sddSlot := encryptedKeyblob.secureDeletionSlot
  let keyblob ← keyblobDecrypt env st encryptedKeyblob hidden
  pure (keyblob, sddSlot)

def convertStorageKeyToEphemeral (st : KeyMintTa) (keyblob : Bytes) : Except Error Bytes :=
  match env.skWrapper with
  | some ephemeralWrap => do
    let (keyblob, _) ← keyblobParseDecrypt env st keyblob []
    ephemeralWrap keyblob.keyMaterial
  | none => .error (kmErr .unimplemented "storage key wrapping unavailable")

def getKeyCharacteristics (st : KeyMintTa) (keyBlob appId appData : Bytes) :
    Except Error (List KeyCharacteristics) := do
  let params := (if appId.isEmpty then [] else [KeyParam.applicationId appId]) ++
    (if appData.isEmpty then [] else [KeyParam.applicationData appData])
  let (keyblob, _) ← keyblobParseDecrypt env st keyBlob params
  pure keyblob.characteristics

/-- Generate a unique identifier for a keyblob: its HMAC-SHA256 under an all-zero key. -/
def keyId (keyblob : Bytes) : Except Error KeyId := do
  let tag ← env.hmac.mac (List.replicate 16 0) .sha256 keyblob
  if h : tag.length = 32 then pure ⟨⟨tag, h⟩⟩
  else .error (kmErr .unknownError "wrong size output from HMAC-SHA256")

/-- The tags that `add_keymint_tags` appends: the origin, and the versions known so far. -/
def keymintTags (st : KeyMintTa) (origin : KeyOrigin) : List KeyParam :=
  [.origin origin] ++
    (match st.halInfo with
      | some halInfo =>
        [.osVersion halInfo.osVersion, .osPatchlevel halInfo.osPatchlevel,
          .vendorPatchlevel halInfo.vendorPatchlevel]
      | none => []) ++
    (match st.bootInfo with
      | some bootInfo => [.bootPatchlevel bootInfo.bootPatchlevel]
      | none => [])

/-- Add KeyMint-generated tags to the first characteristics at the TA's security level. -/
def addKeymintTags (st : KeyMintTa) (chars : List KeyCharacteristics) (origin : KeyOrigin) :
    Except Error (List KeyCharacteristics) :=
  match chars with
  | [] => .error (kmErr .unknownError
      ("no characteristics at our security level " ++ reprStr st.hwInfo.securityLevel))
  | kc :: rest =>
    if kc.securityLevel = st.hwInfo.securityLevel then
      .ok ({ kc with authorizations := kc.authorizations ++ keymintTags st origin } :: rest)
    else (kc :: ·) <$> addKeymintTags st rest origin

/-! ## 5. Calls from methods outside `lib.rs` -/

def applyExtCall (st : KeyMintTa) : ExtCall → KeyMintTa
  | .setSharedSecretParams params => { st with sharedSecretParams := params }
  | .setHmacKey key => { st with hmacKey := key }
  | .setOperations operations => { st with operations }
  | .setPresenceRequiredOp op => { st with presenceRequiredOp := op }
  | .fillBytes n => { st with rng := (st.rng.fillBytes n).2 }
  | .updateUseCount keyId maxUses => { st with useCount := (updateUseCount st.useCount keyId maxUses).2 }
  | .newSecret => (sddNewSecret env st).2
  | .deleteSecret slot => sddDeleteSecret st slot
  | .getAttestationIds => (getAttestationIds st).2

def applyExtCalls (st : KeyMintTa) (calls : List ExtCall) : KeyMintTa :=
  calls.foldl (applyExtCall env) st

/-- The slots that `new_secret` filled during the calls. -/
def newSecretSlots : KeyMintTa → List ExtCall → List SecureDeletionSlot
  | _, [] => []
  | st, call :: calls =>
    (match call with
      | .newSecret => (sddNewSecret env st).1.toList
      | _ => []) ++ newSecretSlots (applyExtCall env st call) calls

end KeyMintTa

end KeyMint
