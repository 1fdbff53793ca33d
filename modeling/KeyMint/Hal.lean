import KeyMint.Ta.Messages

/-!
# The HAL conversion of key parameters

`hal.rs` lines 250-408 and 466-772: a wire `KeyParam` becomes a HAL `KeyParameter`, a tag and a
value union whose integers are `i32`/`i64` and whose enums are `i32` newtypes; and a HAL
`KeyParameter` becomes a wire `KeyParam`, with an error for a value of the wrong shape, an
error for an unsupported tag, and nothing for an unknown tag.  The build modelled is the one with
both `hal_v3` and `hal_v4`.

The enum conversions of `enum_convert!` call `try_from` of the wire enums, which `kmr_wire`
defines; they are parameters here (`HalEnums`), with the law `EnumConvert.Inverts`.

## Main results

- `KeyParameter.tryFromm_fromm`, `KeyParameter.fromm_of_tryFromm`: the two halves of
  `KeyParameter.fromm_tryFromm_bijection`, **the conversion is a bijection between wire
  parameters and the HAL parameters the decoder accepts**.
- `KeyParameter.tryFrommParams_map_fromm`, `KeyParameter.map_fromm_of_tryFrommParams`: the same
  for the parameter lists of an attestation key, where the decoder drops exactly the unknown tags;
  `KeyParameter.tryFrommParams_eq_error`: a list fails at its first parameter that fails.
- `AttestationKey.tryFromm_spec`: **an attestation key converts from the HAL as its parameters
  do**.
-/

namespace KeyMint

/-! ## 1. Casts -/

/-- `v as i32` for a `u32`: the same bits. -/
def asI32 (v : UInt32) : BitVec 32 := v.toBitVec

/-- `v as u32` for an `i32`: the same bits. -/
def asU32 (v : BitVec 32) : UInt32 := ⟨v⟩

/-- `v as i64` for a `u64`: the same bits. -/
def asI64 (v : UInt64) : BitVec 64 := v.toBitVec

/-- `v as u64` for an `i64`: the same bits. -/
def asU64 (v : BitVec 64) : UInt64 := ⟨v⟩

@[simp] theorem asU32_asI32 (v : UInt32) : asU32 (asI32 v) = v := rfl

@[simp] theorem asI32_asU32 (v : BitVec 32) : asI32 (asU32 v) = v := rfl

@[simp] theorem asU64_asI64 (v : UInt64) : asU64 (asI64 v) = v := rfl

@[simp] theorem asI64_asU64 (v : BitVec 64) : asI64 (asU64 v) = v := rfl

/-! ## 2. HAL types -/

/-- `ValueNotRecognized` of `kmr_wire`: the HAL value that could not be converted. -/
inductive ValueNotRecognized where
  | tag | bool | blob | keyPurpose | algorithm | blockMode | digest | paddingMode | ecCurve
  | origin | hardwareAuthenticatorType | integer | longInteger | dateTime
  deriving DecidableEq, Repr

namespace Hal

/-- The HAL `Tag`, an `i32` newtype: the constants `hal.rs` names, which are distinct, and any
other value. -/
inductive Tag where
  | purpose | algorithm | blockMode | digest | padding | ecCurve | rsaOaepMgfDigest | origin
  | userAuthType
  | keySize | minMacLength | maxUsesPerBoot | usageCountLimit | userId | authTimeout | osVersion
  | osPatchlevel | vendorPatchlevel | bootPatchlevel | macLength | maxBootLevel
  | rsaPublicExponent | userSecureId
  | callerNonce | includeUniqueId | bootloaderOnly | rollbackResistance | earlyBootOnly
  | allowWhileOnBody | noAuthRequired | trustedUserPresenceRequired | trustedConfirmationRequired
  | unlockedDeviceRequired | deviceUniqueAttestation | storageKey | resetSinceIdRotation
  | activeDatetime | originationExpireDatetime | usageExpireDatetime | creationDatetime
  | certificateNotBefore | certificateNotAfter
  | applicationId | applicationData | attestationChallenge | attestationApplicationId
  | attestationIdBrand | attestationIdDevice | attestationIdProduct | attestationIdSerial
  | attestationIdImei | attestationIdSecondImei | attestationIdMeid | attestationIdManufacturer
  | attestationIdModel | nonce | rootOfTrust | certificateSerial | certificateSubject | moduleHash
  | uniqueId | hardwareType | minSecondsBetweenOps | identityCredentialKey | associatedData
  | confirmationToken
  | other (value : BitVec 32)
  deriving Repr

/-- The tags the decoder silently drops: those `hal.rs` does not name. -/
def Tag.isOther : Tag → Bool
  | .other _ => true
  | _ => false

/-- The HAL `KeyParameterValue` union; each enum is an `i32` newtype, kept as its bits. -/
inductive KeyParameterValue where
  | invalid (v : BitVec 32)
  | algorithm (v : BitVec 32)
  | blockMode (v : BitVec 32)
  | paddingMode (v : BitVec 32)
  | digest (v : BitVec 32)
  | ecCurve (v : BitVec 32)
  | origin (v : BitVec 32)
  | keyPurpose (v : BitVec 32)
  | hardwareAuthenticatorType (v : BitVec 32)
  | securityLevel (v : BitVec 32)
  | boolValue (b : Bool)
  | integer (v : BitVec 32)
  | longInteger (v : BitVec 64)
  | dateTime (v : BitVec 64)
  | blob (b : Bytes)
  deriving Repr

/-- The HAL `KeyParameter`. -/
structure KeyParameter where
  tag : Tag
  value : KeyParameterValue
  deriving Repr

namespace KeyParameterValue

/-! The `if let KeyParameterValue::$variant(v) = val.value` of `value_of!`, one per variant it is
used with. -/

def keyPurpose? : KeyParameterValue → Option (BitVec 32) | .keyPurpose v => some v | _ => none
def algorithm? : KeyParameterValue → Option (BitVec 32) | .algorithm v => some v | _ => none
def blockMode? : KeyParameterValue → Option (BitVec 32) | .blockMode v => some v | _ => none
def digest? : KeyParameterValue → Option (BitVec 32) | .digest v => some v | _ => none
def paddingMode? : KeyParameterValue → Option (BitVec 32) | .paddingMode v => some v | _ => none
def ecCurve? : KeyParameterValue → Option (BitVec 32) | .ecCurve v => some v | _ => none
def origin? : KeyParameterValue → Option (BitVec 32) | .origin v => some v | _ => none
def hardwareAuthenticatorType? : KeyParameterValue → Option (BitVec 32)
  | .hardwareAuthenticatorType v => some v | _ => none
def integer? : KeyParameterValue → Option (BitVec 32) | .integer v => some v | _ => none
def longInteger? : KeyParameterValue → Option (BitVec 64) | .longInteger v => some v | _ => none
def dateTime? : KeyParameterValue → Option (BitVec 64) | .dateTime v => some v | _ => none
def blob? : KeyParameterValue → Option Bytes | .blob b => some b | _ => none

variable {x : KeyParameterValue}

@[simp] theorem keyPurpose?_eq_some {v} : x.keyPurpose? = some v ↔ x = .keyPurpose v := by
  cases x <;> simp [keyPurpose?]
@[simp] theorem algorithm?_eq_some {v} : x.algorithm? = some v ↔ x = .algorithm v := by
  cases x <;> simp [algorithm?]
@[simp] theorem blockMode?_eq_some {v} : x.blockMode? = some v ↔ x = .blockMode v := by
  cases x <;> simp [blockMode?]
@[simp] theorem digest?_eq_some {v} : x.digest? = some v ↔ x = .digest v := by
  cases x <;> simp [digest?]
@[simp] theorem paddingMode?_eq_some {v} : x.paddingMode? = some v ↔ x = .paddingMode v := by
  cases x <;> simp [paddingMode?]
@[simp] theorem ecCurve?_eq_some {v} : x.ecCurve? = some v ↔ x = .ecCurve v := by
  cases x <;> simp [ecCurve?]
@[simp] theorem origin?_eq_some {v} : x.origin? = some v ↔ x = .origin v := by
  cases x <;> simp [origin?]
@[simp] theorem hardwareAuthenticatorType?_eq_some {v} :
    x.hardwareAuthenticatorType? = some v ↔ x = .hardwareAuthenticatorType v := by
  cases x <;> simp [hardwareAuthenticatorType?]
@[simp] theorem integer?_eq_some {v} : x.integer? = some v ↔ x = .integer v := by
  cases x <;> simp [integer?]
@[simp] theorem longInteger?_eq_some {v} : x.longInteger? = some v ↔ x = .longInteger v := by
  cases x <;> simp [longInteger?]
@[simp] theorem dateTime?_eq_some {v} : x.dateTime? = some v ↔ x = .dateTime v := by
  cases x <;> simp [dateTime?]
@[simp] theorem blob?_eq_some {v} : x.blob? = some v ↔ x = .blob v := by
  cases x <;> simp [blob?]

end KeyParameterValue

/-! ## 3. The conversion macros -/

/-- `value_of!(val, Variant)`: the payload of the expected variant, or the variant's error. -/
def valueOf {β : Type} (variant : KeyParameterValue → Option β) (err : ValueNotRecognized)
    (val : KeyParameter) : Except ValueNotRecognized β :=
  match variant val.value with
  | some v => .ok v
  | none => .error err

/-- `check_bool!(val)`: a boolean tag holds `true`. -/
def checkBool (val : KeyParameter) : Except ValueNotRecognized Unit :=
  match val.value with
  | .boolValue true => .ok ()
  | _ => .error .bool

/-- `clone_blob!(val)`: the bytes of a blob value. -/
def cloneBlob (val : KeyParameter) : Except ValueNotRecognized Bytes :=
  valueOf KeyParameterValue.blob? .blob val

@[simp] theorem valueOf_eq_ok {β : Type} {variant : KeyParameterValue → Option β}
    {err : ValueNotRecognized} {val : KeyParameter} {v : β} :
    valueOf variant err val = .ok v ↔ variant val.value = some v := by
  unfold valueOf
  split <;> simp_all

@[simp] theorem checkBool_eq_ok {val : KeyParameter} {u : Unit} :
    checkBool val = .ok u ↔ val.value = .boolValue true := by
  unfold checkBool
  split <;> simp_all

end Hal

/-- What `enum_convert!` emits for one wire enum: `fromm` is `Self(val as i32)`, and `try_fromm`
is the wire enum's `try_from` of the newtype's `i32`. -/
structure EnumConvert (α : Type) where
  fromm : α → BitVec 32
  tryFromm : BitVec 32 → Except ValueNotRecognized α

/-- `try_from` is the inverse of `as i32`: it accepts exactly the discriminants, each as its
variant. -/
def EnumConvert.Inverts {α : Type} (c : EnumConvert α) : Prop :=
  ∀ i x, c.tryFromm i = .ok x ↔ c.fromm x = i

theorem EnumConvert.Inverts.tryFromm_fromm {α : Type} {c : EnumConvert α} (h : c.Inverts) (x : α) :
    c.tryFromm (c.fromm x) = .ok x :=
  (h _ x).mpr rfl

/-- The `enum_convert!` instances that the key parameter conversion uses. -/
structure HalEnums where
  keyPurpose : EnumConvert KeyPurpose
  algorithm : EnumConvert Algorithm
  blockMode : EnumConvert BlockMode
  digest : EnumConvert Digest
  paddingMode : EnumConvert PaddingMode
  ecCurve : EnumConvert EcCurve
  keyOrigin : EnumConvert KeyOrigin

/-- Every enum conversion inverts. -/
structure HalEnums.Inverts (e : HalEnums) : Prop where
  keyPurpose : e.keyPurpose.Inverts
  algorithm : e.algorithm.Inverts
  blockMode : e.blockMode.Inverts
  digest : e.digest.Inverts
  paddingMode : e.paddingMode.Inverts
  ecCurve : e.ecCurve.Inverts
  keyOrigin : e.keyOrigin.Inverts

/-! ## 4. The conversions -/

namespace Hal

open KeyParameterValue

variable (e : HalEnums)

/-- `impl Fromm<wire::keymint::KeyParam> for KeyParameter`. -/
def KeyParameter.fromm : KeyParam → KeyParameter
  -- Enum-holding variants.
  | .purpose v => ⟨.purpose, .keyPurpose (e.keyPurpose.fromm v)⟩
  | .algorithm v => ⟨.algorithm, .algorithm (e.algorithm.fromm v)⟩
  | .blockMode v => ⟨.blockMode, .blockMode (e.blockMode.fromm v)⟩
  | .digest v => ⟨.digest, .digest (e.digest.fromm v)⟩
  | .padding v => ⟨.padding, .paddingMode (e.paddingMode.fromm v)⟩
  | .ecCurve v => ⟨.ecCurve, .ecCurve (e.ecCurve.fromm v)⟩
  | .rsaOaepMgfDigest v => ⟨.rsaOaepMgfDigest, .digest (e.digest.fromm v)⟩
  | .origin v => ⟨.origin, .origin (e.keyOrigin.fromm v)⟩
  -- `u32`-holding variants.
  | .keySize v => ⟨.keySize, .integer (asI32 v)⟩
  | .minMacLength v => ⟨.minMacLength, .integer (asI32 v)⟩
  | .maxUsesPerBoot v => ⟨.maxUsesPerBoot, .integer (asI32 v)⟩
  | .usageCountLimit v => ⟨.usageCountLimit, .integer (asI32 v)⟩
  | .userId v => ⟨.userId, .integer (asI32 v)⟩
  -- Special case: auth type is a bitmask, so the HAL "enum" holds the bits.
  | .userAuthType v => ⟨.userAuthType, .hardwareAuthenticatorType (asI32 v)⟩
  | .authTimeout v => ⟨.authTimeout, .integer (asI32 v)⟩
  | .osVersion v => ⟨.osVersion, .integer (asI32 v)⟩
  | .osPatchlevel v => ⟨.osPatchlevel, .integer (asI32 v)⟩
  | .vendorPatchlevel v => ⟨.vendorPatchlevel, .integer (asI32 v)⟩
  | .bootPatchlevel v => ⟨.bootPatchlevel, .integer (asI32 v)⟩
  | .macLength v => ⟨.macLength, .integer (asI32 v)⟩
  | .maxBootLevel v => ⟨.maxBootLevel, .integer (asI32 v)⟩
  -- `u64`-holding variants.
  | .rsaPublicExponent v => ⟨.rsaPublicExponent, .longInteger (asI64 v)⟩
  | .userSecureId v => ⟨.userSecureId, .longInteger (asI64 v)⟩
  -- `true`-holding variants.
  | .callerNonce => ⟨.callerNonce, .boolValue true⟩
  | .includeUniqueId => ⟨.includeUniqueId, .boolValue true⟩
  | .bootloaderOnly => ⟨.bootloaderOnly, .boolValue true⟩
  | .rollbackResistance => ⟨.rollbackResistance, .boolValue true⟩
  | .earlyBootOnly => ⟨.earlyBootOnly, .boolValue true⟩
  | .allowWhileOnBody => ⟨.allowWhileOnBody, .boolValue true⟩
  | .noAuthRequired => ⟨.noAuthRequired, .boolValue true⟩
  | .trustedUserPresenceRequired => ⟨.trustedUserPresenceRequired, .boolValue true⟩
  | .trustedConfirmationRequired => ⟨.trustedConfirmationRequired, .boolValue true⟩
  | .unlockedDeviceRequired => ⟨.unlockedDeviceRequired, .boolValue true⟩
  | .deviceUniqueAttestation => ⟨.deviceUniqueAttestation, .boolValue true⟩
  | .storageKey => ⟨.storageKey, .boolValue true⟩
  | .resetSinceIdRotation => ⟨.resetSinceIdRotation, .boolValue true⟩
  -- `DateTime`-holding variants.
  | .activeDatetime v => ⟨.activeDatetime, .dateTime v.msSinceEpoch⟩
  | .originationExpireDatetime v => ⟨.originationExpireDatetime, .dateTime v.msSinceEpoch⟩
  | .usageExpireDatetime v => ⟨.usageExpireDatetime, .dateTime v.msSinceEpoch⟩
  | .creationDatetime v => ⟨.creationDatetime, .dateTime v.msSinceEpoch⟩
  | .certificateNotBefore v => ⟨.certificateNotBefore, .dateTime v.msSinceEpoch⟩
  | .certificateNotAfter v => ⟨.certificateNotAfter, .dateTime v.msSinceEpoch⟩
  -- `Vec<u8>`-holding variants.
  | .applicationId v => ⟨.applicationId, .blob v⟩
  | .applicationData v => ⟨.applicationData, .blob v⟩
  | .attestationChallenge v => ⟨.attestationChallenge, .blob v⟩
  | .attestationApplicationId v => ⟨.attestationApplicationId, .blob v⟩
  | .attestationIdBrand v => ⟨.attestationIdBrand, .blob v⟩
  | .attestationIdDevice v => ⟨.attestationIdDevice, .blob v⟩
  | .attestationIdProduct v => ⟨.attestationIdProduct, .blob v⟩
  | .attestationIdSerial v => ⟨.attestationIdSerial, .blob v⟩
  | .attestationIdImei v => ⟨.attestationIdImei, .blob v⟩
  | .attestationIdSecondImei v => ⟨.attestationIdSecondImei, .blob v⟩
  | .attestationIdMeid v => ⟨.attestationIdMeid, .blob v⟩
  | .attestationIdManufacturer v => ⟨.attestationIdManufacturer, .blob v⟩
  | .attestationIdModel v => ⟨.attestationIdModel, .blob v⟩
  | .nonce v => ⟨.nonce, .blob v⟩
  | .rootOfTrust v => ⟨.rootOfTrust, .blob v⟩
  | .certificateSerial v => ⟨.certificateSerial, .blob v⟩
  | .certificateSubject v => ⟨.certificateSubject, .blob v⟩
  | .moduleHash v => ⟨.moduleHash, .blob v⟩

/-- `impl TryFromm<&KeyParameter> for Option<KeyParam>`: a value of the wrong shape is an error,
an unsupported tag is an error, and an unknown tag is silently dropped. -/
def KeyParameter.tryFromm (val : KeyParameter) : Except ValueNotRecognized (Option KeyParam) :=
  match val.tag with
  -- Enum-holding variants.
  | .purpose => do
    return some (.purpose (← e.keyPurpose.tryFromm (← valueOf keyPurpose? .keyPurpose val)))
  | .algorithm => do
    return some (.algorithm (← e.algorithm.tryFromm (← valueOf algorithm? .algorithm val)))
  | .blockMode => do
    return some (.blockMode (← e.blockMode.tryFromm (← valueOf blockMode? .blockMode val)))
  | .digest => do return some (.digest (← e.digest.tryFromm (← valueOf digest? .digest val)))
  | .padding => do
    return some (.padding (← e.paddingMode.tryFromm (← valueOf paddingMode? .paddingMode val)))
  | .ecCurve => do return some (.ecCurve (← e.ecCurve.tryFromm (← valueOf ecCurve? .ecCurve val)))
  | .rsaOaepMgfDigest => do
    return some (.rsaOaepMgfDigest (← e.digest.tryFromm (← valueOf digest? .digest val)))
  | .origin => do return some (.origin (← e.keyOrigin.tryFromm (← valueOf origin? .origin val)))
  -- Special case: the auth type is a bitmask rather than an enum.
  | .userAuthType => do
    let val ← valueOf hardwareAuthenticatorType? .hardwareAuthenticatorType val
    return some (.userAuthType (asU32 val))
  -- `u32`-holding variants.
  | .keySize => do return some (.keySize (asU32 (← valueOf integer? .integer val)))
  | .minMacLength => do return some (.minMacLength (asU32 (← valueOf integer? .integer val)))
  | .maxUsesPerBoot => do return some (.maxUsesPerBoot (asU32 (← valueOf integer? .integer val)))
  | .usageCountLimit => do return some (.usageCountLimit (asU32 (← valueOf integer? .integer val)))
  | .userId => do return some (.userId (asU32 (← valueOf integer? .integer val)))
  | .authTimeout => do return some (.authTimeout (asU32 (← valueOf integer? .integer val)))
  | .osVersion => do return some (.osVersion (asU32 (← valueOf integer? .integer val)))
  | .osPatchlevel => do return some (.osPatchlevel (asU32 (← valueOf integer? .integer val)))
  | .vendorPatchlevel => do
    return some (.vendorPatchlevel (asU32 (← valueOf integer? .integer val)))
  | .bootPatchlevel => do return some (.bootPatchlevel (asU32 (← valueOf integer? .integer val)))
  | .macLength => do return some (.macLength (asU32 (← valueOf integer? .integer val)))
  | .maxBootLevel => do return some (.maxBootLevel (asU32 (← valueOf integer? .integer val)))
  -- `u64`-holding variants.
  | .rsaPublicExponent => do
    return some (.rsaPublicExponent (asU64 (← valueOf longInteger? .longInteger val)))
  | .userSecureId => do
    return some (.userSecureId (asU64 (← valueOf longInteger? .longInteger val)))
  -- `bool`-holding variants; only `true` is allowed.
  | .callerNonce => do checkBool val; return some .callerNonce
  | .includeUniqueId => do checkBool val; return some .includeUniqueId
  | .bootloaderOnly => do checkBool val; return some .bootloaderOnly
  | .rollbackResistance => do checkBool val; return some .rollbackResistance
  | .earlyBootOnly => do checkBool val; return some .earlyBootOnly
  | .noAuthRequired => do checkBool val; return some .noAuthRequired
  | .allowWhileOnBody => do checkBool val; return some .allowWhileOnBody
  | .trustedUserPresenceRequired => do checkBool val; return some .trustedUserPresenceRequired
  | .trustedConfirmationRequired => do checkBool val; return some .trustedConfirmationRequired
  | .unlockedDeviceRequired => do checkBool val; return some .unlockedDeviceRequired
  | .deviceUniqueAttestation => do checkBool val; return some .deviceUniqueAttestation
  | .storageKey => do checkBool val; return some .storageKey
  | .resetSinceIdRotation => do checkBool val; return some .resetSinceIdRotation
  -- `DateTime`-holding variants.
  | .activeDatetime => do return some (.activeDatetime ⟨← valueOf dateTime? .dateTime val⟩)
  | .originationExpireDatetime => do
    return some (.originationExpireDatetime ⟨← valueOf dateTime? .dateTime val⟩)
  | .usageExpireDatetime => do
    return some (.usageExpireDatetime ⟨← valueOf dateTime? .dateTime val⟩)
  | .creationDatetime => do return some (.creationDatetime ⟨← valueOf dateTime? .dateTime val⟩)
  | .certificateNotBefore => do
    return some (.certificateNotBefore ⟨← valueOf dateTime? .dateTime val⟩)
  | .certificateNotAfter => do
    return some (.certificateNotAfter ⟨← valueOf dateTime? .dateTime val⟩)
  -- `Vec<u8>`-holding variants.
  | .applicationId => do return some (.applicationId (← cloneBlob val))
  | .applicationData => do return some (.applicationData (← cloneBlob val))
  | .rootOfTrust => do return some (.rootOfTrust (← cloneBlob val))
  | .attestationChallenge => do return some (.attestationChallenge (← cloneBlob val))
  | .attestationApplicationId => do return some (.attestationApplicationId (← cloneBlob val))
  | .attestationIdBrand => do return some (.attestationIdBrand (← cloneBlob val))
  | .attestationIdDevice => do return some (.attestationIdDevice (← cloneBlob val))
  | .attestationIdProduct => do return some (.attestationIdProduct (← cloneBlob val))
  | .attestationIdSerial => do return some (.attestationIdSerial (← cloneBlob val))
  | .attestationIdImei => do return some (.attestationIdImei (← cloneBlob val))
  | .attestationIdSecondImei => do return some (.attestationIdSecondImei (← cloneBlob val))
  | .attestationIdMeid => do return some (.attestationIdMeid (← cloneBlob val))
  | .attestationIdManufacturer => do return some (.attestationIdManufacturer (← cloneBlob val))
  | .attestationIdModel => do return some (.attestationIdModel (← cloneBlob val))
  | .nonce => do return some (.nonce (← cloneBlob val))
  | .certificateSerial => do return some (.certificateSerial (← cloneBlob val))
  | .certificateSubject => do return some (.certificateSubject (← cloneBlob val))
  | .moduleHash => do return some (.moduleHash (← cloneBlob val))
  -- Unsupported variants.
  | .uniqueId | .hardwareType | .minSecondsBetweenOps | .identityCredentialKey | .associatedData
  | .confirmationToken => .error .tag
  | .other _ => .ok none

/-! ## 5. The bijection -/

variable {e}

/-- Every wire parameter comes back from its HAL form. -/
theorem KeyParameter.tryFromm_fromm (he : e.Inverts) (k : KeyParam) :
    KeyParameter.tryFromm e (KeyParameter.fromm e k) = .ok (some k) := by
  cases k
  all_goals first
    | rfl
    | simp only [KeyParameter.fromm, KeyParameter.tryFromm, valueOf, keyPurpose?, algorithm?,
        blockMode?, digest?, paddingMode?, ecCurve?, origin?, ok_bind,
        he.keyPurpose.tryFromm_fromm, he.algorithm.tryFromm_fromm, he.blockMode.tryFromm_fromm,
        he.digest.tryFromm_fromm, he.paddingMode.tryFromm_fromm, he.ecCurve.tryFromm_fromm,
        he.keyOrigin.tryFromm_fromm]; rfl

/-- **Everything the decoder accepts**: a parameter with an unknown tag, which it drops, or the HAL
form of the wire parameter it returns. -/
theorem KeyParameter.tryFromm_eq_ok (he : e.Inverts) {p : KeyParameter} {r : Option KeyParam}
    (h : KeyParameter.tryFromm e p = .ok r) :
    r.map (KeyParameter.fromm e) = if p.tag.isOther then none else some p := by
  obtain ⟨tag, value⟩ := p
  cases tag <;>
    simp only [KeyParameter.tryFromm, cloneBlob, bind_eq_ok, valueOf_eq_ok, checkBool_eq_ok,
      keyPurpose?_eq_some, algorithm?_eq_some, blockMode?_eq_some, digest?_eq_some,
      paddingMode?_eq_some, ecCurve?_eq_some, origin?_eq_some, hardwareAuthenticatorType?_eq_some,
      integer?_eq_some, longInteger?_eq_some, dateTime?_eq_some, blob?_eq_some, except_pure_eq,
      Except.ok.injEq, he.keyPurpose _, he.algorithm _, he.blockMode _, he.digest _,
      he.paddingMode _, he.ecCurve _, he.keyOrigin _] at h
  -- An accepted arm fixes the variant of the value, an enum's discriminant and the result.
  all_goals obtain ⟨_, rfl, _, rfl, rfl⟩ := h
  all_goals rfl

/-- Every HAL parameter the decoder converts to a wire parameter is that parameter's HAL form. -/
theorem KeyParameter.fromm_of_tryFromm (he : e.Inverts) {p : KeyParameter} {k : KeyParam}
    (h : KeyParameter.tryFromm e p = .ok (some k)) : KeyParameter.fromm e k = p := by
  have hp := KeyParameter.tryFromm_eq_ok he h
  split at hp
  · cases hp
  · exact Option.some.inj hp

theorem KeyParameter.isOther_of_tryFromm_none (he : e.Inverts) {p : KeyParameter}
    (h : KeyParameter.tryFromm e p = .ok none) : p.tag.isOther = true := by
  have hp := KeyParameter.tryFromm_eq_ok he h
  split at hp
  · assumption
  · cases hp

/-! ## 6. Lists of parameters -/

variable (e) in
/-- The `attest_key_params` conversion of `TryFromm<AttestationKey>`: every parameter converted
in order through `filter_map`, unknown tags dropped, and the first error returned by
`collect`. -/
def KeyParameter.tryFrommParams : List KeyParameter → Except ValueNotRecognized (List KeyParam)
  | [] => .ok []
  | p :: ps =>
    match KeyParameter.tryFromm e p with
    | .error err => .error err
    | .ok none => KeyParameter.tryFrommParams ps
    | .ok (some k) => (k :: ·) <$> KeyParameter.tryFrommParams ps

/-- A list of wire parameters comes back from its HAL form, `Fromm<Vec<T>> for Vec<U>`. -/
theorem KeyParameter.tryFrommParams_map_fromm (he : e.Inverts) (ks : List KeyParam) :
    KeyParameter.tryFrommParams e (ks.map (KeyParameter.fromm e)) = .ok ks := by
  induction ks with
  | nil => rfl
  | cons k ks ih => simp [KeyParameter.tryFrommParams, KeyParameter.tryFromm_fromm he, ih]

/-- What a converted list is: the HAL forms of its parameters are the HAL parameters with a known
tag, in order. -/
theorem KeyParameter.map_fromm_of_tryFrommParams (he : e.Inverts) {ps : List KeyParameter}
    {ks : List KeyParam} (h : KeyParameter.tryFrommParams e ps = .ok ks) :
    ks.map (KeyParameter.fromm e) = ps.filter fun p => !p.tag.isOther := by
  induction ps generalizing ks with
  | nil => cases h; rfl
  | cons p ps ih =>
    simp only [KeyParameter.tryFrommParams] at h
    split at h
    · cases h
    · rename_i hnone
      rw [List.filter_cons_of_neg (by simp [KeyParameter.isOther_of_tryFromm_none he hnone])]
      exact ih h
    · rename_i k hk
      obtain ⟨ks', hks', rfl⟩ := map_eq_ok.mp h
      have hp := KeyParameter.tryFromm_eq_ok he hk
      split at hp
      · cases hp
      · rename_i hknown
        rw [List.filter_cons_of_pos (by simpa using hknown), List.map_cons, Option.some.inj hp,
          ih hks']

/-- A list fails to convert at its first parameter that fails, with that parameter's error, all
the parameters before it converting. -/
theorem KeyParameter.tryFrommParams_eq_error {ps : List KeyParameter} {err : ValueNotRecognized}
    (h : KeyParameter.tryFrommParams e ps = .error err) :
    ∃ pre p post, ps = pre ++ p :: post ∧
      (∀ q ∈ pre, ∃ r, KeyParameter.tryFromm e q = .ok r) ∧ KeyParameter.tryFromm e p = .error err := by
  induction ps with
  | nil => cases h
  | cons p ps ih =>
    simp only [KeyParameter.tryFrommParams] at h
    have hrest (hps : KeyParameter.tryFrommParams e ps = .error err) (r : Option KeyParam)
        (hp : KeyParameter.tryFromm e p = .ok r) :
        ∃ pre q post, p :: ps = pre ++ q :: post ∧
          (∀ q ∈ pre, ∃ r, KeyParameter.tryFromm e q = .ok r) ∧
          KeyParameter.tryFromm e q = .error err := by
      obtain ⟨pre, q, post, rfl, hpre, hq⟩ := ih hps
      refine ⟨p :: pre, q, post, rfl, ?_, hq⟩
      rintro q' (_ | ⟨_, hq'⟩)
      exacts [⟨r, hp⟩, hpre q' hq']
    split at h
    · cases h
      exact ⟨[], p, ps, rfl, by simp, ‹_›⟩
    · exact hrest h none ‹_›
    · rcases hps : KeyParameter.tryFrommParams e ps with err' | ks <;> rw [hps] at h <;> cases h
      exact hrest hps _ ‹_›

end Hal

/-- **The HAL conversion is a bijection onto what the decoder accepts.**  When every enum's
`try_from` inverts `as i32`: every wire parameter, of every variant and with every payload,
converts back to itself from its HAL form; and every HAL parameter that converts to a wire
parameter is the HAL form of that parameter. -/
theorem Hal.KeyParameter.fromm_tryFromm_bijection (e : HalEnums) (he : e.Inverts) :
    (∀ k, Hal.KeyParameter.tryFromm e (Hal.KeyParameter.fromm e k) = .ok (some k)) ∧
    ∀ p k, Hal.KeyParameter.tryFromm e p = .ok (some k) → Hal.KeyParameter.fromm e k = p :=
  ⟨Hal.KeyParameter.tryFromm_fromm he, fun _ _ => Hal.KeyParameter.fromm_of_tryFromm he⟩

/-! ## 7. Reference conversions -/

/-- The conversions of an enum whose variants, in the order of `all`, have the discriminants
0, 1, 2, ...; any other `i32` is refused. -/
def EnumConvert.ofList {α : Type} [DecidableEq α] (all : List α) (err : ValueNotRecognized) :
    EnumConvert α where
  fromm x := BitVec.ofNat 32 (all.indexOf x)
  tryFromm i :=
    match all[i.toNat]? with
    | some x => .ok x
    | none => .error err

theorem EnumConvert.ofList_inverts {α : Type} [DecidableEq α] {all : List α}
    {err : ValueNotRecognized} (hall : ∀ x, x ∈ all) (hnd : all.Nodup)
    (hlen : all.length < 2 ^ 32) : (EnumConvert.ofList all err).Inverts := by
  have hidx : ∀ y, (BitVec.ofNat 32 (all.indexOf y)).toNat = all.indexOf y := fun y => by
    have := List.indexOf_lt_length.mpr (hall y)
    rw [BitVec.toNat_ofNat, Nat.mod_eq_of_lt (by omega)]
  intro i x
  simp only [EnumConvert.ofList]
  constructor
  · intro h
    split at h
    · rename_i y hy
      cases h
      obtain ⟨_, hyx⟩ := List.getElem?_eq_some_iff.mp hy
      apply BitVec.eq_of_toNat_eq
      rw [hidx, ← hyx, List.indexOf_getElem hnd]
    · cases h
  · rintro rfl
    rw [hidx, List.getElem?_indexOf (hall x)]

/-- Reference conversions: each enum's variants numbered in declaration order. -/
def HalEnums.reference : HalEnums where
  keyPurpose := .ofList [.encrypt, .decrypt, .sign, .verify, .wrapKey, .agreeKey, .attestKey]
    .keyPurpose
  algorithm := .ofList [.rsa, .ec, .aes, .tripleDes, .hmac] .algorithm
  blockMode := .ofList [.ecb, .cbc, .ctr, .gcm] .blockMode
  digest := .ofList [.none, .md5, .sha1, .sha224, .sha256, .sha384, .sha512] .digest
  paddingMode := .ofList [.none, .rsaOaep, .rsaPss, .rsaPkcs115Encrypt, .rsaPkcs115Sign, .pkcs7]
    .paddingMode
  ecCurve := .ofList [.p224, .p256, .p384, .p521, .curve25519] .ecCurve
  keyOrigin := .ofList [.generated, .derived, .imported, .reserved, .securelyImported] .origin

theorem HalEnums.reference_inverts : HalEnums.reference.Inverts where
  keyPurpose := EnumConvert.ofList_inverts (by intro x; cases x <;> simp) (by decide) (by decide)
  algorithm := EnumConvert.ofList_inverts (by intro x; cases x <;> simp) (by decide) (by decide)
  blockMode := EnumConvert.ofList_inverts (by intro x; cases x <;> simp) (by decide) (by decide)
  digest := EnumConvert.ofList_inverts (by intro x; cases x <;> simp) (by decide) (by decide)
  paddingMode := EnumConvert.ofList_inverts (by intro x; cases x <;> simp) (by decide) (by decide)
  ecCurve := EnumConvert.ofList_inverts (by intro x; cases x <;> simp) (by decide) (by decide)
  keyOrigin := EnumConvert.ofList_inverts (by intro x; cases x <;> simp) (by decide) (by decide)

/-- The bijection for the reference conversions. -/
theorem Hal.KeyParameter.fromm_tryFromm_bijection_reference :
    (∀ k, Hal.KeyParameter.tryFromm .reference (Hal.KeyParameter.fromm .reference k) =
      .ok (some k)) ∧
    ∀ p k, Hal.KeyParameter.tryFromm .reference p = .ok (some k) →
      Hal.KeyParameter.fromm .reference k = p :=
  Hal.KeyParameter.fromm_tryFromm_bijection .reference HalEnums.reference_inverts

/-! ## 8. Attestation keys -/

namespace Hal

/-- The HAL `AttestationKey`. -/
structure AttestationKey where
  keyBlob : Bytes
  attestKeyParams : List KeyParameter
  issuerSubjectName : Bytes

/-- `impl TryFromm<keymint::AttestationKey::AttestationKey> for wire::keymint::AttestationKey`. -/
def AttestationKey.tryFromm (e : HalEnums) (val : AttestationKey) :
    Except ValueNotRecognized KeyMint.AttestationKey := do
  return ⟨val.keyBlob, ← KeyParameter.tryFrommParams e val.attestKeyParams, val.issuerSubjectName⟩

end Hal

/-- **An attestation key converts from the HAL as its parameters do.**  When every enum's
`try_from` inverts `as i32`: the HAL form of a wire attestation key converts back to it; a key
that converts keeps its key blob and issuer, and its parameters are, in HAL form, the HAL
parameters with a known tag, in order; and a key that does not convert fails with the error of
its first parameter that fails, every parameter before that one converting. -/
theorem Hal.AttestationKey.tryFromm_spec (e : HalEnums) (he : e.Inverts) :
    (∀ (keyBlob : Bytes) (ks : List KeyParam) (issuer : Bytes),
      Hal.AttestationKey.tryFromm e ⟨keyBlob, ks.map (Hal.KeyParameter.fromm e), issuer⟩ =
        .ok ⟨keyBlob, ks, issuer⟩) ∧
    (∀ a k, Hal.AttestationKey.tryFromm e a = .ok k →
      k.keyBlob = a.keyBlob ∧ k.issuerSubjectName = a.issuerSubjectName ∧
      k.attestKeyParams.map (Hal.KeyParameter.fromm e) =
        a.attestKeyParams.filter fun p => !p.tag.isOther) ∧
    ∀ a err, Hal.AttestationKey.tryFromm e a = .error err →
      ∃ pre p post, a.attestKeyParams = pre ++ p :: post ∧
        (∀ q ∈ pre, ∃ r, Hal.KeyParameter.tryFromm e q = .ok r) ∧
        Hal.KeyParameter.tryFromm e p = .error err := by
  refine ⟨fun keyBlob ks issuer => ?_, fun a k h => ?_, fun a err h => ?_⟩
  · simp [Hal.AttestationKey.tryFromm, Hal.KeyParameter.tryFrommParams_map_fromm he]
  · simp only [Hal.AttestationKey.tryFromm, bind_eq_ok, except_pure_eq, Except.ok.injEq] at h
    obtain ⟨ks, hks, rfl⟩ := h
    exact ⟨rfl, rfl, Hal.KeyParameter.map_fromm_of_tryFrommParams he hks⟩
  · rcases hps : Hal.KeyParameter.tryFrommParams e a.attestKeyParams with err' | ks <;>
      simp only [Hal.AttestationKey.tryFromm, hps, error_bind, ok_bind, except_pure_eq] at h <;>
      cases h
    exact Hal.KeyParameter.tryFrommParams_eq_error hps

/-- The attestation-key conversion for the reference conversions. -/
theorem Hal.AttestationKey.tryFromm_spec_reference :
    HalEnums.reference.Inverts ∧
    (∀ (keyBlob : Bytes) (ks : List KeyParam) (issuer : Bytes),
      Hal.AttestationKey.tryFromm .reference
          ⟨keyBlob, ks.map (Hal.KeyParameter.fromm .reference), issuer⟩ =
        .ok ⟨keyBlob, ks, issuer⟩) ∧
    (∀ a k, Hal.AttestationKey.tryFromm .reference a = .ok k →
      k.keyBlob = a.keyBlob ∧ k.issuerSubjectName = a.issuerSubjectName ∧
      k.attestKeyParams.map (Hal.KeyParameter.fromm .reference) =
        a.attestKeyParams.filter fun p => !p.tag.isOther) ∧
    ∀ a err, Hal.AttestationKey.tryFromm .reference a = .error err →
      ∃ pre p post, a.attestKeyParams = pre ++ p :: post ∧
        (∀ q ∈ pre, ∃ r, Hal.KeyParameter.tryFromm .reference q = .ok r) ∧
        Hal.KeyParameter.tryFromm .reference p = .error err :=
  ⟨HalEnums.reference_inverts,
    Hal.AttestationKey.tryFromm_spec .reference HalEnums.reference_inverts⟩

end KeyMint
