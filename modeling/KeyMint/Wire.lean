import KeyMint.Cbor

/-!
# Wire types of `kmr_wire` used by the TA core

The key parameters, characteristics and error codes that the keyblob engine and the TA inspect.
`KeyParam` has every variant of the HAL conversion in `hal.rs`; the enum payload types list the
values of the KeyMint HAL.
-/

namespace KeyMint

inductive KeyPurpose where
  | encrypt | decrypt | sign | verify | wrapKey | agreeKey | attestKey
  deriving DecidableEq, Repr, Inhabited

inductive Algorithm where
  | rsa | ec | aes | tripleDes | hmac
  deriving DecidableEq, Repr, Inhabited

inductive BlockMode where
  | ecb | cbc | ctr | gcm
  deriving DecidableEq, Repr, Inhabited

inductive Digest where
  | none | md5 | sha1 | sha224 | sha256 | sha384 | sha512
  deriving DecidableEq, Repr, Inhabited

inductive PaddingMode where
  | none | rsaOaep | rsaPss | rsaPkcs115Encrypt | rsaPkcs115Sign | pkcs7
  deriving DecidableEq, Repr, Inhabited

inductive EcCurve where
  | p224 | p256 | p384 | p521 | curve25519
  deriving DecidableEq, Repr, Inhabited

inductive KeyOrigin where
  | generated | derived | imported | reserved | securelyImported
  deriving DecidableEq, Repr, Inhabited

/-- `DateTime`: milliseconds since the epoch, an `i64` kept as its 64-bit pattern. -/
structure DateTime where
  msSinceEpoch : BitVec 64
  deriving DecidableEq, Repr

/-- `KeyParam`: a tag together with its value. -/
inductive KeyParam where
  | purpose (v : KeyPurpose)
  | algorithm (v : Algorithm)
  | blockMode (v : BlockMode)
  | digest (v : Digest)
  | padding (v : PaddingMode)
  | ecCurve (v : EcCurve)
  | rsaOaepMgfDigest (v : Digest)
  | origin (v : KeyOrigin)
  | keySize (v : UInt32)
  | minMacLength (v : UInt32)
  | maxUsesPerBoot (v : UInt32)
  | usageCountLimit (v : UInt32)
  | userId (v : UInt32)
  | userAuthType (v : UInt32)
  | authTimeout (v : UInt32)
  | osVersion (v : UInt32)
  | osPatchlevel (v : UInt32)
  | vendorPatchlevel (v : UInt32)
  | bootPatchlevel (v : UInt32)
  | macLength (v : UInt32)
  | maxBootLevel (v : UInt32)
  | rsaPublicExponent (v : UInt64)
  | userSecureId (v : UInt64)
  | callerNonce
  | includeUniqueId
  | bootloaderOnly
  | rollbackResistance
  | earlyBootOnly
  | allowWhileOnBody
  | noAuthRequired
  | trustedUserPresenceRequired
  | trustedConfirmationRequired
  | unlockedDeviceRequired
  | deviceUniqueAttestation
  | storageKey
  | resetSinceIdRotation
  | activeDatetime (v : DateTime)
  | originationExpireDatetime (v : DateTime)
  | usageExpireDatetime (v : DateTime)
  | creationDatetime (v : DateTime)
  | certificateNotBefore (v : DateTime)
  | certificateNotAfter (v : DateTime)
  | applicationId (v : Bytes)
  | applicationData (v : Bytes)
  | attestationChallenge (v : Bytes)
  | attestationApplicationId (v : Bytes)
  | attestationIdBrand (v : Bytes)
  | attestationIdDevice (v : Bytes)
  | attestationIdProduct (v : Bytes)
  | attestationIdSerial (v : Bytes)
  | attestationIdImei (v : Bytes)
  | attestationIdSecondImei (v : Bytes)
  | attestationIdMeid (v : Bytes)
  | attestationIdManufacturer (v : Bytes)
  | attestationIdModel (v : Bytes)
  | nonce (v : Bytes)
  | rootOfTrust (v : Bytes)
  | certificateSerial (v : Bytes)
  | certificateSubject (v : Bytes)
  | moduleHash (v : Bytes)
  deriving Repr

inductive SecurityLevel where
  | software | trustedEnvironment | strongbox | keystore
  deriving DecidableEq, Repr, Inhabited

/-- `KeyCharacteristics`: the authorizations enforced at one security level. -/
structure KeyCharacteristics where
  securityLevel : SecurityLevel
  authorizations : List KeyParam
  deriving Repr

inductive VerifiedBootState where
  | verified | selfSigned | unverified | failed
  deriving DecidableEq, Repr, Inhabited

/-- The `i32` value of each `VerifiedBootState`. -/
def VerifiedBootState.toI32 : VerifiedBootState → Int
  | .verified => 0
  | .selfSigned => 1
  | .unverified => 2
  | .failed => 3

/-- Modelled from the spec: `VerifiedBootState::try_from(i32)`, which rejects a value that names
no state. -/
def VerifiedBootState.tryFrom : Int → Except CborError VerifiedBootState
  | 0 => .ok .verified
  | 1 => .ok .selfSigned
  | 2 => .ok .unverified
  | 3 => .ok .failed
  | _ => .error .nonEnumValue

@[simp] theorem VerifiedBootState.tryFrom_toI32 (s : VerifiedBootState) : tryFrom s.toI32 = .ok s := by
  cases s <;> rfl

/-- The `ErrorCode`s that the modelled code produces. -/
inductive ErrorCode where
  | ok
  | incompatiblePurpose
  | invalidInputLength
  | invalidOperationHandle
  | verificationFailed
  | tooManyOperations
  | invalidKeyBlob
  | invalidArgument
  | unsupportedTag
  | memoryAllocationFailed
  | keyMaxOpsExceeded
  | keyRequiresUpgrade
  | rollbackResistanceUnavailable
  | concurrentProofOfPresenceRequested
  | hardwareNotYetAvailable
  | unimplemented
  | unknownError
  deriving DecidableEq, Repr, Inhabited

/-- `kmr_common::Error`. -/
inductive Error where
  | hal (code : ErrorCode) (msg : String)
  | cbor (e : CborError)
  | alloc (msg : String)
  deriving DecidableEq, Repr

/-- `km_err!(code, msg)`. -/
def kmErr (code : ErrorCode) (msg : String) : Error := .hal code msg

/-- Modelled from the spec: `impl From<Error> for ErrorCode` of `kmr_common`, the error code a
response carries; a malformed CBOR input is an invalid argument. -/
def Error.code : Error → ErrorCode
  | .hal code _ => code
  | .cbor _ => .invalidArgument
  | .alloc _ => .memoryAllocationFailed

@[simp] theorem kmErr_code (code : ErrorCode) (msg : String) : (kmErr code msg).code = code := rfl

/-- Lift a CBOR error with `?`: `impl From<CborError> for Error`. -/
def liftCbor {α : Type} : Except CborError α → Except Error α :=
  fun r => r.mapError .cbor

@[simp] theorem liftCbor_ok {α : Type} (x : α) : liftCbor (.ok x : Except CborError α) = .ok x := rfl

@[simp] theorem liftCbor_eq_ok {α : Type} {r : Except CborError α} {x : α} :
    liftCbor r = .ok x ↔ r = .ok x := by
  cases r <;> simp [liftCbor, Except.mapError]

/-- `.map_err(|_e| err)`: any error becomes `err`. -/
def mapErrTo {ε α : Type} (err : Error) (r : Except ε α) : Except Error α :=
  r.mapError fun _ => err

@[simp] theorem mapErrTo_ok {ε α : Type} (err : Error) (x : α) :
    mapErrTo err (.ok x : Except ε α) = .ok x := rfl

@[simp] theorem mapErrTo_eq_ok {ε α : Type} {err : Error} {r : Except ε α} {x : α} :
    mapErrTo err r = .ok x ↔ r = .ok x := by
  cases r <;> simp [mapErrTo, Except.mapError]

/-- `Option::ok_or_else`: the value, or the error. -/
def okOr {α : Type} (o : Option α) (err : Error) : Except Error α :=
  match o with
  | some x => .ok x
  | none => .error err

@[simp] theorem okOr_eq_ok {α : Type} {o : Option α} {err : Error} {x : α} :
    okOr o err = .ok x ↔ o = some x := by
  cases o <;> simp [okOr]

end KeyMint
