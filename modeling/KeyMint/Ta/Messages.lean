import KeyMint.Ta.State

/-!
# Requests and responses

The `PerformOpReq` and `PerformOpRsp` unions of `kmr_wire` that `process_req` dispatches on, and
the payload types their fields carry.  `kmr_wire` is outside the repository: each request is
modelled by the fields `process_req` reads from it, and each response by what `process_req` puts
in it.
-/

namespace KeyMint

/-! ## 1. Payload types -/

inductive KeyFormat where
  | x509 | pkcs8 | raw

inductive HardwareAuthenticatorType where
  | none | password | fingerprint | any
  deriving DecidableEq, Repr

/-- The `i32` value of each `HardwareAuthenticatorType`. -/
def HardwareAuthenticatorType.toI32 : HardwareAuthenticatorType → Int
  | .none => 0
  | .password => 1
  | .fingerprint => 2
  | .any => -1

structure HardwareAuthToken where
  challenge : BitVec 64
  userId : BitVec 64
  authenticatorId : BitVec 64
  authenticatorType : HardwareAuthenticatorType
  timestamp : Timestamp
  mac : Bytes

structure TimeStampToken where
  challenge : BitVec 64
  timestamp : Timestamp
  mac : Bytes

structure AttestationKey where
  keyBlob : Bytes
  attestKeyParams : List KeyParam
  issuerSubjectName : Bytes

structure Certificate where
  encodedCertificate : Bytes

structure KeyCreationResult where
  keyBlob : Bytes
  keyCharacteristics : List KeyCharacteristics
  certificateChain : List Certificate

structure BeginResult where
  challenge : BitVec 64
  params : List KeyParam
  opHandle : BitVec 64

structure KeyMintHardwareInfo where
  versionNumber : Int
  securityLevel : SecurityLevel
  keyMintName : String
  keyMintAuthorName : String
  timestampTokenRequired : Bool

structure MacedPublicKey where
  macedKey : Bytes

structure DeviceInfo where
  deviceInfo : Bytes

structure ProtectedData where
  protectedData : Bytes

/-- `rpc::HardwareInfo`. -/
structure RpcHardwareInfo where
  versionNumber : Int
  rpcAuthorName : String
  supportedEekCurve : EekCurve
  uniqueId : Option String
  supportedNumKeysInCsr : Int

/-! ## 2. The request and response unions -/

/-- The `KeyMintOperation` code of each request type. -/
inductive KeyMintOperation where
  | setBootInfo | setHalInfo | setAttestationIds
  | sharedSecretGetSharedSecretParameters | sharedSecretComputeSharedSecret
  | secureClockGenerateTimeStamp
  | deviceGetHardwareInfo | deviceAddRngEntropy | deviceGenerateKey | deviceImportKey
  | deviceImportWrappedKey | deviceUpgradeKey | deviceDeleteKey | deviceDeleteAllKeys
  | deviceDestroyAttestationIds | deviceBegin | deviceDeviceLocked | deviceEarlyBootEnded
  | deviceConvertStorageKeyToEphemeral | deviceGetKeyCharacteristics
  | getRootOfTrustChallenge | getRootOfTrust | sendRootOfTrust
  | operationUpdateAad | operationUpdate | operationFinish | operationAbort
  | rpcGetHardwareInfo | rpcGenerateEcdsaP256KeyPair | rpcGenerateCertificateRequest
  | rpcGenerateCertificateV2Request
  deriving DecidableEq, Repr

inductive PerformOpReq where
  | setBootInfo (verifiedBootKey : ByteArr 32) (deviceBootLocked : Bool) (verifiedBootState : Int)
      (verifiedBootHash : ByteArr 32) (bootPatchlevel : UInt32)
  | setHalInfo (osVersion osPatchlevel vendorPatchlevel : UInt32)
  | setAttestationIds (ids : AttestationIdInfo)
  | sharedSecretGetSharedSecretParameters
  | sharedSecretComputeSharedSecret (params : List SharedSecretParameters)
  | secureClockGenerateTimeStamp (challenge : BitVec 64)
  | deviceGetHardwareInfo
  | deviceAddRngEntropy (data : Bytes)
  | deviceGenerateKey (keyParams : List KeyParam) (attestationKey : Option AttestationKey)
  | deviceImportKey (keyParams : List KeyParam) (keyFormat : KeyFormat) (keyData : Bytes)
      (attestationKey : Option AttestationKey)
  | deviceImportWrappedKey (wrappedKeyData wrappingKeyBlob maskingKey : Bytes)
      (unwrappingParams : List KeyParam) (passwordSid biometricSid : BitVec 64)
  | deviceUpgradeKey (keyBlobToUpgrade : Bytes) (upgradeParams : List KeyParam)
  | deviceDeleteKey (keyBlob : Bytes)
  | deviceDeleteAllKeys
  | deviceDestroyAttestationIds
  | deviceBegin (purpose : KeyPurpose) (keyBlob : Bytes) (params : List KeyParam)
      (authToken : Option HardwareAuthToken)
  | deviceDeviceLocked (passwordOnly : Bool) (timestampToken : Option TimeStampToken)
  | deviceEarlyBootEnded
  | deviceConvertStorageKeyToEphemeral (storageKeyBlob : Bytes)
  | deviceGetKeyCharacteristics (keyBlob appId appData : Bytes)
  | getRootOfTrustChallenge
  | getRootOfTrust (challenge : ByteArr 16)
  | sendRootOfTrust (rootOfTrust : Bytes)
  | operationUpdateAad (opHandle : BitVec 64) (input : Bytes) (authToken : Option HardwareAuthToken)
      (timestampToken : Option TimeStampToken)
  | operationUpdate (opHandle : BitVec 64) (input : Bytes) (authToken : Option HardwareAuthToken)
      (timestampToken : Option TimeStampToken)
  | operationFinish (opHandle : BitVec 64) (input signature : Option Bytes)
      (authToken : Option HardwareAuthToken) (timestampToken : Option TimeStampToken)
      (confirmationToken : Option Bytes)
  | operationAbort (opHandle : BitVec 64)
  | rpcGetHardwareInfo
  | rpcGenerateEcdsaP256KeyPair (testMode : Bool)
  | rpcGenerateCertificateRequest (testMode : Bool) (keysToSign : List MacedPublicKey)
      (endpointEncryptionCertChain challenge : Bytes)
  | rpcGenerateCertificateV2Request (keysToSign : List MacedPublicKey) (challenge : Bytes)

inductive PerformOpRsp where
  | setBootInfo
  | setHalInfo
  | setAttestationIds
  | sharedSecretGetSharedSecretParameters (ret : SharedSecretParameters)
  | sharedSecretComputeSharedSecret (ret : Bytes)
  | secureClockGenerateTimeStamp (ret : TimeStampToken)
  | deviceGetHardwareInfo (ret : KeyMintHardwareInfo)
  | deviceAddRngEntropy
  | deviceGenerateKey (ret : KeyCreationResult)
  | deviceImportKey (ret : KeyCreationResult)
  | deviceImportWrappedKey (ret : KeyCreationResult)
  | deviceUpgradeKey (ret : Bytes)
  | deviceDeleteKey
  | deviceDeleteAllKeys
  | deviceDestroyAttestationIds
  | deviceBegin (ret : BeginResult)
  | deviceDeviceLocked
  | deviceEarlyBootEnded
  | deviceConvertStorageKeyToEphemeral (ret : Bytes)
  | deviceGetKeyCharacteristics (ret : List KeyCharacteristics)
  | getRootOfTrustChallenge (ret : ByteArr 16)
  | getRootOfTrust (ret : Bytes)
  | sendRootOfTrust
  | operationUpdateAad
  | operationUpdate (ret : Bytes)
  | operationFinish (ret : Bytes)
  | operationAbort
  | rpcGetHardwareInfo (ret : RpcHardwareInfo)
  | rpcGenerateEcdsaP256KeyPair (macedPublicKey : MacedPublicKey) (ret : Bytes)
  | rpcGenerateCertificateRequest (deviceInfo : DeviceInfo) (protectedData : ProtectedData)
      (ret : Bytes)
  | rpcGenerateCertificateV2Request (ret : Bytes)

structure PerformOpResponse where
  errorCode : ErrorCode
  rsp : Option PerformOpRsp

/-- The `CODE` of a request's type. -/
def PerformOpReq.code : PerformOpReq → KeyMintOperation
  | .setBootInfo .. => .setBootInfo
  | .setHalInfo .. => .setHalInfo
  | .setAttestationIds .. => .setAttestationIds
  | .sharedSecretGetSharedSecretParameters => .sharedSecretGetSharedSecretParameters
  | .sharedSecretComputeSharedSecret .. => .sharedSecretComputeSharedSecret
  | .secureClockGenerateTimeStamp .. => .secureClockGenerateTimeStamp
  | .deviceGetHardwareInfo => .deviceGetHardwareInfo
  | .deviceAddRngEntropy .. => .deviceAddRngEntropy
  | .deviceGenerateKey .. => .deviceGenerateKey
  | .deviceImportKey .. => .deviceImportKey
  | .deviceImportWrappedKey .. => .deviceImportWrappedKey
  | .deviceUpgradeKey .. => .deviceUpgradeKey
  | .deviceDeleteKey .. => .deviceDeleteKey
  | .deviceDeleteAllKeys => .deviceDeleteAllKeys
  | .deviceDestroyAttestationIds => .deviceDestroyAttestationIds
  | .deviceBegin .. => .deviceBegin
  | .deviceDeviceLocked .. => .deviceDeviceLocked
  | .deviceEarlyBootEnded => .deviceEarlyBootEnded
  | .deviceConvertStorageKeyToEphemeral .. => .deviceConvertStorageKeyToEphemeral
  | .deviceGetKeyCharacteristics .. => .deviceGetKeyCharacteristics
  | .getRootOfTrustChallenge => .getRootOfTrustChallenge
  | .getRootOfTrust .. => .getRootOfTrust
  | .sendRootOfTrust .. => .sendRootOfTrust
  | .operationUpdateAad .. => .operationUpdateAad
  | .operationUpdate .. => .operationUpdate
  | .operationFinish .. => .operationFinish
  | .operationAbort .. => .operationAbort
  | .rpcGetHardwareInfo => .rpcGetHardwareInfo
  | .rpcGenerateEcdsaP256KeyPair .. => .rpcGenerateEcdsaP256KeyPair
  | .rpcGenerateCertificateRequest .. => .rpcGenerateCertificateRequest
  | .rpcGenerateCertificateV2Request .. => .rpcGenerateCertificateV2Request

/-- The operation a response answers. -/
def PerformOpRsp.code : PerformOpRsp → KeyMintOperation
  | .setBootInfo => .setBootInfo
  | .setHalInfo => .setHalInfo
  | .setAttestationIds => .setAttestationIds
  | .sharedSecretGetSharedSecretParameters .. => .sharedSecretGetSharedSecretParameters
  | .sharedSecretComputeSharedSecret .. => .sharedSecretComputeSharedSecret
  | .secureClockGenerateTimeStamp .. => .secureClockGenerateTimeStamp
  | .deviceGetHardwareInfo .. => .deviceGetHardwareInfo
  | .deviceAddRngEntropy => .deviceAddRngEntropy
  | .deviceGenerateKey .. => .deviceGenerateKey
  | .deviceImportKey .. => .deviceImportKey
  | .deviceImportWrappedKey .. => .deviceImportWrappedKey
  | .deviceUpgradeKey .. => .deviceUpgradeKey
  | .deviceDeleteKey => .deviceDeleteKey
  | .deviceDeleteAllKeys => .deviceDeleteAllKeys
  | .deviceDestroyAttestationIds => .deviceDestroyAttestationIds
  | .deviceBegin .. => .deviceBegin
  | .deviceDeviceLocked => .deviceDeviceLocked
  | .deviceEarlyBootEnded => .deviceEarlyBootEnded
  | .deviceConvertStorageKeyToEphemeral .. => .deviceConvertStorageKeyToEphemeral
  | .deviceGetKeyCharacteristics .. => .deviceGetKeyCharacteristics
  | .getRootOfTrustChallenge .. => .getRootOfTrustChallenge
  | .getRootOfTrust .. => .getRootOfTrust
  | .sendRootOfTrust => .sendRootOfTrust
  | .operationUpdateAad => .operationUpdateAad
  | .operationUpdate .. => .operationUpdate
  | .operationFinish .. => .operationFinish
  | .operationAbort => .operationAbort
  | .rpcGetHardwareInfo .. => .rpcGetHardwareInfo
  | .rpcGenerateEcdsaP256KeyPair .. => .rpcGenerateEcdsaP256KeyPair
  | .rpcGenerateCertificateRequest .. => .rpcGenerateCertificateRequest
  | .rpcGenerateCertificateV2Request .. => .rpcGenerateCertificateV2Request

/-! ## 3. Building responses -/

/-- Create a response structure with the given error code. -/
def errorRsp (errCode : ErrorCode) : PerformOpResponse := ⟨errCode, none⟩

/-- Create a response structure with the given error; the operation is only logged. -/
def opErrorRsp (_ : KeyMintOperation) (err : Error) : PerformOpResponse := errorRsp err.code

/-- The arm of `process_req` shared by every request: the handler's value in the response
variant of the operation, or the error response for the operation. -/
def respond {α : Type} (op : KeyMintOperation) (wrap : α → PerformOpRsp) :
    Except Error α → PerformOpResponse
  | .ok ret => ⟨.ok, some (wrap ret)⟩
  | .error e => opErrorRsp op e

/-- The error a method returned, if it failed. -/
def errOf {ε α : Type} : Except ε α → Option ε
  | .ok _ => none
  | .error e => some e

/-- A response that `respond` builds holds the variant `wrap` builds, with `Ok`; and when the
method failed it is exactly the error response of its error. -/
theorem respond_shape {α : Type} {op c : KeyMintOperation} {wrap : α → PerformOpRsp}
    (hwrap : ∀ a, (wrap a).code = c) (r : Except Error α) :
    (∀ x, (respond op wrap r).rsp = some x → x.code = c ∧ (respond op wrap r).errorCode = .ok) ∧
      ∀ e, errOf r = some e → respond op wrap r = ⟨e.code, none⟩ := by
  cases r with
  | ok a => simp [respond, errOf, hwrap]
  | error e => simp [respond, errOf, opErrorRsp, errorRsp]

/-- Hand-encoded `PerformOpResponse` data for `ErrorCode::UNKNOWN_ERROR`: a 2-array of -1000 and
an empty array. -/
def invalidCborRspData : Bytes := [0x82, 0x39, 0x03, 0xe7, 0x80]

end KeyMint
