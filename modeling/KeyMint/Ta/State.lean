import KeyMint.Keyblob.Seal

/-!
# The TA state

`lib.rs` lines 48-235: the `KeyMintTa` record, with the state fixed on construction, the state
latched once after start of day, and the state that changes during operation.  The collaborators
injected into the TA keep state of their own (the RNG, the secure-deletion store, the
attestation ID provider); that state is part of the record here, as their trait objects are
fields of `KeyMintTa`.
-/

namespace KeyMint

/-- Maximum number of parallel operations supported when running as TEE. -/
def maxTeeOperations : Nat := 32

/-- Maximum number of parallel operations supported when running as StrongBox. -/
def maxStrongboxOperations : Nat := 4

/-- Maximum number of keys whose use count can be tracked. -/
def maxUseCountedKeys : Nat := 32

/-! ## 1. Data types -/

/-- Identifier for a keyblob. -/
structure KeyId where
  bytes : ByteArr 32
  deriving DecidableEq, Inhabited

/-- Per-key ID use count. -/
structure UseCount where
  keyId : KeyId
  count : UInt64
  deriving DecidableEq, Inhabited

/-- `[Option<UseCount>; MAX_USE_COUNTED_KEYS]`, by index. -/
abbrev UseCountTable := Fin maxUseCountedKeys → Option UseCount

/-- `secureclock::Timestamp`: milliseconds, an `i64` kept as its bit pattern. -/
structure Timestamp where
  milliseconds : BitVec 64
  deriving DecidableEq, Repr

/-- Device lock state. -/
inductive LockState where
  | unlocked
  | lockedSince (t : Timestamp)
  | passwordLockedSince (t : Timestamp)
  deriving DecidableEq, Repr

/-- Hardware information. -/
structure HardwareInfo where
  securityLevel : SecurityLevel
  versionNumber : Int
  implName : String
  authorName : String
  uniqueId : String
  fused : Bool

inductive EekCurve where
  | none | p256 | curve25519
  deriving DecidableEq, Repr

/-- Modelled from the spec: `RpcInfo`, the remote-provisioning configuration that `rkp.rs` reads
from the TA and that this `lib.rs` does not define. -/
inductive RpcInfo where
  | v2 (authorName : String) (supportedEekCurve : EekCurve) (uniqueId : String) (fused : Bool)
  | v3 (authorName : String) (uniqueId : String) (fused : Bool) (supportedNumOfKeysInCsr : Int)

/-- Information provided once at start-of-day, normally by the bootloader. -/
structure BootInfo where
  verifiedBootKey : ByteArr 32
  deviceBootLocked : Bool
  verifiedBootState : VerifiedBootState
  verifiedBootHash : ByteArr 32
  bootPatchlevel : UInt32
  deriving DecidableEq

/-- `BootInfo::TAG`. -/
def bootInfoTag : UInt64 := 40001

/-- Information provided once at service start by the HAL service. -/
structure HalInfo where
  osVersion : UInt32
  osPatchlevel : UInt32
  vendorPatchlevel : UInt32
  deriving DecidableEq, Repr

/-- Root of trust information for binding into keyblobs. -/
structure RootOfTrustInfo where
  verifiedBootKey : ByteArr 32
  deviceBootLocked : Bool
  verifiedBootState : VerifiedBootState
  verifiedBootHash : ByteArr 32
  deriving DecidableEq

/-- The root of trust that `set_boot_info` builds from boot information. -/
def BootInfo.rootOfTrustInfo (b : BootInfo) : RootOfTrustInfo :=
  ⟨b.verifiedBootKey, b.deviceBootLocked, b.verifiedBootState, b.verifiedBootHash⟩

/-! ## 2. Codecs of the boot information

`BootInfo` and `RootOfTrustInfo` derive `AsCborValue`, which encodes a structure as the array of
its fields in order. -/

/-- Modelled from the spec: the codec of `bool`. -/
def boolAsCbor : AsCborValue Bool where
  toCborValue b := .ok (.bool b)
  fromCborValue
    | .bool b => .ok b
    | v => cborTypeError v "bool"

/-- Modelled from the spec: the codec of `u32`, which rejects an integer out of range. -/
def u32AsCbor : AsCborValue UInt32 where
  toCborValue n := .ok (.integer n.toNat)
  fromCborValue
    | .integer i => if 0 ≤ i ∧ i < 2 ^ 32 then .ok (.ofNat i.toNat) else .error .outOfRangeIntegerValue
    | v => cborTypeError v "int"

/-- Modelled from the spec: the codec of `VerifiedBootState`, by its `i32` value. -/
def verifiedBootStateAsCbor : AsCborValue VerifiedBootState where
  toCborValue s := .ok (.integer s.toI32)
  fromCborValue
    | .integer i => VerifiedBootState.tryFrom i
    | v => cborTypeError v "int"

/-- Modelled from the spec: the derived codec of `BootInfo`. -/
def bootInfoAsCbor : AsCborValue BootInfo where
  toCborValue b := .ok (.array [.bytes b.verifiedBootKey.toList, .bool b.deviceBootLocked,
    .integer b.verifiedBootState.toI32, .bytes b.verifiedBootHash.toList,
    .integer b.bootPatchlevel.toNat])
  fromCborValue
    | .array [k, l, s, h, p] => do
      let verifiedBootKey ← (byteArrAsCbor 32).fromCborValue k
      let deviceBootLocked ← boolAsCbor.fromCborValue l
      let verifiedBootState ← verifiedBootStateAsCbor.fromCborValue s
      let verifiedBootHash ← (byteArrAsCbor 32).fromCborValue h
      let bootPatchlevel ← u32AsCbor.fromCborValue p
      pure ⟨verifiedBootKey, deviceBootLocked, verifiedBootState, verifiedBootHash, bootPatchlevel⟩
    | v => cborTypeError v "arr"

/-- Modelled from the spec: the derived codec of `RootOfTrustInfo`. -/
def rootOfTrustInfoAsCbor : AsCborValue RootOfTrustInfo where
  toCborValue r := .ok (.array [.bytes r.verifiedBootKey.toList, .bool r.deviceBootLocked,
    .integer r.verifiedBootState.toI32, .bytes r.verifiedBootHash.toList])
  fromCborValue
    | .array [k, l, s, h] => do
      let verifiedBootKey ← (byteArrAsCbor 32).fromCborValue k
      let deviceBootLocked ← boolAsCbor.fromCborValue l
      let verifiedBootState ← verifiedBootStateAsCbor.fromCborValue s
      let verifiedBootHash ← (byteArrAsCbor 32).fromCborValue h
      pure ⟨verifiedBootKey, deviceBootLocked, verifiedBootState, verifiedBootHash⟩
    | v => cborTypeError v "arr"

theorem uint32_ofNat_toNat (n : UInt32) : UInt32.ofNat n.toNat = n :=
  UInt32.eq_of_toBitVec_eq (BitVec.eq_of_toNat_eq (by simp [UInt32.ofNat, UInt32.toNat]))

@[simp] theorem byteArrAsCbor_fromCborValue_bytes {n : Nat} (b : ByteArr n) :
    (byteArrAsCbor n).fromCborValue (.bytes b.toList) = .ok b := by
  simp [byteArrAsCbor]

theorem bootInfoAsCbor_roundTrips : bootInfoAsCbor.RoundTrips := by
  rintro b v ⟨⟩
  have hp : 0 ≤ (b.bootPatchlevel.toNat : Int) ∧ (b.bootPatchlevel.toNat : Int) < 2 ^ 32 := by
    have := b.bootPatchlevel.toNat_lt_size
    simp only [UInt32.size] at this; omega
  simp only [bootInfoAsCbor, u32AsCbor, if_pos hp]
  simp [boolAsCbor, verifiedBootStateAsCbor, uint32_ofNat_toNat]

/-! ## 3. Attestation IDs and operations -/

/-- `AttestationIdInfo`, by the identifiers the TA reads. -/
structure AttestationIdInfo where
  brand : Bytes
  device : Bytes
  product : Bytes
  manufacturer : Bytes
  model : Bytes
  deriving DecidableEq

/-- Modelled from the spec: a device's `RetrieveAttestationIds`, by the identifiers it still
holds; `destroy_all` wipes them. -/
structure AttestIdsDevice where
  stored : Option AttestationIdInfo
  deriving DecidableEq

/-- `RetrieveAttestationIds::get`. -/
def AttestIdsDevice.get (d : AttestIdsDevice) : Except Error AttestationIdInfo :=
  match d.stored with
  | some ids => .ok ids
  | none => .error (kmErr .unimplemented "attestation IDs destroyed")

/-- `RetrieveAttestationIds::destroy_all`. -/
def AttestIdsDevice.destroyAll (_ : AttestIdsDevice) : AttestIdsDevice := ⟨none⟩

/-- Opaque handle of an in-flight operation, the `i64` of the wire messages. -/
structure OpHandle where
  val : BitVec 64
  deriving DecidableEq, Repr

/-- An in-flight operation, by its handle: its cryptographic state belongs to `operation.rs`. -/
structure Operation where
  handle : OpHandle
  deriving DecidableEq

structure SharedSecretParameters where
  seed : Bytes
  nonce : Bytes
  deriving DecidableEq

/-! ## 4. The TA record -/

/-- KeyMint device implementation, running in secure environment. -/
structure KeyMintTa where
  hwInfo : HardwareInfo
  rpcInfo : RpcInfo
  sharedSecretParams : Option SharedSecretParameters
  bootInfo : Option BootInfo
  rotData : Option Bytes
  halInfo : Option HalInfo
  attestationIdInfo : Option AttestationIdInfo
  inEarlyBoot : Bool
  hmacKey : Option Bytes
  deviceLocked : LockState
  rotChallenge : ByteArr 16
  operations : List (Option Operation)
  useCount : UseCountTable
  presenceRequiredOp : Option OpHandle
  rng : Rng
  sddMgr : Option SddManager
  attestIds : Option AttestIdsDevice

namespace KeyMintTa

/-- Create a new `KeyMintTa` instance, given its hardware description and the initial state of
its collaborators. -/
def new (hwInfo : HardwareInfo) (rpcInfo : RpcInfo) (rng : Rng) (sddMgr : Option SddManager)
    (attestIds : Option AttestIdsDevice) : KeyMintTa :=
  let maxOperations :=
    if hwInfo.securityLevel = .strongbox then maxStrongboxOperations else maxTeeOperations
  { hwInfo, rpcInfo, rng, sddMgr, attestIds
    inEarlyBoot := true
    deviceLocked := .unlocked
    hmacKey := none
    rotChallenge := Mathlib.Vector.replicate 16 0
    operations := List.replicate maxOperations none
    useCount := fun _ => none
    presenceRequiredOp := none
    sharedSecretParams := none
    bootInfo := none
    rotData := none
    halInfo := none
    attestationIdInfo := none }

/-- Indicate whether the current device is acting as a StrongBox instance. -/
def isStrongbox (st : KeyMintTa) : Bool := st.hwInfo.securityLevel = .strongbox

/-- Return the root of trust that is bound into keyblobs. -/
def rootOfTrust (st : KeyMintTa) : Except Error Bytes :=
  match st.rotData with
  | some data => .ok data
  | none => .error (kmErr .hardwareNotYetAvailable "No root-of-trust info available")

end KeyMintTa

end KeyMint
