import KeyMint.Serializer
import KeyMint.Ta.UseCount
import KeyMint.Ta.Messages

/-!
# The TA's environment

`KeyMintTa` holds trait objects for its cryptographic primitives (`crypto::Implementation`) and for
per-device functionality (`device::Implementation`), and `process_req` hands most requests to
methods in `keys.rs`, `operation.rs`, `secret.rs` and `clock.rs`.  None of these is in the
repository.  `Env` gathers them: the primitives as records of functions, and each method outside
`lib.rs` as a function of the TA and the request's fields.

Such a method returns its result and the calls it made that change the TA: writes to the fields
its module owns, RNG draws, and calls to `update_use_count`, `get_attestation_ids` and the
secure-deletion manager.  `applyExtCalls` runs them through the functions `lib.rs` uses, so a
method outside `lib.rs` changes the TA only through those.
-/

namespace KeyMint

/-- Modelled from the spec: a call that changes the TA, made by a method outside `lib.rs`. -/
inductive ExtCall where
  /-- `secret.rs` latches the shared-secret parameters. -/
  | setSharedSecretParams (params : Option SharedSecretParameters)
  /-- `secret.rs` stores the negotiated HMAC key. -/
  | setHmacKey (key : Option Bytes)
  /-- `operation.rs` updates the operation table. -/
  | setOperations (operations : List (Option Operation))
  /-- `operation.rs` records the operation that requires trusted user presence. -/
  | setPresenceRequiredOp (op : Option OpHandle)
  /-- `Rng::fill_bytes` of `n` bytes. -/
  | fillBytes (n : Nat)
  /-- `update_use_count`. -/
  | updateUseCount (keyId : KeyId) (maxUses : UInt32)
  /-- `SecureDeletionSecretManager::new_secret`. -/
  | newSecret
  /-- `SecureDeletionSecretManager::delete_secret`. -/
  | deleteSecret (slot : SecureDeletionSlot)
  /-- `get_attestation_ids`. -/
  | getAttestationIds

/-- A method's result, and the calls it made. -/
abbrev Handled (α : Type) := Except Error α × List ExtCall

/-- Modelled from the spec: the methods of `KeyMintTa` outside `lib.rs` that `process_req` calls,
each given the TA and the request's fields, and the clock's reading where it may read the clock. -/
structure Handlers where
  getSharedSecretParams : KeyMintTa → Handled SharedSecretParameters
  computeSharedSecret : KeyMintTa → List SharedSecretParameters → Handled Bytes
  generateTimestamp : KeyMintTa → Timestamp → BitVec 64 → Handled TimeStampToken
  generateKey : KeyMintTa → List KeyParam → Option AttestationKey → Handled KeyCreationResult
  importKey : KeyMintTa → List KeyParam → KeyFormat → Bytes → Option AttestationKey →
    Handled KeyCreationResult
  importWrappedKey : KeyMintTa → Bytes → Bytes → Bytes → List KeyParam → BitVec 64 → BitVec 64 →
    Handled KeyCreationResult
  upgradeKey : KeyMintTa → Bytes → List KeyParam → Handled Bytes
  beginOperation : KeyMintTa → Timestamp → KeyPurpose → Bytes → List KeyParam →
    Option HardwareAuthToken → Handled BeginResult
  opUpdateAad : KeyMintTa → Timestamp → OpHandle → Bytes → Option HardwareAuthToken →
    Option TimeStampToken → Handled Unit
  opUpdate : KeyMintTa → Timestamp → OpHandle → Bytes → Option HardwareAuthToken →
    Option TimeStampToken → Handled Bytes
  opFinish : KeyMintTa → Timestamp → OpHandle → Option Bytes → Option Bytes →
    Option HardwareAuthToken → Option TimeStampToken → Option Bytes → Handled Bytes
  opAbort : KeyMintTa → OpHandle → Handled Unit

/-- The collaborators of a `KeyMintTa`. -/
structure Env where
  /-- The serializer and the `kmr_wire` codecs of keyblob contents. -/
  wire : WireCodecs
  coset : Coset
  aes : Aes
  hmac : Hmac
  compare : ConstTimeEq
  /-- `Rng::add_entropy`. -/
  addEntropy : Rng → Bytes → Rng
  /-- Whether the device has a secure clock; the clock's reading is an input of each request. -/
  clock : Bool
  /-- The device's `new_secret` policy. -/
  alloc : SlotAllocator
  /-- `EncryptedKeyBlob::kek_context`. -/
  kekContext : EncryptedKeyBlob → Bytes
  /-- `RetrieveKeyMaterial::root_kek`. -/
  rootKek : Bytes → Except Error Bytes
  /-- `tag::hidden`: the hidden parameters of a request, given the root of trust. -/
  hidden : List KeyParam → Bytes → Except Error (List KeyParam)
  /-- `StorageKeyWrapper::ephemeral_wrap`, when the device has a storage key wrapper. -/
  skWrapper : Option (KeyMaterial → Except Error Bytes)
  /-- `clock::timestamp_token_mac_input`. -/
  timestampTokenMacInput : TimeStampToken → Except Error Bytes
  /-- The codecs of `PerformOpReq` and `PerformOpResponse`. -/
  reqCodec : AsCborValue PerformOpReq
  rspCodec : AsCborValue PerformOpResponse
  handlers : Handlers

/-! ## Reference collaborators

The smallest device: every method outside `lib.rs` is unimplemented, except the shared-secret
computation, which agrees on the empty HMAC key.  With the reference serializer and `COSE_Mac0`
codec, it instantiates the results that assume those laws. -/

/-- The reply of an unimplemented method. -/
def unimplemented {α : Type} : Handled α := (.error (kmErr .unimplemented "not supported"), [])

def Handlers.reference : Handlers where
  getSharedSecretParams _ := unimplemented
  computeSharedSecret _ _ := (.ok [], [.setHmacKey (some [])])
  generateTimestamp _ _ _ := unimplemented
  generateKey _ _ _ := unimplemented
  importKey _ _ _ _ _ := unimplemented
  importWrappedKey _ _ _ _ _ _ _ := unimplemented
  upgradeKey _ _ _ := unimplemented
  beginOperation _ _ _ _ _ _ := unimplemented
  opUpdateAad _ _ _ _ _ _ := unimplemented
  opUpdate _ _ _ _ _ _ := unimplemented
  opFinish _ _ _ _ _ _ _ _ := unimplemented
  opAbort _ _ := unimplemented

def Env.reference : Env where
  wire := ⟨.reference, .nil, .nil, .single (some ⟨0⟩), .single .zero, .single (.aes [])⟩
  coset := ⟨fun _ _ _ => [], fun _ _ _ _ => [], .single .empty, CoseMac0.referenceAsCbor⟩
  aes := .passthrough
  hmac := .zero
  compare := .byteEq
  addEntropy rng _ := rng
  clock := true
  alloc := .firstSlot .zero
  kekContext _ := []
  rootKek _ := .ok []
  hidden params _ := .ok params
  skWrapper := none
  timestampTokenMacInput _ := .ok []
  reqCodec := .unsupported
  rspCodec := .unsupported
  handlers := .reference

/-- The `COSE_Encrypt0` that `encrypt` makes of the AES key material `[]`, whose encoding is
`null`, under an AEAD that passes the plaintext through. -/
def teeKeygenCose : CoseEncrypt0 :=
  { CoseEncrypt0.withProtected (.ofAlgorithm .a256gcm) with
    ciphertext := some (CborSerializer.reference.encode .null) }

/-- A TEE with the reference collaborators, whose key generation reserves a secure-deletion slot,
and whose codecs handle the keyblob of a generated AES key with the secure-deletion slot
`slot`. -/
def Env.teeKeygen (slot : Option SecureDeletionSlot) : Env :=
  { Env.reference with
    wire := ⟨.reference, teeGeneratedCharsAsCbor, .nil, .single slot, .single .zero,
      .single (.aes [])⟩
    coset := { Env.reference.coset with encrypt0 := .single teeKeygenCose }
    handlers := { Handlers.reference with
      generateKey := fun _ _ _ => (.ok ⟨[], [], []⟩, [.newSecret]) } }

theorem Env.teeKeygen_keyMaterial (slot : Option SecureDeletionSlot) (data : Bytes)
    (h : intoVec (Env.teeKeygen slot).wire.serializer (Env.teeKeygen slot).wire.keyMaterial
      (.aes []) = .ok data) :
    fromSlice (Env.teeKeygen slot).wire.serializer (Env.teeKeygen slot).wire.keyMaterial data =
      .ok (.aes []) :=
  fromSlice_intoVec CborSerializer.reference_roundTrips (AsCborValue.single_roundTrips _) h

end KeyMint
