import KeyMint.Wire

/-!
# Cryptographic collaborators and COSE structures

The TA never implements a primitive itself: AES-GCM, HMAC, HKDF, the RNG and constant-time
comparison are trait objects injected into it, and COSE messages come from `coset`.  Each is a
record of functions here.  A stateful primitive (an AEAD or HMAC operation in progress) has an
abstract operation type, and the keyblob and TA code drive it call by call, as the Rust does.
The laws that proofs need (decryption inverts encryption, comparison is equality) are predicates
on these records, assumed only by the theorems that use them.
-/

namespace KeyMint

/-! ## 1. Random numbers -/

/-- The RNG, described by the bytes it will produce next: every RNG output is some stream. -/
structure Rng where
  stream : Nat → UInt8

/-- `Rng::fill_bytes` on an `n`-byte buffer: the next `n` bytes, and the RNG after them. -/
def Rng.fillBytes (r : Rng) (n : Nat) : ByteArr n × Rng :=
  (⟨(List.range n).map r.stream, by simp⟩, ⟨fun i => r.stream (i + n)⟩)

/-! ## 2. AES-GCM -/

inductive AesKey where
  | aes128 (k : ByteArr 16)
  | aes192 (k : ByteArr 24)
  | aes256 (k : ByteArr 32)

/-- `crypto::aes::GcmMode`; the keyblob code only uses 16-byte tags. -/
inductive GcmMode where
  | gcmTag16 (nonce : ByteArr 12)

inductive SymmetricOperation where
  | encrypt | decrypt
  deriving DecidableEq

/-- The `Aes` trait object: `begin_aead` and the `AadOperation` it returns. -/
structure Aes where
  Op : Type
  beginAead : AesKey → GcmMode → SymmetricOperation → Except Error Op
  updateAad : Op → Bytes → Except Error Op
  update : Op → Bytes → Except Error (Bytes × Op)
  finish : Op → Except Error Bytes

/-- One AEAD operation as the keyblob code drives it: begin, feed the associated data, feed the
input, and append what `finish` returns to what `update` returned. -/
def Aes.aeadSession (aes : Aes) (key : AesKey) (mode : GcmMode) (dir : SymmetricOperation)
    (aad input : Bytes) : Except Error Bytes := do
  let op ← aes.beginAead key mode dir
  let op ← aes.updateAad op aad
  let (out, op) ← aes.update op input
  let tail ← aes.finish op
  pure (out ++ tail)

/-- AES-GCM is an AEAD: under the key, nonce and associated data of a successful encryption,
decryption of its output (ciphertext followed by tag) returns the plaintext. -/
def Aes.DecryptsEncryption (aes : Aes) : Prop :=
  ∀ key mode aad pt ct, aes.aeadSession key mode .encrypt aad pt = .ok ct →
    aes.aeadSession key mode .decrypt aad ct = .ok pt

/-! ## 3. HMAC, HKDF and comparison -/

/-- The `Hmac` trait object, and `crypto::hkdf::<32>` computed with it. -/
structure Hmac where
  Op : Type
  begin : Bytes → Digest → Except Error Op
  update : Op → Bytes → Except Error Op
  finish : Op → Except Error Bytes
  hkdf : (salt ikm info : Bytes) → Except Error (ByteArr 32)

/-- An HMAC computation as the TA drives it: `begin`, one `update`, `finish`. -/
def Hmac.mac (hmac : Hmac) (key : Bytes) (digest : Digest) (data : Bytes) :
    Except Error Bytes := do
  let op ← hmac.begin key digest
  let op ← hmac.update op data
  hmac.finish op

/-- The `ConstTimeEq` trait object. -/
structure ConstTimeEq where
  eq : Bytes → Bytes → Bool

/-- The comparison answers byte equality. -/
def ConstTimeEq.IsByteEq (c : ConstTimeEq) : Prop := ∀ a b, c.eq a b = true ↔ a = b

/-! ## 4. COSE (`coset`) -/

/-- The `iana::Algorithm` values used here. -/
inductive CoseAlgorithm where
  | a256gcm | hmac256256
  deriving DecidableEq, Repr

/-- `coset::Header`, by the one field the TA sets. -/
structure Header where
  alg : Option CoseAlgorithm
  deriving DecidableEq, Repr

/-- `HeaderBuilder::new().algorithm(alg).build()`. -/
def Header.ofAlgorithm (alg : CoseAlgorithm) : Header := ⟨some alg⟩

/-- `coset::ProtectedHeader`: the header and, for a parsed message, its original bytes. -/
structure ProtectedHeader where
  originalData : Option Bytes
  header : Header
  deriving DecidableEq, Repr

structure CoseEncrypt0 where
  protectedHeader : ProtectedHeader
  unprotected : Header
  ciphertext : Option Bytes
  deriving DecidableEq, Repr

structure CoseMac0 where
  protectedHeader : ProtectedHeader
  unprotected : Header
  payload : Option Bytes
  tag : Bytes
  deriving DecidableEq, Repr

/-- `CoseEncrypt0::TAG`. -/
def coseEncrypt0Tag : UInt64 := 16

/-- `CoseMac0::TAG`. -/
def coseMac0Tag : UInt64 := 17

inductive EncryptionContext where
  | coseEncrypt | coseEncrypt0 | encRecipient | macRecipient | recRecipient

inductive MacContext where
  | coseMac | coseMac0

/-- The parts of `coset` the TA calls: the to-be-encrypted and to-be-MACed structures, and the
library's own codecs of `CoseEncrypt0` and `CoseMac0`. -/
structure Coset where
  encStructureData : EncryptionContext → ProtectedHeader → Bytes → Bytes
  macStructureData : MacContext → ProtectedHeader → Bytes → Bytes → Bytes
  encrypt0 : AsCborValue CoseEncrypt0
  mac0 : AsCborValue CoseMac0

/-- `CoseEncrypt0Builder::new().protected(header)`. -/
def CoseEncrypt0.withProtected (header : Header) : CoseEncrypt0 :=
  ⟨⟨none, header⟩, ⟨none⟩, none⟩

/-- `CoseEncrypt0Builder::try_create_ciphertext`: encrypt the plaintext with the
`Enc_structure` of the protected header and external AAD as associated data. -/
def Coset.tryCreateCiphertext (coset : Coset) (b : CoseEncrypt0) (plaintext externalAad : Bytes)
    (encryptor : Bytes → Bytes → Except Error Bytes) : Except Error CoseEncrypt0 := do
  let aad := coset.encStructureData .coseEncrypt0 b.protectedHeader externalAad
  let ct ← encryptor plaintext aad
  pure { b with ciphertext := some ct }

/-- `CoseMac0::tbm`: the `MAC_structure` over the protected header, external AAD and payload.
`coset` panics ("payload missing") on a message without payload: that panic is `none`. -/
def Coset.tbm (coset : Coset) (m : CoseMac0) (externalAad : Bytes) : Option Bytes :=
  m.payload.map (coset.macStructureData .coseMac0 m.protectedHeader externalAad)

/-- `CoseMac0Builder::try_create_tag`, which panics where `tbm` does. -/
def Coset.tryCreateTag (coset : Coset) (m : CoseMac0) (externalAad : Bytes)
    (create : Bytes → Except Error Bytes) : Option (Except Error CoseMac0) :=
  (coset.tbm m externalAad).map fun tbm => do
    let tag ← create tbm
    pure { m with tag := tag }

/-- `CoseMac0::verify_tag`: hand the received tag and the recomputed `MAC_structure` to the
verifier; it panics where `tbm` does, before the verifier runs. -/
def Coset.verifyTag (coset : Coset) (m : CoseMac0) (externalAad : Bytes)
    (verify : Bytes → Bytes → Except Error Unit) : Option (Except Error Unit) :=
  (coset.tbm m externalAad).map (verify m.tag)

@[simp] theorem Coset.tbm_of_payload {coset : Coset} {m : CoseMac0} {payload : Bytes}
    (h : m.payload = some payload) (externalAad : Bytes) :
    coset.tbm m externalAad =
      some (coset.macStructureData .coseMac0 m.protectedHeader externalAad payload) := by
  simp [Coset.tbm, h]

/-! ### What `coset`'s codecs keep

`coset` builds the `Enc_structure` and `MAC_structure` of a message from the original bytes of
its protected header when it has them, and from the header's serialization when it does not.
Its decoders fill those bytes in, so decoding an encoded message does not give it back exactly:
the protected header comes back refilled, with the same header and bytes that make the same
structures.  These laws are what the results below assume of `coset`. -/

/-- The protected header `q` is `p` refilled: the same header, making the same structures. -/
def Coset.Refills (coset : Coset) (p q : ProtectedHeader) : Prop :=
  q.header = p.header ∧
    (∀ ctx aad, coset.encStructureData ctx q aad = coset.encStructureData ctx p aad) ∧
    ∀ ctx aad payload,
      coset.macStructureData ctx q aad payload = coset.macStructureData ctx p aad payload

theorem Coset.Refills.refl (coset : Coset) (p : ProtectedHeader) : coset.Refills p p :=
  ⟨rfl, fun _ _ => rfl, fun _ _ _ => rfl⟩

/-- `coset`'s codec of `COSE_Encrypt0` gives back a message built without original bytes, with
its protected header refilled. -/
def Coset.Encrypt0Decodes (coset : Coset) : Prop :=
  ∀ e v, e.protectedHeader.originalData = none → coset.encrypt0.toCborValue e = .ok v →
    ∃ p, coset.encrypt0.fromCborValue v = .ok { e with protectedHeader := p } ∧
      coset.Refills e.protectedHeader p

/-- `coset`'s codec of `COSE_Mac0` gives back a message built without original bytes, with its
protected header refilled. -/
def Coset.Mac0Decodes (coset : Coset) : Prop :=
  ∀ m v, m.protectedHeader.originalData = none → coset.mac0.toCborValue m = .ok v →
    ∃ p, coset.mac0.fromCborValue v = .ok { m with protectedHeader := p } ∧
      coset.Refills m.protectedHeader p

/-- A codec that gives back exactly what it encoded meets the law. -/
theorem Coset.encrypt0Decodes_of_roundTrips {coset : Coset} (h : coset.encrypt0.RoundTrips) :
    coset.Encrypt0Decodes :=
  fun e v _ hv => ⟨e.protectedHeader, h e v hv, .refl coset _⟩

theorem Coset.mac0Decodes_of_roundTrips {coset : Coset} (h : coset.mac0.RoundTrips) :
    coset.Mac0Decodes :=
  fun m v _ hv => ⟨m.protectedHeader, h m v hv, .refl coset _⟩

/-! ## 5. Reference collaborators

The smallest instances of the collaborators, which satisfy the laws above and serve to
instantiate the results that assume them. -/

/-- An AEAD that passes its input through. -/
def Aes.passthrough : Aes where
  Op := Unit
  beginAead _ _ _ := .ok ()
  updateAad _ _ := .ok ()
  update _ input := .ok (input, ())
  finish _ := .ok []

theorem Aes.passthrough_decryptsEncryption : Aes.passthrough.DecryptsEncryption := by
  intro _ _ _ pt ct h
  simp_all [aeadSession, passthrough]

/-- An HMAC whose tags and derived keys are all zero. -/
def Hmac.zero : Hmac where
  Op := Unit
  begin _ _ := .ok ()
  update _ _ := .ok ()
  finish _ := .ok (List.replicate 32 0)
  hkdf _ _ _ := .ok (Mathlib.Vector.replicate 32 0)

/-- Comparison by equality. -/
def ConstTimeEq.byteEq : ConstTimeEq := ⟨fun a b => a == b⟩

theorem ConstTimeEq.byteEq_isByteEq : ConstTimeEq.byteEq.IsByteEq := by
  intro a b
  simp [byteEq]

/-- A `coset` with empty to-be-encrypted and to-be-MACed structures, whose codecs each handle one
message. -/
def Coset.single (e : CoseEncrypt0) (m : CoseMac0) : Coset :=
  ⟨fun _ _ _ => [], fun _ _ _ _ => [], .single e, .single m⟩

/-- Reference codec of `Option Bytes`: `null`, or a byte string. -/
def optBytesAsCbor : AsCborValue (Option Bytes) where
  toCborValue
    | none => .ok .null
    | some b => .ok (.bytes b)
  fromCborValue
    | .null => .ok none
    | .bytes b => .ok (some b)
    | v => cborTypeError v "bstr"

/-- Reference codec of a `Header`: the IANA value of its algorithm, or `null`. -/
def headerAsCbor : AsCborValue Header where
  toCborValue h := .ok (match h.alg with
    | none => .null
    | some .a256gcm => .integer 3
    | some .hmac256256 => .integer 5)
  fromCborValue
    | .null => .ok ⟨none⟩
    | .integer 3 => .ok ⟨some .a256gcm⟩
    | .integer 5 => .ok ⟨some .hmac256256⟩
    | v => cborTypeError v "int"

/-- Reference codec of a `COSE_Mac0`: its parts in an array. -/
def CoseMac0.referenceAsCbor : AsCborValue CoseMac0 where
  toCborValue m := do
    pure (.array [← optBytesAsCbor.toCborValue m.protectedHeader.originalData,
      ← headerAsCbor.toCborValue m.protectedHeader.header, ← headerAsCbor.toCborValue m.unprotected,
      ← optBytesAsCbor.toCborValue m.payload, .bytes m.tag])
  fromCborValue
    | .array [o, h, u, p, .bytes t] => do
      pure ⟨⟨← optBytesAsCbor.fromCborValue o, ← headerAsCbor.fromCborValue h⟩,
        ← headerAsCbor.fromCborValue u, ← optBytesAsCbor.fromCborValue p, t⟩
    | v => cborTypeError v "arr"

theorem headerAsCbor_roundTrips : headerAsCbor.RoundTrips := by
  rintro ⟨_ | _ | _⟩ v ⟨⟩ <;> rfl

theorem CoseMac0.referenceAsCbor_roundTrips : CoseMac0.referenceAsCbor.RoundTrips := by
  rintro ⟨⟨o, h⟩, u, p, t⟩ v hv
  have hh := headerAsCbor_roundTrips h _ rfl
  have hu := headerAsCbor_roundTrips u _ rfl
  cases o <;> cases p <;> cases hv <;> simp [referenceAsCbor, optBytesAsCbor, hh, hu]

/-! ## 6. Tagged serialization (`TaggedCborSerializable`) -/

variable {α : Type}

/-- `to_tagged_vec`: serialize the value wrapped in the type's CBOR tag. -/
def toTaggedVec (s : CborSerializer) (c : AsCborValue α) (tag : UInt64) (x : α) :
    Except CborError Bytes :=
  (c.toCborValue x).map fun v => s.encode (.tag tag v)

/-- `from_tagged_slice`: read exactly one item, which must carry the type's tag. -/
def fromTaggedSlice (s : CborSerializer) (c : AsCborValue α) (tag : UInt64) (data : Bytes) :
    Except CborError α := do
  let (value, rest) ← s.decode data
  if !rest.isEmpty then .error .extraneousData else
  match value with
  | .tag t v => if t = tag then c.fromCborValue v else .error (.unexpectedItem "other tag" "tag")
  | v => cborTypeError v "tag"

/-- Reading the bytes of one tagged item converts the item under the tag. -/
theorem fromTaggedSlice_encode {s : CborSerializer} {c : AsCborValue α} {tag : UInt64}
    (hs : s.RoundTrips) (v : Value) : fromTaggedSlice s c tag (s.encode (.tag tag v)) = c.fromCborValue v := by
  have hdec := hs (.tag tag v) []
  simp only [List.append_nil] at hdec
  simp [fromTaggedSlice, hdec]

theorem fromTaggedSlice_toTaggedVec {s : CborSerializer} {c : AsCborValue α} {tag : UInt64}
    (hs : s.RoundTrips) (hc : c.RoundTrips) {x : α} {data : Bytes}
    (h : toTaggedVec s c tag x = .ok data) : fromTaggedSlice s c tag data = .ok x := by
  obtain ⟨v, hv, rfl⟩ := map_eq_ok.mp h
  rw [fromTaggedSlice_encode hs, hc x v hv]

end KeyMint
