import KeyMint.Crypto

/-!
# Keyblob data model and its CBOR codec

`keyblob.rs` lines 1-128: the versioned keyblob envelope `[version, inner]`, the V1 keyblob, the
tag-16 wrapping of its `CoseEncrypt0`, and the plaintext side.  The codecs of the field types
(`Vec<KeyCharacteristics>`, `Option<SecureDeletionSlot>`, ...) belong to `kmr_wire` and the
`AsCborValue` derive macro, neither of which is in this repository: they are the parameters
`WireCodecs`, and the shape the derive gives a struct is modelled from the spec's wire format.

Main results: the codec round trip `EncryptedKeyBlob.fromCborValue_toCborValue`, and
`EncryptedKeyBlob.fromCborValue_grammar`, that the decoder accepts exactly the values of the
grammar `EncryptedKeyBlob.wellFormed`, with both `Vec::remove` calls in bounds.
-/

namespace KeyMint

/-! ## 1. Data model -/

/-- Identifier for secure deletion secret storage slot. -/
structure SecureDeletionSlot where
  val : UInt32
  deriving DecidableEq, Repr, Inhabited

/-- Keyblob format version. -/
inductive Version where
  | v1
  deriving DecidableEq, Repr

/-- Encrypted key material, as translated to/from CBOR. -/
structure EncryptedKeyBlobV1 where
  characteristics : List KeyCharacteristics
  keyDerivationInput : ByteArr 32
  encryptedKeyMaterial : CoseEncrypt0
  secureDeletionSlot : Option SecureDeletionSlot

inductive EncryptedKeyBlob where
  | v1 (inner : EncryptedKeyBlobV1)

/-- Modelled from the spec: `EncryptedKeyBlob::secure_deletion_slot`. -/
def EncryptedKeyBlob.secureDeletionSlot : EncryptedKeyBlob → Option SecureDeletionSlot
  | .v1 inner => inner.secureDeletionSlot

/-- Secret data mixed into the key derivation of keys that need secure deletion. -/
structure SecureDeletionData where
  factoryResetSecret : ByteArr 32
  secureDeletionSecret : ByteArr 16
  deriving DecidableEq

/-- Modelled from the spec: `crypto::PlaintextKeyMaterial`, a variant over the key types. -/
inductive KeyMaterial where
  | aes (key : Bytes)
  | tripleDes (key : Bytes)
  | hmac (key : Bytes)
  | rsa (key : Bytes)
  | ec (curve : EcCurve) (key : Bytes)
  deriving DecidableEq

/-- Plaintext key blob. -/
structure PlaintextKeyBlob where
  characteristics : List KeyCharacteristics
  keyMaterial : KeyMaterial

/-- `characteristics_at`: the authorizations of the first entry at the given security level. -/
def characteristicsAt : List KeyCharacteristics → SecurityLevel → Except Error (List KeyParam)
  | [], secLevel => .error (kmErr .invalidKeyBlob
      ("no parameters at security level " ++ reprStr secLevel ++ " found"))
  | chars :: rest, secLevel =>
      if chars.securityLevel = secLevel then .ok chars.authorizations
      else characteristicsAt rest secLevel

/-! ## 2. Codecs -/

/-- The `kmr_wire` codecs and serializer that the keyblob code relies on. -/
structure WireCodecs where
  serializer : CborSerializer
  characteristics : AsCborValue (List KeyCharacteristics)
  params : AsCborValue (List KeyParam)
  slot : AsCborValue (Option SecureDeletionSlot)
  sdd : AsCborValue SecureDeletionData
  keyMaterial : AsCborValue KeyMaterial

/-- A secure-deletion secret of all zeroes. -/
def SecureDeletionData.zero : SecureDeletionData :=
  ⟨Mathlib.Vector.replicate 32 0, Mathlib.Vector.replicate 16 0⟩

/-- Reference codecs: keyblobs with no characteristics and no slot, and one AES key. -/
def WireCodecs.reference : WireCodecs :=
  ⟨.null, .nil, .nil, .single none, .single .zero, .single (.aes [])⟩

/-- `Vec::remove`: the element at `i` and the vector without it. -/
def vecRemove {α : Type} [Inhabited α] (a : List α) (i : Nat) : α × List α :=
  (a.get! i, a.eraseIdx i)

/-- Modelled from the spec: the derived codec of `Version`, `V1 = 0`. -/
def Version.asCbor : AsCborValue Version where
  toCborValue
    | .v1 => .ok (.integer 0)
  fromCborValue
    | .integer 0 => .ok .v1
    | .integer _ => .error .nonEnumValue
    | v => cborTypeError v "int"

/-- The local `AsCborValue` of `coset::CoseEncrypt0`: coset's own encoding under CBOR tag 16. -/
def coseEncrypt0AsCbor (coset : Coset) : AsCborValue CoseEncrypt0 where
  toCborValue x := (coset.encrypt0.toCborValue x).map (.tag coseEncrypt0Tag)
  fromCborValue
    | .tag t v =>
        if t = coseEncrypt0Tag then coset.encrypt0.fromCborValue v
        else .error (.unexpectedItem "tag" "tag 16")
    | v => cborTypeError v "tag 16"

/-- Modelled from the spec: the derived codec of `EncryptedKeyBlobV1`, the array of its four
fields in declaration order. -/
def EncryptedKeyBlobV1.asCbor (w : WireCodecs) (coset : Coset) : AsCborValue EncryptedKeyBlobV1 where
  toCborValue b := do
    let c ← w.characteristics.toCborValue b.characteristics
    let k ← (byteArrAsCbor 32).toCborValue b.keyDerivationInput
    let e ← (coseEncrypt0AsCbor coset).toCborValue b.encryptedKeyMaterial
    let s ← w.slot.toCborValue b.secureDeletionSlot
    pure (.array [c, k, e, s])
  fromCborValue
    | .array [c, k, e, s] => do
        let characteristics ← w.characteristics.fromCborValue c
        let keyDerivationInput ← (byteArrAsCbor 32).fromCborValue k
        let encryptedKeyMaterial ← (coseEncrypt0AsCbor coset).fromCborValue e
        let secureDeletionSlot ← w.slot.fromCborValue s
        pure ⟨characteristics, keyDerivationInput, encryptedKeyMaterial, secureDeletionSlot⟩
    | v => cborTypeError v "arr len 4"

/-- `impl AsCborValue for EncryptedKeyBlob`: the two-element array `[version, inner]`, taken apart
with two `Vec::remove` calls. -/
def EncryptedKeyBlob.asCbor (w : WireCodecs) (coset : Coset) : AsCborValue EncryptedKeyBlob where
  fromCborValue value :=
    match value with
    | .array a =>
        if a.length = 2 then do
          let (inner, a) := vecRemove a 1
          let version ← Version.asCbor.fromCborValue (vecRemove a 0).1
          match version with
          | .v1 => return .v1 (← (EncryptedKeyBlobV1.asCbor w coset).fromCborValue inner)
        else cborTypeError value "arr len 2"
    | _ => cborTypeError value "arr len 2"
  toCborValue
    | .v1 inner => do
        let v ← Version.asCbor.toCborValue .v1
        let i ← (EncryptedKeyBlobV1.asCbor w coset).toCborValue inner
        pure (.array [v, i])

/-- Modelled from the spec: `EncryptedKeyBlob::new`, the parse of a keyblob's bytes, where every
failure is an invalid keyblob. -/
def EncryptedKeyBlob.new (w : WireCodecs) (coset : Coset) (data : Bytes) :
    Except Error EncryptedKeyBlob :=
  mapErrTo (kmErr .invalidKeyBlob "failed to parse keyblob")
    (fromSlice w.serializer (EncryptedKeyBlob.asCbor w coset) data)

/-! ## 3. Round trip -/

section RoundTrip

variable {w : WireCodecs} {coset : Coset}

/-- The tag-16 wrapper is undone exactly: decoding gives back what coset's decoder gives on
coset's encoding. -/
theorem coseEncrypt0AsCbor_fromCborValue {x : CoseEncrypt0} {v : Value}
    (h : (coseEncrypt0AsCbor coset).toCborValue x = .ok v) :
    ∃ cv, coset.encrypt0.toCborValue x = .ok cv ∧
      (coseEncrypt0AsCbor coset).fromCborValue v = coset.encrypt0.fromCborValue cv := by
  obtain ⟨cv, hcv, rfl⟩ := map_eq_ok.mp h
  exact ⟨cv, hcv, by simp [coseEncrypt0AsCbor]⟩

/-- The V1 round trip: every field comes back as its codec gives it back, and the `CoseEncrypt0`
as coset's decoder gives it back from coset's encoding. -/
theorem EncryptedKeyBlobV1.fromCborValue_of_toCborValue
    (hc : w.characteristics.RoundTrips) (hs : w.slot.RoundTrips) {b : EncryptedKeyBlobV1}
    {v : Value} (h : (EncryptedKeyBlobV1.asCbor w coset).toCborValue b = .ok v) :
    ∃ cv, coset.encrypt0.toCborValue b.encryptedKeyMaterial = .ok cv ∧
      (EncryptedKeyBlobV1.asCbor w coset).fromCborValue v =
        (coset.encrypt0.fromCborValue cv).map fun e => { b with encryptedKeyMaterial := e } := by
  simp only [EncryptedKeyBlobV1.asCbor, bind_eq_ok, except_pure_eq, Except.ok.injEq] at h
  obtain ⟨c, hcv, k, hkv, e, hev, s, hsv, rfl⟩ := h
  obtain ⟨cv, hcv', hdec⟩ := coseEncrypt0AsCbor_fromCborValue hev
  refine ⟨cv, hcv', ?_⟩
  simp only [EncryptedKeyBlobV1.asCbor, hc _ _ hcv, byteArrAsCbor_roundTrips 32 _ _ hkv, hdec,
    hs _ _ hsv, ok_bind]
  cases coset.encrypt0.fromCborValue cv <;> rfl

/-- The envelope `[V1, inner]` of an encoded keyblob. -/
theorem EncryptedKeyBlob.toCborValue_v1 (inner : EncryptedKeyBlobV1) :
    (EncryptedKeyBlob.asCbor w coset).toCborValue (.v1 inner) =
      ((EncryptedKeyBlobV1.asCbor w coset).toCborValue inner).map
        fun i => .array [.integer 0, i] := by
  simp only [EncryptedKeyBlob.asCbor, Version.asCbor, ok_bind]
  cases (EncryptedKeyBlobV1.asCbor w coset).toCborValue inner <;> rfl

/-- The decoder undoes the envelope `[V1, inner]` exactly. -/
theorem EncryptedKeyBlob.fromCborValue_v1 (i : Value) :
    (EncryptedKeyBlob.asCbor w coset).fromCborValue (.array [.integer 0, i]) =
      ((EncryptedKeyBlobV1.asCbor w coset).fromCborValue i).map .v1 := by
  cases h : (EncryptedKeyBlobV1.asCbor w coset).fromCborValue i <;>
    simp [EncryptedKeyBlob.asCbor, vecRemove, Version.asCbor, h, Except.map]

/-- The keyblob round trip through the envelope: the V1 round trip, with `[V1, inner]` undone. -/
theorem EncryptedKeyBlob.fromCborValue_of_toCborValue
    (hc : w.characteristics.RoundTrips) (hs : w.slot.RoundTrips) {b : EncryptedKeyBlobV1}
    {v : Value} (h : (EncryptedKeyBlob.asCbor w coset).toCborValue (.v1 b) = .ok v) :
    ∃ cv, coset.encrypt0.toCborValue b.encryptedKeyMaterial = .ok cv ∧
      (EncryptedKeyBlob.asCbor w coset).fromCborValue v =
        (coset.encrypt0.fromCborValue cv).map fun e => .v1 { b with encryptedKeyMaterial := e } := by
  rw [EncryptedKeyBlob.toCborValue_v1, map_eq_ok] at h
  obtain ⟨i, hi, rfl⟩ := h
  obtain ⟨cv, hcv, hdec⟩ := EncryptedKeyBlobV1.fromCborValue_of_toCborValue hc hs hi
  refine ⟨cv, hcv, ?_⟩
  rw [EncryptedKeyBlob.fromCborValue_v1, hdec]
  cases coset.encrypt0.fromCborValue cv <;> rfl

/-- **Keyblob codec round trip.**  Whenever a keyblob encodes, decoding its encoding gives it
back with every field as its codec gives it back, the `[V1, inner]` envelope and the tag-16
wrapper undone exactly, and the `CoseEncrypt0` as coset's own decoder gives it back from coset's
own encoding. -/
theorem EncryptedKeyBlob.fromCborValue_toCborValue
    (hc : w.characteristics.RoundTrips) (hs : w.slot.RoundTrips) (b : EncryptedKeyBlobV1)
    (v : Value) (h : (EncryptedKeyBlob.asCbor w coset).toCborValue (.v1 b) = .ok v) :
    ∃ cv, coset.encrypt0.toCborValue b.encryptedKeyMaterial = .ok cv ∧
      (EncryptedKeyBlob.asCbor w coset).fromCborValue v =
        (coset.encrypt0.fromCborValue cv).map fun e => .v1 { b with encryptedKeyMaterial := e } :=
  EncryptedKeyBlob.fromCborValue_of_toCborValue hc hs h

/-- The `CoseEncrypt0` of an empty ciphertext under the keyblob header. -/
def CoseEncrypt0.empty : CoseEncrypt0 :=
  { CoseEncrypt0.withProtected (.ofAlgorithm .a256gcm) with ciphertext := some [] }

/-- The reference keyblob, with no characteristics, no slot and an empty ciphertext. -/
theorem EncryptedKeyBlob.fromCborValue_reference :
    let coset := Coset.single .empty ⟨⟨none, ⟨none⟩⟩, ⟨none⟩, none, []⟩
    let b : EncryptedKeyBlobV1 := ⟨[], Mathlib.Vector.replicate 32 0, .empty, none⟩
    ∃ cv, coset.encrypt0.toCborValue b.encryptedKeyMaterial = .ok cv ∧
      (EncryptedKeyBlob.asCbor .reference coset).fromCborValue
          (.array [.integer 0,
            .array [.array [], .bytes (List.replicate 32 0), .tag coseEncrypt0Tag .null, .null]]) =
        (coset.encrypt0.fromCborValue cv).map fun e => .v1 { b with encryptedKeyMaterial := e } :=
  EncryptedKeyBlob.fromCborValue_toCborValue AsCborValue.nil_roundTrips
    (AsCborValue.single_roundTrips _) _ _ rfl

/-- The bytes `into_vec` writes for a keyblob whose `CoseEncrypt0` was built, not parsed, read
back through `EncryptedKeyBlob::new` with its protected header refilled by coset's decoder. -/
theorem EncryptedKeyBlob.new_of_intoVec (hser : w.serializer.RoundTrips)
    (hc : w.characteristics.RoundTrips) (hs : w.slot.RoundTrips) (hcose : coset.Encrypt0Decodes)
    {b : EncryptedKeyBlobV1} (hb : b.encryptedKeyMaterial.protectedHeader.originalData = none)
    {data : Bytes} (h : intoVec w.serializer (EncryptedKeyBlob.asCbor w coset) (.v1 b) = .ok data) :
    ∃ p, EncryptedKeyBlob.new w coset data =
        .ok (.v1 { b with encryptedKeyMaterial := { b.encryptedKeyMaterial with protectedHeader := p } }) ∧
      coset.Refills b.encryptedKeyMaterial.protectedHeader p := by
  obtain ⟨v, hv, rfl⟩ := map_eq_ok.mp h
  obtain ⟨cv, hcv, hdec⟩ := EncryptedKeyBlob.fromCborValue_of_toCborValue hc hs hv
  obtain ⟨p, hp, hrefill⟩ := hcose _ cv hb hcv
  refine ⟨p, ?_, hrefill⟩
  simp [EncryptedKeyBlob.new, fromSlice_encode hser, hdec, hp]

end RoundTrip

/-! ## 4. The decoder's grammar -/

/-- The keyblob grammar, `[0, [characteristics, key_derivation_input, 16(cose_encrypt0), slot]]`,
with each field one that its own decoder accepts. -/
def EncryptedKeyBlob.wellFormed (w : WireCodecs) (coset : Coset) : Value → Bool
  | .array [.integer 0, .array [c, k, .tag t e, s]] =>
    t == coseEncrypt0Tag && (w.characteristics.fromCborValue c).isOk &&
      ((byteArrAsCbor 32).fromCborValue k).isOk && (coset.encrypt0.fromCborValue e).isOk &&
      (w.slot.fromCborValue s).isOk
  | _ => false

section Grammar

variable {w : WireCodecs} {coset : Coset}

@[simp] theorem Version.fromCborValue_eq_ok {v : Value} {x : Version} :
    Version.asCbor.fromCborValue v = .ok x ↔ v = .integer 0 := by
  cases x
  dsimp only [Version.asCbor]
  split <;> simp_all

theorem isOk_iff_exists {ε α : Type} {r : Except ε α} : r.isOk = true ↔ ∃ x, r = .ok x := by
  cases r <;> simp [Except.isOk, Except.toBool]

theorem coseEncrypt0AsCbor_fromCborValue_eq_ok {v : Value} {x : CoseEncrypt0} :
    (coseEncrypt0AsCbor coset).fromCborValue v = .ok x ↔
      ∃ e, v = .tag coseEncrypt0Tag e ∧ coset.encrypt0.fromCborValue e = .ok x := by
  dsimp only [coseEncrypt0AsCbor]
  split
  · split <;> simp_all
  · simp_all

/-- What the V1 decoder accepts: a four-element array whose third element carries tag 16, each
field accepted by its decoder. -/
theorem EncryptedKeyBlobV1.fromCborValue_eq_ok {v : Value} {b : EncryptedKeyBlobV1} :
    (EncryptedKeyBlobV1.asCbor w coset).fromCborValue v = .ok b ↔
      ∃ c k e s, v = .array [c, k, .tag coseEncrypt0Tag e, s] ∧
        w.characteristics.fromCborValue c = .ok b.characteristics ∧
        (byteArrAsCbor 32).fromCborValue k = .ok b.keyDerivationInput ∧
        coset.encrypt0.fromCborValue e = .ok b.encryptedKeyMaterial ∧
        w.slot.fromCborValue s = .ok b.secureDeletionSlot := by
  dsimp only [EncryptedKeyBlobV1.asCbor]
  split
  · obtain ⟨bc, bk, be, bs⟩ := b
    simp only [bind_eq_ok, except_pure_eq, Except.ok.injEq, EncryptedKeyBlobV1.mk.injEq,
      coseEncrypt0AsCbor_fromCborValue_eq_ok, Value.array.injEq, List.cons.injEq, and_true]
    constructor
    · rintro ⟨_, hc, _, hk, _, ⟨e, rfl, he⟩, _, hs, rfl, rfl, rfl, rfl⟩
      exact ⟨_, _, e, _, ⟨rfl, rfl, rfl, rfl⟩, hc, hk, he, hs⟩
    · rintro ⟨_, _, e, _, ⟨rfl, rfl, rfl, rfl⟩, hc, hk, he, hs⟩
      exact ⟨_, hc, _, hk, _, ⟨e, rfl, he⟩, _, hs, rfl, rfl, rfl, rfl⟩
  · rename_i hne
    simp only [cborTypeError_ne_ok, false_iff, not_exists, not_and]
    rintro c k e s rfl
    exact (hne c k _ s rfl).elim

/-- What the keyblob decoder accepts: the array `[0, inner]` with `inner` accepted by the V1
decoder. -/
theorem EncryptedKeyBlob.fromCborValue_eq_ok {v : Value} {b : EncryptedKeyBlob} :
    (EncryptedKeyBlob.asCbor w coset).fromCborValue v = .ok b ↔
      ∃ inner ib, v = .array [.integer 0, inner] ∧
        (EncryptedKeyBlobV1.asCbor w coset).fromCborValue inner = .ok ib ∧ b = .v1 ib := by
  dsimp only [EncryptedKeyBlob.asCbor]
  split
  · rename_i a
    split
    · rename_i hlen
      match a, hlen with
      | [x, y], _ =>
        simp only [show vecRemove [x, y] 1 = (y, [x]) from rfl,
          show vecRemove [x] 0 = (x, []) from rfl, bind_eq_ok, Version.fromCborValue_eq_ok,
          except_pure_eq, Except.ok.injEq]
        constructor
        · rintro ⟨ver, rfl, ib, hib, rfl⟩
          cases ver
          exact ⟨y, ib, rfl, hib, rfl⟩
        · rintro ⟨inner, ib, h, hib, rfl⟩
          simp only [Value.array.injEq, List.cons.injEq, and_true] at h
          obtain ⟨rfl, rfl⟩ := h
          exact ⟨.v1, rfl, ib, hib, rfl⟩
    · simp only [cborTypeError_ne_ok, false_iff, not_exists, not_and]
      rintro inner ib h
      cases h
      simp_all
  · simp only [cborTypeError_ne_ok, false_iff, not_exists, not_and]
    rintro inner ib rfl
    simp_all

theorem EncryptedKeyBlob.accepted_iff_wellFormed {v : Value} :
    (∃ b, (EncryptedKeyBlob.asCbor w coset).fromCborValue v = .ok b) ↔
      EncryptedKeyBlob.wellFormed w coset v = true := by
  simp only [EncryptedKeyBlob.fromCborValue_eq_ok, EncryptedKeyBlobV1.fromCborValue_eq_ok]
  constructor
  · rintro ⟨_, _, _, rfl, ⟨c, k, e, s, rfl, hc, hk, he, hs⟩, rfl⟩
    simp [EncryptedKeyBlob.wellFormed, hc, hk, he, hs, Except.isOk, Except.toBool]
  · intro h
    unfold EncryptedKeyBlob.wellFormed at h
    split at h
    · simp only [Bool.and_eq_true, beq_iff_eq, isOk_iff_exists] at h
      obtain ⟨⟨⟨⟨rfl, xc, hc⟩, xk, hk⟩, xe, he⟩, xs, hs⟩ := h
      exact ⟨_, _, ⟨xc, xk, xe, xs⟩, rfl, ⟨_, _, _, _, rfl, hc, hk, he, hs⟩, rfl⟩
    · cases h

end Grammar

/-- **The keyblob decoder accepts exactly its grammar.**  For every CBOR value: the two
`Vec::remove` calls index within the array, since the length check comes first; a value is
accepted only as `[version, inner]` with the version decoding to `V1` and `inner` accepted by the
V1 decoder, whose encrypted key material is tag 16 around a `CoseEncrypt0`; and the values
accepted are exactly those of the grammar, so any other shape, version or tag is an error. -/
theorem EncryptedKeyBlob.fromCborValue_grammar (w : WireCodecs) (coset : Coset) (v : Value) :
    (∀ a, v = .array a → a.length = 2 → 1 < a.length ∧ 0 < (vecRemove a 1).2.length) ∧
    (∀ b, (EncryptedKeyBlob.asCbor w coset).fromCborValue v = .ok b →
      ∃ version inner ib, v = .array [version, inner] ∧
        Version.asCbor.fromCborValue version = .ok .v1 ∧
        (EncryptedKeyBlobV1.asCbor w coset).fromCborValue inner = .ok ib ∧ b = .v1 ib ∧
        ∃ c k e s, inner = .array [c, k, .tag coseEncrypt0Tag e, s] ∧
          coset.encrypt0.fromCborValue e = .ok ib.encryptedKeyMaterial) ∧
    ((∃ b, (EncryptedKeyBlob.asCbor w coset).fromCborValue v = .ok b) ↔
      EncryptedKeyBlob.wellFormed w coset v = true) := by
  refine ⟨fun a _ ha => by simp [vecRemove, List.length_eraseIdx, ha], fun b hb => ?_,
    EncryptedKeyBlob.accepted_iff_wellFormed⟩
  obtain ⟨inner, ib, rfl, hib, rfl⟩ := EncryptedKeyBlob.fromCborValue_eq_ok.mp hb
  obtain ⟨c, k, e, s, rfl, -, -, he, -⟩ := EncryptedKeyBlobV1.fromCborValue_eq_ok.mp hib
  exact ⟨_, _, ib, rfl, rfl, hib, rfl, c, k, e, s, rfl, he⟩

end KeyMint
