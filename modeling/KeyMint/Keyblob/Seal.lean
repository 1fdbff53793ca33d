import KeyMint.Serializer
import KeyMint.Keyblob.Sdd

/-!
# Keyblob sealing: `derive_kek`, `encrypt` and `decrypt`

`keyblob.rs` lines 190-372.  A keyblob's key encryption key is derived by HKDF from the root key
and an info string that binds the random key derivation input, the characteristics, the hidden
parameters and the secure-deletion secret.  The key material is sealed with AES-256-GCM under a
zero nonce inside a `CoseEncrypt0`, whose `Enc_structure` is the associated data.

Three results: `decrypt_encrypt`, the seal/unseal round trip; `encrypt_slot_discipline`, that a
reserved secure-deletion slot ends up in the keyblob or is released; and `kekInfo_injective`, that
the HKDF info binds all four of its inputs when they serialize as CBOR items.
-/

namespace KeyMint

/-! ## 1. Key derivation -/

/-- Nonce value of all zeroes used in AES-GCM key encryption. -/
def zeroNonce : ByteArr 12 := Mathlib.Vector.replicate 12 0

/-- The HKDF info of `derive_kek`: the key derivation input, then the serialized
characteristics, hidden parameters and, when present, secure-deletion data. -/
def kekInfo (w : WireCodecs) (keyDerivationInput : ByteArr 32)
    (characteristics : List KeyCharacteristics) (hidden : List KeyParam)
    (sdd : Option SecureDeletionData) : Except Error Bytes := do
  let info := keyDerivationInput.toList
  let info := info ++ (← liftCbor (intoVec w.serializer w.characteristics characteristics))
  let info := info ++ (← liftCbor (intoVec w.serializer w.params hidden))
  match sdd with
  | some sdd => return info ++ (← liftCbor (intoVec w.serializer w.sdd sdd))
  | none => pure info

/-- `derive_kek`: an AES-256 key by HKDF with an empty salt. -/
def deriveKek (w : WireCodecs) (hmac : Hmac) (rootKey : Bytes) (keyDerivationInput : ByteArr 32)
    (characteristics : List KeyCharacteristics) (hidden : List KeyParam)
    (sdd : Option SecureDeletionData) : Except Error AesKey := do
  let info ← kekInfo w keyDerivationInput characteristics hidden sdd
  let data ← hmac.hkdf [] rootKey info
  pure (.aes256 data)

/-! ## 2. `encrypt` -/

/-- Whether secure deletion is required: some authorization, at any security level, is
`RollbackResistance` or `UsageCountLimit(1)`. -/
def requiresSdd (characteristics : List KeyCharacteristics) : Bool :=
  characteristics.any fun chars => chars.authorizations.any fun
    | .rollbackResistance => true
    | .usageCountLimit v => v == 1
    | _ => false

/-- The AEAD step of `encrypt`, the closure given to `try_create_ciphertext`. -/
def sealAead (aes : Aes) (kek : AesKey) (pt aad : Bytes) : Except Error Bytes :=
  aes.aeadSession kek (.gcmTag16 zeroNonce) .encrypt aad pt

/-- The part of `encrypt` after any slot is reserved: draw the key derivation input, derive the
KEK, and encrypt the serialized key material into a `CoseEncrypt0`. -/
def sealKeyMaterial (w : WireCodecs) (coset : Coset) (aes : Aes) (hmac : Hmac) (rng : Rng)
    (rootKey : Bytes) (plaintextKeyblob : PlaintextKeyBlob) (hidden : List KeyParam)
    (sdd : Option SecureDeletionData) : Except Error (ByteArr 32 × CoseEncrypt0) × Rng :=
  let (keyDerivationInput, rng) := rng.fillBytes 32
  ((do
    let kek ← deriveKek w hmac rootKey keyDerivationInput plaintextKeyblob.characteristics hidden sdd
    let pt ← liftCbor (intoVec w.serializer w.keyMaterial plaintextKeyblob.keyMaterial)
    let coseEncrypt ← coset.tryCreateCiphertext (.withProtected (.ofAlgorithm .a256gcm)) pt []
      (sealAead aes kek)
    pure (keyDerivationInput, coseEncrypt)), rng)

/-- `encrypt`: the keyblob, and the secret store and RNG afterwards.  A reserved slot is held by
a `SlotHolder`, consumed into the keyblob on success and dropped on every error. -/
def encrypt (w : WireCodecs) (coset : Coset) (alloc : SlotAllocator)
    (sddMgr : Option SddManager) (aes : Aes) (hmac : Hmac) (rng : Rng) (rootKey : Bytes)
    (plaintextKeyblob : PlaintextKeyBlob) (hidden : List KeyParam) :
    Except Error EncryptedKeyBlob × Option SddManager × Rng :=
  let blob (sealed : ByteArr 32 × CoseEncrypt0) (slot : Option SecureDeletionSlot) :
      EncryptedKeyBlob :=
    .v1 ⟨plaintextKeyblob.characteristics, sealed.1, sealed.2, slot⟩
  match requiresSdd plaintextKeyblob.characteristics, sddMgr with
  | true, some mgr =>
      match SlotHolder.new alloc mgr rng with
      | .error e => (.error e, some mgr, rng)
      | .ok ((holder, sdd), mgr, rng) =>
          match sealKeyMaterial w coset aes hmac rng rootKey plaintextKeyblob hidden (some sdd) with
          | (.ok sealed, rng) =>
              let (slot, holder) := holder.consume
              (.ok (blob sealed (some slot)), some (holder.drop mgr), rng)
          | (.error e, rng) => (.error e, some (holder.drop mgr), rng)
  | true, none =>
      (.error (kmErr .rollbackResistanceUnavailable "no secure secret storage available"), none, rng)
  | false, mgr =>
      let (r, rng) := sealKeyMaterial w coset aes hmac rng rootKey plaintextKeyblob hidden none
      (r.map fun sealed => blob sealed none, mgr, rng)

/-! ## 3. `decrypt` -/

/-- The first step of `decrypt`: the secret of the keyblob's slot, if it has one. -/
def sddOfSlot (slot : Option SecureDeletionSlot) (sddMgr : Option SddManager) :
    Except Error (Option SecureDeletionData) :=
  match slot, sddMgr with
  | some slot, some mgr => some <$> mgr.getSecret slot
  | some _, none =>
      .error (kmErr .invalidKeyBlob "keyblob has sdd slot but no secure storage available")
  | none, _ => pure none

@[simp] theorem sddOfSlot_none (sddMgr : Option SddManager) : sddOfSlot none sddMgr = .ok none :=
  by cases sddMgr <;> rfl

@[simp] theorem sddOfSlot_insert (mgr : SddManager) (slot : SecureDeletionSlot)
    (sdd : SecureDeletionData) : sddOfSlot (some slot) (some (mgr.insert slot sdd)) = .ok (some sdd) :=
  by simp [sddOfSlot, Functor.map, Except.map]

/-- `decrypt`: fetch the slot's secret, re-derive the KEK, and open the `CoseEncrypt0` with its
`Enc_structure` as associated data. -/
def decrypt (w : WireCodecs) (coset : Coset) (sddMgr : Option SddManager) (aes : Aes) (hmac : Hmac)
    (rootKey : Bytes) (encryptedKeyblob : EncryptedKeyBlob) (hidden : List KeyParam) :
    Except Error PlaintextKeyBlob := do
  let .v1 encryptedKeyblob := encryptedKeyblob
  let sdd ← sddOfSlot encryptedKeyblob.secureDeletionSlot sddMgr
  let kek ← deriveKek w hmac rootKey encryptedKeyblob.keyDerivationInput
    encryptedKeyblob.characteristics hidden sdd
  let coseEncrypt := encryptedKeyblob.encryptedKeyMaterial
  let extendedAad := coset.encStructureData .coseEncrypt0 coseEncrypt.protectedHeader []
  let ptData ← aes.aeadSession kek (.gcmTag16 zeroNonce) .decrypt extendedAad
    (coseEncrypt.ciphertext.getD [])
  let keyMaterial ← liftCbor (fromSlice w.serializer w.keyMaterial ptData)
  pure ⟨encryptedKeyblob.characteristics, keyMaterial⟩

/-! ## 4. Round trip -/

section Sealing

variable {w : WireCodecs} {coset : Coset} {aes : Aes} {hmac : Hmac} {rng rng' : Rng}
  {rootKey : Bytes} {pkb : PlaintextKeyBlob} {hidden : List KeyParam}

/-- What a successful seal did: the KEK it derived, and a ciphertext that is the AEAD
encryption of the serialized key material under the `Enc_structure` of the stored header. -/
theorem sealKeyMaterial_eq_ok {sdd : Option SecureDeletionData} {kdi : ByteArr 32}
    {cose : CoseEncrypt0}
    (h : sealKeyMaterial w coset aes hmac rng rootKey pkb hidden sdd = (.ok (kdi, cose), rng')) :
    ∃ kek pt ct, deriveKek w hmac rootKey kdi pkb.characteristics hidden sdd = .ok kek ∧
      liftCbor (intoVec w.serializer w.keyMaterial pkb.keyMaterial) = .ok pt ∧
      sealAead aes kek pt (coset.encStructureData .coseEncrypt0 cose.protectedHeader []) = .ok ct ∧
      cose = { CoseEncrypt0.withProtected (.ofAlgorithm .a256gcm) with ciphertext := some ct } := by
  simp only [sealKeyMaterial, Prod.mk.injEq, bind_eq_ok, Coset.tryCreateCiphertext,
    except_pure_eq, Except.ok.injEq] at h
  obtain ⟨⟨kek, hkek, pt, hpt, _, ⟨ct, hct, rfl⟩, rfl, rfl⟩, -⟩ := h
  exact ⟨kek, pt, ct, hkek, hpt, hct, rfl⟩

/-- Opening a V1 keyblob whose slot lookup yields the secret it was sealed with. -/
theorem decrypt_of_sealed (haes : aes.DecryptsEncryption) {sddMgr : Option SddManager}
    {kdi : ByteArr 32} {cose : CoseEncrypt0} {slot : Option SecureDeletionSlot}
    {sdd : Option SecureDeletionData}
    (hseal : sealKeyMaterial w coset aes hmac rng rootKey pkb hidden sdd = (.ok (kdi, cose), rng'))
    (hkm : ∀ data, intoVec w.serializer w.keyMaterial pkb.keyMaterial = .ok data →
      fromSlice w.serializer w.keyMaterial data = .ok pkb.keyMaterial)
    (hsdd : sddOfSlot slot sddMgr = .ok sdd) :
    decrypt w coset sddMgr aes hmac rootKey (.v1 ⟨pkb.characteristics, kdi, cose, slot⟩) hidden =
      .ok pkb := by
  obtain ⟨kek, pt, ct, hkek, hpt, hct, rfl⟩ := sealKeyMaterial_eq_ok hseal
  obtain ⟨data, hdata, rfl⟩ : ∃ data, intoVec w.serializer w.keyMaterial pkb.keyMaterial = .ok data
      ∧ data = pt := by
    cases hv : intoVec w.serializer w.keyMaterial pkb.keyMaterial <;>
      simp_all [liftCbor, Except.mapError]
  simp [decrypt, hsdd, hkek, haes _ _ _ _ _ hct, hkm data hdata, liftCbor, Except.mapError]

/-- Everything `encrypt` can do: refuse a key needing secure deletion when there is no store;
fail to reserve a slot; reserve one and then fail (the slot is released) or succeed (the slot is
in the keyblob); or seal without a slot, leaving the store alone. -/
theorem encrypt_cases {alloc : SlotAllocator} {sddMgr : Option SddManager}
    {r : Except Error EncryptedKeyBlob} {mgr' : Option SddManager}
    (h : encrypt w coset alloc sddMgr aes hmac rng rootKey pkb hidden = (r, mgr', rng')) :
    (requiresSdd pkb.characteristics = true ∧ sddMgr = none ∧
      r = .error (kmErr .rollbackResistanceUnavailable "no secure secret storage available") ∧
      mgr' = none ∧ rng' = rng) ∨
    (requiresSdd pkb.characteristics = true ∧ ∃ mgr e, sddMgr = some mgr ∧ r = .error e ∧
      mgr' = some mgr) ∨
    (requiresSdd pkb.characteristics = true ∧ ∃ mgr slot sdd rng1, sddMgr = some mgr ∧
      alloc.pick mgr rng = .ok (slot, sdd, rng1) ∧ mgr.secrets slot = none ∧
      ((∃ e, r = .error e ∧ mgr' = some mgr) ∨
       (∃ kdi cose, sealKeyMaterial w coset aes hmac rng1 rootKey pkb hidden (some sdd) =
          (.ok (kdi, cose), rng') ∧ r = .ok (.v1 ⟨pkb.characteristics, kdi, cose, some slot⟩) ∧
          mgr' = some (mgr.insert slot sdd)))) ∨
    (requiresSdd pkb.characteristics = false ∧ mgr' = sddMgr ∧
      ∃ r0, sealKeyMaterial w coset aes hmac rng rootKey pkb hidden none = (r0, rng') ∧
        r = r0.map fun sealed => .v1 ⟨pkb.characteristics, sealed.1, sealed.2, none⟩) := by
  unfold encrypt at h
  cases hreq : requiresSdd pkb.characteristics
  · simp only [hreq] at h
    generalize hs : sealKeyMaterial w coset aes hmac rng rootKey pkb hidden none = sealed at h
    obtain ⟨r0, rng2⟩ := sealed
    obtain ⟨rfl, rfl, rfl⟩ := h
    exact .inr (.inr (.inr ⟨rfl, rfl, r0, rfl, rfl⟩))
  rcases sddMgr with _ | mgr <;> simp only [hreq] at h
  · obtain ⟨rfl, rfl, rfl⟩ := h
    exact .inl ⟨rfl, rfl, rfl, rfl, rfl⟩
  rcases hnew : SlotHolder.new alloc mgr rng with e | ⟨⟨holder, sdd⟩, mgr1, rng1⟩ <;>
    simp only [hnew] at h
  · obtain ⟨rfl, rfl, rfl⟩ := h
    exact .inr (.inl ⟨rfl, mgr, e, rfl, rfl, rfl⟩)
  obtain ⟨slot, hpick, hempty, rfl, rfl⟩ := SlotHolder.new_eq_ok hnew
  refine .inr (.inr (.inl ⟨rfl, mgr, slot, sdd, rng1, rfl, hpick, hempty, ?_⟩))
  rcases hseal : sealKeyMaterial w coset aes hmac rng1 rootKey pkb hidden (some sdd) with
    ⟨_ | ⟨kdi, cose⟩, rng2⟩ <;> simp only [hseal] at h
  · obtain ⟨rfl, rfl, rfl⟩ := h
    exact .inl ⟨_, rfl, by rw [SlotHolder.drop_insert hempty]⟩
  · simp only [SlotHolder.consume_some, SlotHolder.drop_none] at h
    obtain ⟨rfl, rfl, rfl⟩ := h
    exact .inr ⟨kdi, cose, rfl, rfl, rfl⟩

/-- **Seal/unseal round trip.**  Whatever the characteristics, hidden parameters, root key, RNG
output and secret store, a keyblob that `encrypt` returns is opened by `decrypt`, under the same
root key and hidden parameters and the store `encrypt` left behind, back to the plaintext keyblob,
given only that AES-GCM decryption inverts encryption and that the key material's encoding
round-trips.  When the keyblob carries no slot any store, or none, will do. -/
theorem decrypt_encrypt (alloc : SlotAllocator) (sddMgr : Option SddManager)
    (haes : aes.DecryptsEncryption)
    (hkm : ∀ data, intoVec w.serializer w.keyMaterial pkb.keyMaterial = .ok data →
      fromSlice w.serializer w.keyMaterial data = .ok pkb.keyMaterial)
    {ekb : EncryptedKeyBlob} {mgr' : Option SddManager}
    (h : encrypt w coset alloc sddMgr aes hmac rng rootKey pkb hidden = (.ok ekb, mgr', rng'))
    (dmgr : Option SddManager) (hdmgr : dmgr = mgr' ∨ ekb.secureDeletionSlot = none) :
    decrypt w coset dmgr aes hmac rootKey ekb hidden = .ok pkb := by
  rcases encrypt_cases h with ⟨-, -, hr, -⟩ | ⟨-, _, _, -, hr, -⟩ |
      ⟨-, mgr, slot, sdd, rng1, -, -, -, ⟨_, hr, -⟩ | ⟨kdi, cose, hseal, hr, rfl⟩⟩ |
      ⟨-, -, r0, hseal, hr⟩
  · cases hr
  · cases hr
  · cases hr
  · cases hr
    refine decrypt_of_sealed haes hseal hkm ?_
    rcases hdmgr with rfl | hnone
    · simp
    · cases hnone
  · obtain ⟨⟨kdi, cose⟩, rfl, rfl⟩ := map_eq_ok.mp hr.symm
    exact decrypt_of_sealed haes hseal hkm (by simp)

/-- **Secure-deletion slot discipline of `encrypt`.**  (a) A key that needs secure deletion on a
device without a secret store is refused with `RollbackResistanceUnavailable`, touching nothing.
(b) On every error the store is left as it was: a slot reserved by `SlotHolder::new` is released
by the holder's drop, whichever later step failed.  (c) On success the keyblob carries a slot
exactly when secure deletion is required; it is the empty slot `new_secret` picked, and the
store gained exactly that slot; otherwise the store is unchanged.  Every holder `encrypt` gets
from `SlotHolder::new` holds a slot, so `consume` never unwraps an empty one. -/
theorem encrypt_slot_discipline (alloc : SlotAllocator) (sddMgr : Option SddManager) :
    let res := encrypt w coset alloc sddMgr aes hmac rng rootKey pkb hidden
    (requiresSdd pkb.characteristics = true → sddMgr = none →
      res = (.error (kmErr .rollbackResistanceUnavailable "no secure secret storage available"),
        none, rng)) ∧
    (∀ e, res.1 = .error e → res.2.1 = sddMgr) ∧
    (∀ ekb, res.1 = .ok ekb →
      if requiresSdd pkb.characteristics then
        ∃ mgr slot sdd rng1, sddMgr = some mgr ∧ alloc.pick mgr rng = .ok (slot, sdd, rng1) ∧
          mgr.secrets slot = none ∧ ekb.secureDeletionSlot = some slot ∧
          res.2.1 = some (mgr.insert slot sdd)
      else ekb.secureDeletionSlot = none ∧ res.2.1 = sddMgr) ∧
    (∀ mgr holder sdd mgr1 rng1, SlotHolder.new alloc mgr rng = .ok ((holder, sdd), mgr1, rng1) →
      ∃ slot, holder.slot = some slot) := by
  have holds : ∀ mgr holder sdd mgr1 rng1,
      SlotHolder.new alloc mgr rng = .ok ((holder, sdd), mgr1, rng1) →
        ∃ slot, holder.slot = some slot := by
    intro _ _ _ _ _ hnew
    obtain ⟨slot, -, -, rfl, -⟩ := SlotHolder.new_eq_ok hnew
    exact ⟨slot, rfl⟩
  dsimp only
  generalize hres : encrypt w coset alloc sddMgr aes hmac rng rootKey pkb hidden = res
  obtain ⟨r, mgr', rng'⟩ := res
  rcases encrypt_cases hres with ⟨-, rfl, rfl, rfl, rfl⟩ | ⟨-, mgr, e, rfl, rfl, rfl⟩ |
      ⟨hreq, mgr, slot, sdd, rng1, rfl, hpick, hempty, ⟨e, rfl, rfl⟩ | ⟨kdi, cose, -, rfl, rfl⟩⟩ |
      ⟨hreq, rfl, r0, -, rfl⟩
  · exact ⟨fun _ _ => rfl, fun _ _ => rfl, fun _ h => (by cases h), holds⟩
  · exact ⟨fun _ h => (by cases h), fun _ _ => rfl, fun _ h => (by cases h), holds⟩
  · exact ⟨fun _ h => (by cases h), fun _ _ => rfl, fun _ h => (by cases h), holds⟩
  · refine ⟨fun _ h => (by cases h), fun _ h => (by cases h), fun ekb h => ?_, holds⟩
    cases h
    rw [if_pos hreq]
    exact ⟨mgr, slot, sdd, rng1, rfl, hpick, hempty, rfl, rfl⟩
  · refine ⟨fun h => (by simp [hreq] at h), fun _ _ => rfl, fun ekb h => ?_, holds⟩
    obtain ⟨sealed, -, rfl⟩ := map_eq_ok.mp h
    simp [hreq, EncryptedKeyBlob.secureDeletionSlot]

/-- A keyblob sealed without secure deletion carries no slot, and opens under any store. -/
theorem decrypt_of_encrypt_noSdd {alloc : SlotAllocator} {sddMgr : Option SddManager}
    (haes : aes.DecryptsEncryption)
    (hkm : ∀ data, intoVec w.serializer w.keyMaterial pkb.keyMaterial = .ok data →
      fromSlice w.serializer w.keyMaterial data = .ok pkb.keyMaterial)
    (hreq : requiresSdd pkb.characteristics = false) {ekb : EncryptedKeyBlob}
    {mgr' : Option SddManager}
    (h : encrypt w coset alloc sddMgr aes hmac rng rootKey pkb hidden = (.ok ekb, mgr', rng'))
    (dmgr : Option SddManager) :
    ekb.secureDeletionSlot = none ∧ decrypt w coset dmgr aes hmac rootKey ekb hidden = .ok pkb := by
  rcases encrypt_cases h with ⟨hr, -⟩ | ⟨hr, -⟩ | ⟨hr, -⟩ | ⟨-, -, r0, hseal, hr⟩
  any_goals simp [hreq] at hr
  obtain ⟨⟨kdi, cose⟩, rfl, rfl⟩ := map_eq_ok.mp hr.symm
  exact ⟨rfl, decrypt_of_sealed haes hseal hkm (by simp)⟩


/-- A keyblob sealed with secure deletion carries the slot that `encrypt` filled, and opens under
every store in which that slot still holds the secret `encrypt` put there. -/
theorem decrypt_of_encrypt_sdd {alloc : SlotAllocator} {sddMgr : Option SddManager}
    (haes : aes.DecryptsEncryption)
    (hkm : ∀ data, intoVec w.serializer w.keyMaterial pkb.keyMaterial = .ok data →
      fromSlice w.serializer w.keyMaterial data = .ok pkb.keyMaterial)
    (hreq : requiresSdd pkb.characteristics = true) {ekb : EncryptedKeyBlob}
    {mgr' : Option SddManager}
    (h : encrypt w coset alloc sddMgr aes hmac rng rootKey pkb hidden = (.ok ekb, mgr', rng')) :
    ∃ slot sdd m', ekb.secureDeletionSlot = some slot ∧ mgr' = some m' ∧
      m'.secrets slot = some sdd ∧ ∀ m, m.secrets slot = some sdd →
        decrypt w coset (some m) aes hmac rootKey ekb hidden = .ok pkb := by
  rcases encrypt_cases h with ⟨-, -, hr, -⟩ | ⟨-, _, _, -, hr, -⟩ |
      ⟨-, mgr, slot, sdd, rng1, -, -, -, ⟨_, hr, -⟩ | ⟨kdi, cose, hseal, hr, rfl⟩⟩ | ⟨hr, -⟩
  any_goals cases hr
  · refine ⟨slot, sdd, _, rfl, rfl, by simp, fun m hm => decrypt_of_sealed haes hseal hkm ?_⟩
    simp [sddOfSlot, SddManager.getSecret, hm, Functor.map, Except.map]
  · simp [hreq] at hr

/-- The `CoseEncrypt0` of a keyblob that `encrypt` returns was built, not parsed: its protected
header has no original bytes. -/
theorem encrypt_built {alloc : SlotAllocator} {sddMgr : Option SddManager} {ekb : EncryptedKeyBlob}
    {mgr' : Option SddManager}
    (h : encrypt w coset alloc sddMgr aes hmac rng rootKey pkb hidden = (.ok ekb, mgr', rng')) :
    ∃ b, ekb = .v1 b ∧ b.encryptedKeyMaterial.protectedHeader.originalData = none := by
  rcases encrypt_cases h with ⟨-, -, hr, -⟩ | ⟨-, _, _, -, hr, -⟩ |
      ⟨-, _, _, _, _, -, -, -, ⟨_, hr, -⟩ | ⟨_, _, hseal, hr, -⟩⟩ | ⟨-, -, r0, hseal, hr⟩
  any_goals cases hr
  · obtain ⟨-, -, -, -, -, -, rfl⟩ := sealKeyMaterial_eq_ok hseal
    exact ⟨_, rfl, rfl⟩
  · obtain ⟨⟨kdi, cose⟩, rfl, rfl⟩ := map_eq_ok.mp hr.symm
    obtain ⟨-, -, -, -, -, -, rfl⟩ := sealKeyMaterial_eq_ok hseal
    exact ⟨_, rfl, rfl⟩

/-- `decrypt` reads the protected header only through its `Enc_structure`, so a keyblob whose
header coset's decoder refilled opens as the one it encoded. -/
theorem decrypt_refilled {sddMgr : Option SddManager} {b : EncryptedKeyBlobV1}
    {p : ProtectedHeader} (hp : coset.Refills b.encryptedKeyMaterial.protectedHeader p) :
    decrypt w coset sddMgr aes hmac rootKey
        (.v1 { b with encryptedKeyMaterial := { b.encryptedKeyMaterial with protectedHeader := p } })
        hidden =
      decrypt w coset sddMgr aes hmac rootKey (.v1 b) hidden := by
  simp only [decrypt, hp.2.1]

end Sealing

/-- The characteristics `add_keymint_tags` makes, for a generated key, of an entry of a TEE
whose boot patch level is 0 and that has no HAL information: the entry is empty, or holds only
`RollbackResistance`. -/
def teeGeneratedChars (rollbackResistant : Bool) : List KeyCharacteristics :=
  [⟨.trustedEnvironment, (if rollbackResistant then [.rollbackResistance] else []) ++
    [.origin .generated, .bootPatchlevel 0]⟩]

/-- Which of the `teeGeneratedChars` characteristics are, decided by their shape, since
`KeyParam` has no decidable equality. -/
def teeGeneratedShape : List KeyCharacteristics → Option Bool
  | [⟨.trustedEnvironment, [.origin .generated, .bootPatchlevel v]⟩] =>
    if v = 0 then some false else none
  | [⟨.trustedEnvironment, [.rollbackResistance, .origin .generated, .bootPatchlevel v]⟩] =>
    if v = 0 then some true else none
  | _ => none

theorem eq_of_teeGeneratedShape {cs : List KeyCharacteristics} {b : Bool}
    (h : teeGeneratedShape cs = some b) : cs = teeGeneratedChars b := by
  unfold teeGeneratedShape at h
  split at h <;> (try split at h) <;> simp only [Option.some.injEq, reduceCtorEq] at h <;>
    subst_vars <;> rfl

/-- Encodes the `teeGeneratedChars` characteristics as a boolean, and nothing else. -/
def teeGeneratedCharsAsCbor : AsCborValue (List KeyCharacteristics) where
  toCborValue cs := match teeGeneratedShape cs with
    | some b => .ok (.bool b)
    | none => .error .encodeFailed
  fromCborValue
    | .bool b => .ok (teeGeneratedChars b)
    | _ => .error .decodeFailed

theorem teeGeneratedCharsAsCbor_roundTrips : teeGeneratedCharsAsCbor.RoundTrips := by
  intro cs v h
  rcases hcs : teeGeneratedShape cs with _ | b <;>
    simp only [teeGeneratedCharsAsCbor, hcs, reduceCtorEq, Except.ok.injEq] at h
  subst h
  rw [eq_of_teeGeneratedShape hcs]
  rfl

/-- A rollback-resistant key, sealed into slot 0 of an empty store, opens under the store that
`encrypt` returned. -/
theorem decrypt_encrypt_rollbackResistant :
    let w : WireCodecs := { WireCodecs.reference with characteristics := teeGeneratedCharsAsCbor }
    let coset := Coset.single .empty ⟨⟨none, ⟨none⟩⟩, ⟨none⟩, none, []⟩
    ∃ ekb mgr' rng', encrypt w coset (.firstSlot .zero) (some ⟨fun _ => none⟩) .passthrough .zero
        ⟨fun _ => 0⟩ [] ⟨teeGeneratedChars true, .aes []⟩ [] = (.ok ekb, mgr', rng') ∧
      ekb.secureDeletionSlot = some ⟨0⟩ ∧
      decrypt w coset mgr' .passthrough .zero [] ekb [] = .ok ⟨teeGeneratedChars true, .aes []⟩ := by
  intro w coset
  have henc : encrypt w coset (.firstSlot .zero) (some ⟨fun _ => none⟩) .passthrough .zero
      ⟨fun _ => 0⟩ [] ⟨teeGeneratedChars true, .aes []⟩ [] = (.ok _, _, _) := rfl
  refine ⟨_, _, _, henc, rfl,
    decrypt_encrypt (.firstSlot .zero) _ Aes.passthrough_decryptsEncryption ?_ henc _ (.inl rfl)⟩
  intro _ _
  rfl

/-! ## 5. The derivation context -/

section Context

variable {w : WireCodecs}

/-- What a successful `kekInfo` built: the key derivation input, then the serialized
characteristics, hidden parameters and secure-deletion data, if any. -/
theorem kekInfo_eq_ok {kdi : ByteArr 32} {C : List KeyCharacteristics} {H : List KeyParam}
    {S : Option SecureDeletionData} {info : Bytes} (h : kekInfo w kdi C H S = .ok info) :
    ∃ dC dH dS, intoVec w.serializer w.characteristics C = .ok dC ∧
      intoVec w.serializer w.params H = .ok dH ∧
      (S = none ∧ dS = [] ∨ ∃ sdd, S = some sdd ∧ intoVec w.serializer w.sdd sdd = .ok dS) ∧
      info = kdi.toList ++ (dC ++ (dH ++ dS)) := by
  cases S <;>
    simp only [kekInfo, bind_eq_ok, liftCbor_eq_ok, except_pure_eq, Except.ok.injEq] at h
  · obtain ⟨dC, hC, dH, hH, rfl⟩ := h
    exact ⟨dC, dH, [], hC, hH, .inl ⟨rfl, rfl⟩, by simp⟩
  · obtain ⟨dC, hC, dH, hH, dS, hS, rfl⟩ := h
    exact ⟨dC, dH, dS, hC, hH, .inr ⟨_, rfl, hS⟩, by simp⟩

/-- **The KEK derivation context binds all four inputs.**  When the characteristics, the hidden
parameters and the secure-deletion data serialize as CBOR items do, two contexts that
`derive_kek` builds into the same HKDF info have the same key derivation input, characteristics,
hidden parameters and secure-deletion data; in particular a context with secure-deletion data
never meets one without. -/
theorem kekInfo_injective (w : WireCodecs) (hC : w.characteristics.IsItemCode w.serializer)
    (hH : w.params.IsItemCode w.serializer) (hS : w.sdd.IsItemCode w.serializer)
    (kdi kdi' : ByteArr 32) (C C' : List KeyCharacteristics) (H H' : List KeyParam)
    (S S' : Option SecureDeletionData) (info : Bytes)
    (h : kekInfo w kdi C H S = .ok info) (h' : kekInfo w kdi' C' H' S' = .ok info) :
    kdi = kdi' ∧ C = C' ∧ H = H' ∧ S = S' := by
  obtain ⟨dC, dH, dS, hC1, hH1, hS1, rfl⟩ := kekInfo_eq_ok h
  obtain ⟨dC', dH', dS', hC2, hH2, hS2, he⟩ := kekInfo_eq_ok h'
  obtain ⟨hkdi, he⟩ := List.append_inj he (by simp)
  obtain ⟨rfl, he⟩ := hC.prefixFree _ _ _ _ _ _ hC1 hC2 he
  obtain ⟨rfl, rfl⟩ := hH.prefixFree _ _ _ _ _ _ hH1 hH2 he
  refine ⟨Mathlib.Vector.toList_injective hkdi, rfl, rfl, ?_⟩
  rcases hS1 with ⟨rfl, rfl⟩ | ⟨sdd, rfl, hs⟩ <;> rcases hS2 with ⟨rfl, hd⟩ | ⟨sdd', rfl, hs'⟩
  · rfl
  · exact (hS.nonempty _ _ hs' rfl).elim
  · exact (hS.nonempty _ _ hs hd).elim
  · rw [(hS.prefixFree _ _ _ _ [] [] hs hs' rfl).1]

/-- Items must not be empty: with the serializer that writes nothing, the secure-deletion data
leaves no trace in the context. -/
example : kekInfo WireCodecs.reference (Mathlib.Vector.replicate 32 0) [] [] (some .zero) =
    kekInfo WireCodecs.reference (Mathlib.Vector.replicate 32 0) [] [] none := rfl

end Context

/-- Two contexts of the reference codecs, with secure-deletion data. -/
theorem kekInfo_injective_reference :
    Mathlib.Vector.replicate 32 (0 : UInt8) = Mathlib.Vector.replicate 32 0 ∧
      ([] : List KeyCharacteristics) = [] ∧ ([] : List KeyParam) = [] ∧
      some SecureDeletionData.zero = some SecureDeletionData.zero :=
  kekInfo_injective { WireCodecs.reference with serializer := .reference }
    (AsCborValue.isItemCode_of_roundTrips CborSerializer.reference_roundTrips AsCborValue.nil_roundTrips)
    (AsCborValue.isItemCode_of_roundTrips CborSerializer.reference_roundTrips AsCborValue.nil_roundTrips)
    (AsCborValue.isItemCode_of_roundTrips CborSerializer.reference_roundTrips
      (AsCborValue.single_roundTrips _))
    _ _ [] [] [] [] (some .zero) (some .zero) _ rfl rfl

end KeyMint
