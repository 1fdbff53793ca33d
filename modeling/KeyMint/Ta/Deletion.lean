import KeyMint.Ta.Frame

/-!
# Secure deletion

`lib.rs` lines 252-283 and 901-928, `keyblob.rs` lines 323-341.  `delete_key` empties the
secure-deletion slot of a keyblob it can parse, and `delete_all_keys` empties them all; `decrypt`
starts by fetching the secret of the keyblob's slot, so a keyblob whose slot is empty can no
longer be decrypted.  `Run.slotEmpty` carries the empty slot along every later run that does not
hand the slot out again through `new_secret`.
-/

namespace KeyMint

variable {env : Env}

/-- A keyblob with a slot has no secret to derive its KEK from when the slot is empty, or when
there is no secure storage at all. -/
theorem sddOfSlot_of_slotEmpty {s : SecureDeletionSlot} {st : KeyMintTa} (hs : SlotEmpty s st) :
    ∃ e, sddOfSlot (some s) st.sddMgr = .error e := by
  rcases hm : st.sddMgr with _ | m
  · exact ⟨_, rfl⟩
  · obtain ⟨e, he⟩ := m.getSecret_of_empty s (hs m hm)
    exact ⟨e, by simp [sddOfSlot, he, Functor.map, Except.map]⟩

/-- **A keyblob whose slot is empty does not decrypt**, whatever the request's parameters. -/
theorem keyblobParseDecrypt_of_slotEmpty {s : SecureDeletionSlot} {st : KeyMintTa} {kb : Bytes}
    {ekb : EncryptedKeyBlobV1} (hparse : EncryptedKeyBlob.new env.wire env.coset kb = .ok (.v1 ekb))
    (hslot : ekb.secureDeletionSlot = some s) (hs : SlotEmpty s st) (params : List KeyParam) :
    ∃ e, st.keyblobParseDecrypt env kb params = .error e := by
  obtain ⟨e, he⟩ := sddOfSlot_of_slotEmpty hs
  cases h : st.keyblobParseDecrypt env kb params with
  | error e => exact ⟨e, rfl⟩
  | ok r =>
    simp [KeyMintTa.keyblobParseDecrypt, KeyMintTa.keyblobDecrypt, decrypt, hparse, hslot, he] at h

/-- `DeleteKey` on a keyblob that parses empties its slot. -/
theorem slotEmpty_deleteKey_self {s : SecureDeletionSlot} {kb : Bytes} {ekb : EncryptedKeyBlobV1}
    (hparse : EncryptedKeyBlob.new env.wire env.coset kb = .ok (.v1 ekb))
    (hslot : ekb.secureDeletionSlot = some s) (st : KeyMintTa) :
    SlotEmpty s (st.deleteKey env kb).2 := by
  simp only [KeyMintTa.deleteKey, hparse, hslot]
  exact KeyMintTa.slotEmpty_sddDeleteSecret (.inr rfl)

/-- **Secure deletion makes keyblobs unusable.**  After `DeleteKey` of a keyblob that parses to a
V1 keyblob with slot `s`, or after `DeleteAllKeys`, the keyblob fails to parse and decrypt, for
any parameters, in every state reached by requests that do not give slot `s` out again. -/
theorem deleted_keyblob_unusable (env : Env) (kb : Bytes) (ekb : EncryptedKeyBlobV1)
    (s : SecureDeletionSlot) (hparse : EncryptedKeyBlob.new env.wire env.coset kb = .ok (.v1 ekb))
    (hslot : ekb.secureDeletionSlot = some s) (req : PerformOpReq)
    (hreq : req = .deviceDeleteKey kb ∨ req = .deviceDeleteAllKeys) (now : Timestamp)
    (st st' : KeyMintTa)
    (hrun : Run env (fun now st req => s ∉ stepNewSecretSlots env now st req)
      (processReq env now st req).2 st')
    (params : List KeyParam) :
    ∃ e, st'.keyblobParseDecrypt env kb params = .error e := by
  have hdel : SlotEmpty s (processReq env now st req).2 := by
    rcases hreq with rfl | rfl
    · exact slotEmpty_deleteKey_self hparse hslot st
    · exact st.slotEmpty_deleteAllKeys
  exact keyblobParseDecrypt_of_slotEmpty hparse hslot (hrun.slotEmpty hdel) params

/-- A TEE with a secure-deletion store generates a rollback-resistant AES key in slot 0, whose
keyblob opens after `EarlyBootEnded`; after `DeleteKey` of it, it does not. -/
theorem deleted_keyblob_unusable_tee :
    let env := Env.teeKeygen (some ⟨0⟩)
    let st := (processReq env ⟨0⟩ (KeyMintTa.new ⟨.trustedEnvironment, 1, "", "", "", false⟩
      (.v3 "" "" false 0) ⟨fun _ => 0⟩ (some ⟨fun _ => none⟩) none)
      (.setBootInfo (Mathlib.Vector.replicate 32 0) false 0 (Mathlib.Vector.replicate 32 0) 0)).2
    let st₁ := (processReq env ⟨1⟩ st (.deviceGenerateKey [] none)).2
    let st₂ := (processReq env ⟨5⟩ st₁ .deviceEarlyBootEnded).2
    ∃ ekb mgr' rng' keyBlob,
      encrypt env.wire env.coset env.alloc st.sddMgr env.aes env.hmac st.rng []
        ⟨teeGeneratedChars true, .aes []⟩ [] = (.ok ekb, mgr', rng') ∧
      intoVec env.wire.serializer (EncryptedKeyBlob.asCbor env.wire env.coset) ekb = .ok keyBlob ∧
      st₂.keyblobParseDecrypt env keyBlob [] = .ok (⟨teeGeneratedChars true, .aes []⟩, some ⟨0⟩) ∧
      ∃ e, (processReq env ⟨6⟩ st₂ (.deviceDeleteKey keyBlob)).2.keyblobParseDecrypt env keyBlob [] =
        .error e := by
  intro env st st₁ st₂
  have henc : encrypt env.wire env.coset env.alloc st.sddMgr env.aes env.hmac st.rng []
      ⟨teeGeneratedChars true, .aes []⟩ [] = (.ok _, _, _) := rfl
  exact ⟨_, _, _, _, henc, rfl, rfl,
    deleted_keyblob_unusable env _ _ ⟨0⟩ (by rfl) rfl _ (.inl rfl) ⟨6⟩ st₂ _ (.refl _) []⟩

end KeyMint
