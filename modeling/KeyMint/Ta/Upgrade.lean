import KeyMint.Ta.Frame

/-!
# Version tags and key upgrades

`lib.rs` lines 266-355 and 1070-1097.  `add_keymint_tags` records the OS version and patch
levels known when a key is created, and the version loop of `keyblob_decrypt` asks for an
upgrade when they differ from the current ones.  The values it compares against are latched
(`Latches`), so a key tagged in one state passes the loop in every later state of the same boot:
a version that was known at creation is still the same, and one that was not is not tagged.

The loop returns at the first parameter that differs from the current value:
`keyblobDecrypt_version_outcome` gives the outcome of a keyblob that decrypts as the error code of
the first version parameter that is not current, so it depends on the order of the parameters
when they hold both an old version and one from the future
(`keyblobDecrypt_version_order_dependent`).
-/

namespace KeyMint

/-- The parameters that the version loop of `keyblob_decrypt` checks. -/
def KeyParam.isVersion : KeyParam → Bool
  | .osVersion _ | .osPatchlevel _ | .vendorPatchlevel _ | .bootPatchlevel _ => true
  | _ => false

namespace KeyMintTa

variable {env : Env} {st st' : KeyMintTa}

theorem checkVersions_eq_ok (l : List KeyParam) :
    st.checkVersions l = .ok () ↔ ∀ p ∈ l, st.checkVersionParam p = .ok () := by
  induction l with
  | nil => simp [checkVersions]
  | cons p l ih => simp [checkVersions, ih, Unique.exists_iff]

theorem checkVersionParam_of_not_isVersion {p : KeyParam} (h : p.isVersion = false) :
    st.checkVersionParam p = .ok () := by
  unfold checkVersionParam
  split <;> first | rfl | simp [KeyParam.isVersion] at h

@[simp] theorem checkVersion_self (v : UInt32) (name : String) : checkVersion v v name = .ok () := by
  simp [checkVersion]

/-- The tags of `add_keymint_tags` pass the version loop in every state the tagging state
latches into. -/
theorem checkVersionParam_keymintTags (hl : Latches st st') {origin : KeyOrigin} {p : KeyParam}
    (hp : p ∈ st.keymintTags origin) : st'.checkVersionParam p = .ok () := by
  simp only [keymintTags, List.mem_append, List.mem_singleton] at hp
  rcases hp with (rfl | hp) | hp
  · rfl
  · split at hp
    · rename_i h hh
      have hh' := hl.halInfo h hh
      simp only [List.mem_cons, List.mem_singleton, List.not_mem_nil, or_false] at hp
      rcases hp with rfl | rfl | rfl <;> simp only [checkVersionParam, hh', checkVersion_self]
      split <;> simp_all
    · simp at hp
  · split at hp
    · rename_i b hb
      simp only [List.mem_singleton] at hp
      subst hp
      simp only [checkVersionParam, hl.bootInfo b hb, checkVersion_self]
    · simp at hp

/-- `add_keymint_tags` appends its tags to the entry that `characteristics_at` picks at the TA's
security level: both take the first entry at that level. -/
theorem characteristicsAt_addKeymintTags {origin : KeyOrigin} {auths : List KeyParam}
    {chars chars' : List KeyCharacteristics}
    (hat : characteristicsAt chars st.hwInfo.securityLevel = .ok auths)
    (hadd : st.addKeymintTags chars origin = .ok chars') :
    characteristicsAt chars' st.hwInfo.securityLevel = .ok (auths ++ st.keymintTags origin) := by
  induction chars generalizing chars' with
  | nil => simp [characteristicsAt] at hat
  | cons kc rest ih =>
    by_cases hl : kc.securityLevel = st.hwInfo.securityLevel
    · simp only [characteristicsAt, hl, if_true, Except.ok.injEq] at hat
      simp only [addKeymintTags, hl, if_true, Except.ok.injEq] at hadd
      subst hat hadd
      simp [characteristicsAt, hl]
    · simp only [characteristicsAt, hl, if_false] at hat
      simp only [addKeymintTags, hl, if_false, Functor.map, Except.map] at hadd
      split at hadd
      · cases hadd
      · rename_i rest' hrest
        cases hadd
        simp [characteristicsAt, hl, ih hat hrest]

end KeyMintTa

/-- **Freshly tagged keys need no upgrade within the boot.**  If the entry at the TA's security
level carries no version parameter, the characteristics that `add_keymint_tags` returns pass the
version loop of `keyblob_decrypt` in the tagging state and in every state after it. -/
theorem fresh_keyblob_needs_no_upgrade (env : Env) (st st' : KeyMintTa)
    (chars chars' : List KeyCharacteristics) (origin : KeyOrigin) (auths : List KeyParam)
    (hat : characteristicsAt chars st.hwInfo.securityLevel = .ok auths)
    (hnov : ∀ p ∈ auths, p.isVersion = false)
    (hadd : st.addKeymintTags chars origin = .ok chars') (hrun : Run env AnyStep st st') :
    characteristicsAt chars' st'.hwInfo.securityLevel = .ok (auths ++ st.keymintTags origin) ∧
      st'.checkVersions (auths ++ st.keymintTags origin) = .ok () := by
  have hl := hrun.latches
  refine ⟨hl.hwInfo ▸ KeyMintTa.characteristicsAt_addKeymintTags hat hadd, ?_⟩
  rw [KeyMintTa.checkVersions_eq_ok]
  intro p hp
  rcases List.mem_append.mp hp with hp | hp
  · exact KeyMintTa.checkVersionParam_of_not_isVersion (hnov p hp)
  · exact KeyMintTa.checkVersionParam_keymintTags hl hp

/-- A key tagged on a TA with OS version 0, checked after a request. -/
theorem fresh_keyblob_needs_no_upgrade_osVersionZero :
    let st := (processReq .reference ⟨0⟩ (KeyMintTa.new ⟨.trustedEnvironment, 1, "", "", "", false⟩
      (.v3 "" "" false 0) ⟨fun _ => 0⟩ none none) (.setHalInfo 0 5 6)).2
    let st' := (processReq .reference ⟨0⟩ st .deviceEarlyBootEnded).2
    let auths : List KeyParam := [.purpose .sign, .origin .generated, .osVersion 0, .osPatchlevel 5,
      .vendorPatchlevel 6]
    characteristicsAt [⟨.trustedEnvironment, auths⟩] st'.hwInfo.securityLevel = .ok auths ∧
      st'.checkVersions auths = .ok () :=
  fresh_keyblob_needs_no_upgrade .reference (processReq .reference ⟨0⟩ (KeyMintTa.new
    ⟨.trustedEnvironment, 1, "", "", "", false⟩ (.v3 "" "" false 0) ⟨fun _ => 0⟩ none none)
    (.setHalInfo 0 5 6)).2 _ [⟨.trustedEnvironment, [.purpose .sign]⟩] _
    .generated [.purpose .sign] rfl (by simp [KeyParam.isVersion]) (by rfl)
    (.step ⟨0⟩ .deviceEarlyBootEnded trivial (.refl _))

/-! ## The outcome of the version loop -/

/-- How a version compares with the current one: the three arms of `check`. -/
inductive VersionAge where
  | old | current | future
  deriving DecidableEq, Repr

/-- The error code for a version of each age: `KeyRequiresUpgrade` for an old one and
`InvalidKeyBlob` for one from the future. -/
def VersionAge.errorCode : VersionAge → Option ErrorCode
  | .old => some .keyRequiresUpgrade
  | .current => none
  | .future => some .invalidKeyBlob

@[simp] theorem VersionAge.errorCode_eq_none {a : VersionAge} :
    a.errorCode = none ↔ a = .current := by
  cases a <;> simp [errorCode]

/-- The age of the value `v` against the current value `curr`. -/
def versionAgeOf (v curr : UInt32) : VersionAge :=
  if v < curr then .old else if v = curr then .current else .future

namespace KeyMintTa

variable {st : KeyMintTa}

/-- The age of a parameter against the latched versions, as the version rule states it: old
below the current value and from the future above it, except that under a current OS version of
0 an `OsVersion` is old when it is not 0 and never from the future.  A version with nothing
latched to compare with, and any other parameter, is current. -/
def versionAge (st : KeyMintTa) : KeyParam → VersionAge
  | .osVersion v =>
    match st.halInfo with
    | some h =>
      if h.osVersion = 0 then (if v = 0 then .current else .old) else versionAgeOf v h.osVersion
    | none => .current
  | .osPatchlevel v => (st.halInfo.map fun h => versionAgeOf v h.osPatchlevel).getD .current
  | .vendorPatchlevel v => (st.halInfo.map fun h => versionAgeOf v h.vendorPatchlevel).getD .current
  | .bootPatchlevel v => (st.bootInfo.map fun b => versionAgeOf v b.bootPatchlevel).getD .current
  | _ => .current

/-- The age of the first parameter of a list that is not current, or `current`. -/
def firstVersionAge (st : KeyMintTa) : List KeyParam → VersionAge
  | [] => .current
  | p :: l => if st.versionAge p = .current then st.firstVersionAge l else st.versionAge p

theorem checkVersion_code (v curr : UInt32) (name : String) :
    (errOf (checkVersion v curr name)).map Error.code = (versionAgeOf v curr).errorCode := by
  unfold checkVersion versionAgeOf
  split_ifs <;> rfl

theorem checkVersionParam_code (p : KeyParam) :
    (errOf (st.checkVersionParam p)).map Error.code = (st.versionAge p).errorCode := by
  cases p with
  | osVersion v =>
    simp only [checkVersionParam, versionAge]
    cases st.halInfo with
    | none => rfl
    | some h => dsimp only; split_ifs <;> first | rfl | exact checkVersion_code .. | simp_all
  | osPatchlevel v | vendorPatchlevel v =>
    simp only [checkVersionParam, versionAge]
    cases st.halInfo with
    | none => rfl
    | some h => exact checkVersion_code ..
  | bootPatchlevel v =>
    simp only [checkVersionParam, versionAge]
    cases st.bootInfo with
    | none => rfl
    | some b => exact checkVersion_code ..
  | _ => rfl

/-- **The version loop fails with the code of the first parameter that is not current.** -/
theorem checkVersions_code (l : List KeyParam) :
    (errOf (st.checkVersions l)).map Error.code = (st.firstVersionAge l).errorCode := by
  induction l with
  | nil => rfl
  | cons p l ih =>
    have hp := st.checkVersionParam_code p
    simp only [checkVersions, firstVersionAge]
    cases hc : st.checkVersionParam p with
    | ok _ =>
      have hcur : st.versionAge p = .current :=
        VersionAge.errorCode_eq_none.mp (by simpa [hc, errOf] using hp.symm)
      simpa [hcur] using ih
    | error e =>
      have hcur : st.versionAge p ≠ .current := fun h => by
        simp [hc, errOf, h, VersionAge.errorCode] at hp
      simpa [hc, errOf, hcur] using hp

/-- When every version of the list is current or of age `a`, and one is of age `a`, the first
that is not current is of age `a`: an old version and none from the future give `old`, and a
version from the future and no old one give `future`. -/
theorem firstVersionAge_of_only {l : List KeyParam} {a : VersionAge} (ha : a ≠ .current)
    (honly : ∀ p ∈ l, st.versionAge p = .current ∨ st.versionAge p = a)
    (hsome : ∃ p ∈ l, st.versionAge p = a) : st.firstVersionAge l = a := by
  induction l with
  | nil => simp at hsome
  | cons p l ih =>
    simp only [firstVersionAge]
    split
    · rename_i hcur
      refine ih (fun q hq => honly q (List.mem_cons_of_mem _ hq)) ?_
      obtain ⟨q, hq, hqa⟩ := hsome
      rcases List.mem_cons.mp hq with rfl | hq
      · exact absurd (hcur.symm.trans hqa) (Ne.symm ha)
      · exact ⟨q, hq, hqa⟩
    · exact (honly p (List.mem_cons_self _ _)).resolve_left ‹_›

theorem checkVersions_eq_ok_iff_current (l : List KeyParam) :
    st.checkVersions l = .ok () ↔ ∀ p ∈ l, st.versionAge p = .current := by
  rw [checkVersions_eq_ok]
  refine forall₂_congr fun p _ => ?_
  rw [← VersionAge.errorCode_eq_none, ← st.checkVersionParam_code p]
  cases st.checkVersionParam p <;> simp [errOf]

/-- Once the keyblob is decrypted and its authorizations found, `keyblob_decrypt` is its version
loop. -/
theorem keyblobDecrypt_eq {env : Env} {ekb : EncryptedKeyBlob} {hidden : List KeyParam}
    {kek : Bytes} {kb : PlaintextKeyBlob} {L : List KeyParam}
    (hk : env.rootKek (env.kekContext ekb) = .ok kek)
    (hd : decrypt env.wire env.coset st.sddMgr env.aes env.hmac kek ekb hidden = .ok kb)
    (hc : characteristicsAt kb.characteristics st.hwInfo.securityLevel = .ok L) :
    st.keyblobDecrypt env ekb hidden = (st.checkVersions L).map fun _ => kb := by
  simp only [keyblobDecrypt, hk, hd, hc, ok_bind]
  cases st.checkVersions L <;> rfl

end KeyMintTa

/-- **The first version that is not current decides.**  For a keyblob that decrypts, with
authorizations `L` at the TA's security level, `keyblob_decrypt` returns it exactly when every
version parameter of `L` is current, and otherwise fails with the error code of the first one that
is not: `KeyRequiresUpgrade` when it is old and `InvalidKeyBlob` when it is from the future,
whatever follows it.  So the code is `InvalidKeyBlob` when `L` has a version from the future and
no old one, and `KeyRequiresUpgrade` when it has an old one and none from the future. -/
theorem keyblobDecrypt_version_outcome (env : Env) (st : KeyMintTa) (ekb : EncryptedKeyBlob)
    (hidden : List KeyParam) (kek : Bytes) (kb : PlaintextKeyBlob) (L : List KeyParam)
    (hk : env.rootKek (env.kekContext ekb) = .ok kek)
    (hd : decrypt env.wire env.coset st.sddMgr env.aes env.hmac kek ekb hidden = .ok kb)
    (hc : characteristicsAt kb.characteristics st.hwInfo.securityLevel = .ok L) :
    (st.keyblobDecrypt env ekb hidden = .ok kb ↔ ∀ p ∈ L, st.versionAge p = .current) ∧
    (errOf (st.keyblobDecrypt env ekb hidden)).map Error.code = (st.firstVersionAge L).errorCode ∧
    ∀ a, a ≠ .current → (∀ p ∈ L, st.versionAge p = .current ∨ st.versionAge p = a) →
      (∃ p ∈ L, st.versionAge p = a) →
      (errOf (st.keyblobDecrypt env ekb hidden)).map Error.code = a.errorCode := by
  have hcode : (errOf (st.keyblobDecrypt env ekb hidden)).map Error.code =
      (st.firstVersionAge L).errorCode := by
    rw [KeyMintTa.keyblobDecrypt_eq hk hd hc, ← KeyMintTa.checkVersions_code]
    cases st.checkVersions L <;> rfl
  refine ⟨?_, hcode, fun a ha honly hsome => by
    rw [hcode, KeyMintTa.firstVersionAge_of_only ha honly hsome]⟩
  rw [KeyMintTa.keyblobDecrypt_eq hk hd hc, ← KeyMintTa.checkVersions_eq_ok_iff_current]
  cases st.checkVersions L <;> simp [Functor.map, Except.map]

/-- An old OS patch level before a vendor patch level from the future: the keyblob is reported
as needing an upgrade. -/
theorem keyblobDecrypt_version_outcome_oldBeforeFuture :
    let chars : List KeyCharacteristics :=
      [⟨.trustedEnvironment, [.osPatchlevel 4, .vendorPatchlevel 7]⟩]
    let env : Env := { Env.reference with
      wire := { WireCodecs.reference with characteristics := ⟨fun _ => .ok .null, fun _ => .ok chars⟩ } }
    let st : KeyMintTa := { KeyMintTa.new ⟨.trustedEnvironment, 1, "", "", "", false⟩
      (.v3 "" "" false 0) ⟨fun _ => 0⟩ none none with halInfo := some ⟨1, 5, 6⟩ }
    let ekb := EncryptedKeyBlob.v1 ⟨chars, Mathlib.Vector.replicate 32 0, .empty, none⟩
    st.versionAge (.vendorPatchlevel 7) = .future ∧
      (errOf (st.keyblobDecrypt env ekb [])).map Error.code = some .keyRequiresUpgrade :=
  by
  intro chars env st ekb
  exact ⟨rfl, (keyblobDecrypt_version_outcome env st ekb [] [] ⟨chars, .aes []⟩ _ rfl rfl rfl).2.1⟩

/-- The same two versions in either order: an old OS patch level and a vendor patch level from
the future give `KeyRequiresUpgrade` in one order and `InvalidKeyBlob` in the other. -/
theorem keyblobDecrypt_version_order_dependent :
    let st : KeyMintTa := { KeyMintTa.new ⟨.trustedEnvironment, 1, "", "", "", false⟩
      (.v3 "" "" false 0) ⟨fun _ => 0⟩ none none with halInfo := some ⟨1, 5, 6⟩ }
    let outcome (L : List KeyParam) : Option ErrorCode :=
      let chars : List KeyCharacteristics := [⟨.trustedEnvironment, L⟩]
      let env : Env := { Env.reference with
        wire := { WireCodecs.reference with characteristics := ⟨fun _ => .ok .null, fun _ => .ok chars⟩ } }
      (errOf (st.keyblobDecrypt env (.v1 ⟨chars, Mathlib.Vector.replicate 32 0, .empty, none⟩)
        [])).map Error.code
    st.versionAge (.osPatchlevel 4) = .old ∧ st.versionAge (.vendorPatchlevel 7) = .future ∧
      outcome [.osPatchlevel 4, .vendorPatchlevel 7] = some .keyRequiresUpgrade ∧
      outcome [.vendorPatchlevel 7, .osPatchlevel 4] = some .invalidKeyBlob := by
  intro st outcome
  exact ⟨rfl, rfl, rfl, rfl⟩

end KeyMint
