import KeyMint.Ta.Dispatch

/-!
# What a request can change

`StepForm` says once what processing a request can do to the TA: a *quiet* step, which keeps the
boot information, the root-of-trust data and challenge and the secure-deletion manager, and only
latches the rest of the start-of-day state; or one of the methods of `lib.rs` that write those
fields; or the calls of a method outside `lib.rs`.  Each method has a frame lemma, the fields it
may write, and each invariant below follows from these by one case analysis over `StepForm`:

- `Latches`: the hardware description is fixed, early boot only ends, and the boot information,
  the HAL information and the attestation IDs, once set, are never overwritten.
- the root-of-trust challenge changes only on `GetRootOfTrustChallenge`;
- an empty secure-deletion slot is filled only by `new_secret`.
-/

namespace KeyMint

variable {env : Env}

/-! ## 1. The fields each method writes -/

namespace KeyMintTa

variable (st : KeyMintTa)

theorem setBootInfo_frame (b : BootInfo) : st.setBootInfo env b =
    { st with bootInfo := (st.setBootInfo env b).bootInfo, rotData := (st.setBootInfo env b).rotData } := by
  unfold setBootInfo; split <;> rfl

theorem setHalInfo_frame (h : HalInfo) :
    st.setHalInfo h = { st with halInfo := (st.setHalInfo h).halInfo } := by
  unfold setHalInfo; split <;> rfl

theorem setAttestationIds_frame (ids : AttestationIdInfo) : st.setAttestationIds ids =
    { st with attestationIdInfo := (st.setAttestationIds ids).attestationIdInfo } := by
  unfold setAttestationIds; split <;> (try split) <;> rfl

theorem getAttestationIds_frame :
    st.getAttestationIds.2 = { st with attestationIdInfo := st.getAttestationIds.1 } := by
  unfold getAttestationIds; split <;> (try split) <;> (try split) <;> rfl

theorem addRngEntropy_frame (data : Bytes) :
    (st.addRngEntropy env data).2 = { st with rng := (st.addRngEntropy env data).2.rng } := by
  unfold addRngEntropy; split <;> rfl

theorem sddDeleteSecret_frame (slot : SecureDeletionSlot) :
    st.sddDeleteSecret slot = { st with sddMgr := (st.sddDeleteSecret slot).sddMgr } := by
  unfold sddDeleteSecret; split <;> (try split) <;> rfl

theorem sddNewSecret_frame : (st.sddNewSecret env).2 =
    { st with sddMgr := (st.sddNewSecret env).2.sddMgr, rng := (st.sddNewSecret env).2.rng } := by
  unfold sddNewSecret; split <;> (try split) <;> rfl

theorem deleteKey_frame (keyBlob : Bytes) :
    (st.deleteKey env keyBlob).2 = { st with sddMgr := (st.deleteKey env keyBlob).2.sddMgr } := by
  unfold deleteKey; split <;> (try split) <;> first | rfl | exact sddDeleteSecret_frame _ _

theorem deleteAllKeys_frame :
    st.deleteAllKeys.2 = { st with sddMgr := st.deleteAllKeys.2.sddMgr } := by
  unfold deleteAllKeys; split <;> rfl

theorem destroyAttestationIds_frame :
    st.destroyAttestationIds.2 = { st with attestIds := st.destroyAttestationIds.2.attestIds } := by
  unfold destroyAttestationIds; split <;> rfl

theorem getRootOfTrustChallenge_frame : st.getRootOfTrustChallenge.2 =
    { st with rotChallenge := st.getRootOfTrustChallenge.2.rotChallenge,
              rng := st.getRootOfTrustChallenge.2.rng } := by
  unfold getRootOfTrustChallenge; split <;> rfl

theorem sendRootOfTrust_frame (rootOfTrust : Bytes) : (st.sendRootOfTrust env rootOfTrust).2 =
    { st with bootInfo := (st.sendRootOfTrust env rootOfTrust).2.bootInfo } := by
  unfold sendRootOfTrust; split <;> (try split) <;> rfl

/-- A panic in `send_root_of_trust` comes before any change. -/
theorem sendRootOfTrust_snd_of_fst_eq_none {rootOfTrust : Bytes}
    (h : (st.sendRootOfTrust env rootOfTrust).1 = none) : (st.sendRootOfTrust env rootOfTrust).2 = st := by
  unfold sendRootOfTrust at h ⊢
  split <;> simp_all

theorem generateCertReq_snd : (st.generateCertReq env).2 = st.getAttestationIds.2 := rfl

end KeyMintTa

theorem deviceLocked_frame (now : Timestamp) (st : KeyMintTa) (passwordOnly : Bool)
    (token : Option TimeStampToken) : (deviceLocked env now st passwordOnly token).2 =
      { st with deviceLocked := (deviceLocked env now st passwordOnly token).2.deviceLocked } := by
  unfold deviceLocked; split <;> rfl

/-! ## 2. Latched state -/

/-- The start-of-day state, and the root-of-trust challenge. -/
structure Core where
  hwInfo : HardwareInfo
  bootInfo : Option BootInfo
  rotData : Option Bytes
  halInfo : Option HalInfo
  attestationIdInfo : Option AttestationIdInfo
  inEarlyBoot : Bool
  rotChallenge : ByteArr 16

def KeyMintTa.core (st : KeyMintTa) : Core :=
  ⟨st.hwInfo, st.bootInfo, st.rotData, st.halInfo, st.attestationIdInfo, st.inEarlyBoot,
    st.rotChallenge⟩

/-- How the TA may change from `st` to `st'`: the hardware description is fixed, early boot
only ends, the boot information, the HAL information and the attestation IDs are never
overwritten once set, and neither is the root-of-trust data once the boot information is. -/
structure Latches (st st' : KeyMintTa) : Prop where
  hwInfo : st'.hwInfo = st.hwInfo
  inEarlyBoot : st.inEarlyBoot = false → st'.inEarlyBoot = false
  bootInfo : ∀ b, st.bootInfo = some b → st'.bootInfo = some b
  rotData : st.bootInfo.isSome → st'.rotData = st.rotData
  halInfo : ∀ h, st.halInfo = some h → st'.halInfo = some h
  attestationIdInfo : ∀ ids, st.attestationIdInfo = some ids → st'.attestationIdInfo = some ids

namespace Latches

variable {st st' st'' : KeyMintTa}

theorem refl (st : KeyMintTa) : Latches st st :=
  ⟨rfl, id, fun _ => id, fun _ => rfl, fun _ => id, fun _ => id⟩

theorem trans (h₁ : Latches st st') (h₂ : Latches st' st'') : Latches st st'' where
  hwInfo := h₂.hwInfo.trans h₁.hwInfo
  inEarlyBoot h := h₂.inEarlyBoot (h₁.inEarlyBoot h)
  bootInfo b h := h₂.bootInfo b (h₁.bootInfo b h)
  rotData h := by
    obtain ⟨b, hb⟩ := Option.isSome_iff_exists.mp h
    rw [h₂.rotData (by rw [h₁.bootInfo b hb]; rfl), h₁.rotData h]
  halInfo h hh := h₂.halInfo h (h₁.halInfo h hh)
  attestationIdInfo ids h := h₂.attestationIdInfo ids (h₁.attestationIdInfo ids h)

/-- A method that leaves the start-of-day state alone latches trivially. -/
theorem of_core (h : st'.core = st.core) : Latches st st' := by
  obtain ⟨st'⟩ := st'
  obtain ⟨st⟩ := st
  simp only [KeyMintTa.core, Core.mk.injEq] at h
  obtain ⟨h₁, h₂, h₃, h₄, h₅, h₆, -⟩ := h
  exact ⟨h₁, fun h => h₆ ▸ h, fun b h => h₂ ▸ h, fun _ => h₃, fun _ h => h₄ ▸ h,
    fun _ h => h₅ ▸ h⟩

end Latches

namespace KeyMintTa

variable (st : KeyMintTa)

theorem latches_setBootInfo (b : BootInfo) : Latches st (st.setBootInfo env b) := by
  unfold setBootInfo
  split
  · exact ⟨rfl, id, fun _ h' => by simp_all, fun h' => by simp_all, fun _ => id, fun _ => id⟩
  · exact .refl st

theorem latches_setHalInfo (h : HalInfo) : Latches st (st.setHalInfo h) := by
  unfold setHalInfo
  split
  · exact ⟨rfl, id, fun _ => id, fun _ => rfl, fun _ h' => by simp_all, fun _ => id⟩
  · exact .refl st

theorem latches_setAttestationIds (ids : AttestationIdInfo) :
    Latches st (st.setAttestationIds ids) := by
  unfold setAttestationIds
  split
  · exact .refl st
  · split
    · exact .refl st
    · exact ⟨rfl, id, fun _ => id, fun _ => rfl, fun _ => id, fun _ h' => by simp_all⟩

theorem getAttestationIds_fst_of_some {ids : AttestationIdInfo} (h : st.attestationIdInfo = some ids) :
    st.getAttestationIds.1 = some ids := by
  simp [getAttestationIds, h]

theorem latches_getAttestationIds : Latches st st.getAttestationIds.2 := by
  rw [getAttestationIds_frame]
  exact ⟨rfl, id, fun _ => id, fun _ => rfl, fun _ => id,
    fun _ h => getAttestationIds_fst_of_some st h⟩

theorem latches_sendRootOfTrust (rootOfTrust : Bytes) :
    Latches st (st.sendRootOfTrust env rootOfTrust).2 := by
  unfold sendRootOfTrust
  split
  · split
    · exact ⟨rfl, id, fun _ h' => by simp_all, fun h' => by simp_all, fun _ => id, fun _ => id⟩
    · exact .refl st
  · exact .refl st
  · exact .refl st

theorem latches_applyExtCall (call : ExtCall) : Latches st (st.applyExtCall env call) := by
  cases call with
  | newSecret => exact .of_core (by rw [applyExtCall, sddNewSecret_frame]; rfl)
  | deleteSecret slot => exact .of_core (by rw [applyExtCall, sddDeleteSecret_frame]; rfl)
  | getAttestationIds => exact latches_getAttestationIds st
  | _ => exact .of_core rfl

theorem latches_applyExtCalls (calls : List ExtCall) : Latches st (st.applyExtCalls env calls) := by
  induction calls generalizing st with
  | nil => exact .refl st
  | cons call calls ih => exact (latches_applyExtCall st call).trans (ih _)

/-- The calls of a method outside `lib.rs` write no start-of-day field but the attestation IDs. -/
theorem core_applyExtCall (call : ExtCall) : (st.applyExtCall env call).core =
    { st.core with attestationIdInfo := (st.applyExtCall env call).attestationIdInfo } := by
  cases call with
  | newSecret => rw [applyExtCall, sddNewSecret_frame]; rfl
  | deleteSecret slot => rw [applyExtCall, sddDeleteSecret_frame]; rfl
  | getAttestationIds => rw [applyExtCall, getAttestationIds_frame]; rfl
  | _ => rfl

theorem core_applyExtCalls (calls : List ExtCall) : (st.applyExtCalls env calls).core =
    { st.core with attestationIdInfo := (st.applyExtCalls env calls).attestationIdInfo } := by
  induction calls generalizing st with
  | nil => rfl
  | cons call calls ih =>
    show ((st.applyExtCall env call).applyExtCalls env calls).core = _
    rw [ih, core_applyExtCall]
    rfl

end KeyMintTa

/-! ## 3. The forms of a step -/

/-- A step that only latches: it keeps the boot information, the root-of-trust data and
challenge, and the secure-deletion manager. -/
structure Quiet (st st' : KeyMintTa) : Prop where
  latches : Latches st st'
  bootInfo : st'.bootInfo = st.bootInfo
  rotData : st'.rotData = st.rotData
  rotChallenge : st'.rotChallenge = st.rotChallenge
  sddMgr : st'.sddMgr = st.sddMgr

namespace Quiet

theorem refl (st : KeyMintTa) : Quiet st st := ⟨.refl st, rfl, rfl, rfl, rfl⟩

/-- A step that latches, and leaves the four guarded fields as they were, is quiet. -/
theorem of_eq {st st' : KeyMintTa} (hl : Latches st st')
    (h : (st'.bootInfo, st'.rotData, st'.rotChallenge, st'.sddMgr) =
      (st.bootInfo, st.rotData, st.rotChallenge, st.sddMgr)) : Quiet st st' := by
  simp only [Prod.mk.injEq] at h
  exact ⟨hl, h.1, h.2.1, h.2.2.1, h.2.2.2⟩

end Quiet

namespace KeyMintTa

variable (st : KeyMintTa)

theorem quiet_setHalInfo (h : HalInfo) : Quiet st (st.setHalInfo h) :=
  .of_eq (latches_setHalInfo st h) (by rw [setHalInfo_frame])

theorem quiet_setAttestationIds (ids : AttestationIdInfo) : Quiet st (st.setAttestationIds ids) :=
  .of_eq (latches_setAttestationIds st ids) (by rw [setAttestationIds_frame])

theorem quiet_getAttestationIds : Quiet st st.getAttestationIds.2 :=
  .of_eq (latches_getAttestationIds st) (by rw [getAttestationIds_frame])

theorem quiet_addRngEntropy (data : Bytes) : Quiet st (st.addRngEntropy env data).2 :=
  .of_eq (.of_core (by rw [addRngEntropy_frame]; rfl)) (by rw [addRngEntropy_frame])

theorem quiet_destroyAttestationIds : Quiet st st.destroyAttestationIds.2 :=
  .of_eq (.of_core (by rw [destroyAttestationIds_frame]; rfl)) (by rw [destroyAttestationIds_frame])

theorem quiet_earlyBootEnded : Quiet st st.earlyBootEnded.2 :=
  ⟨⟨rfl, fun _ => rfl, fun _ => id, fun _ => rfl, fun _ => id, fun _ => id⟩, rfl, rfl, rfl, rfl⟩

end KeyMintTa

theorem quiet_deviceLocked (now : Timestamp) (st : KeyMintTa) (passwordOnly : Bool)
    (token : Option TimeStampToken) : Quiet st (deviceLocked env now st passwordOnly token).2 :=
  .of_eq (.of_core (by rw [deviceLocked_frame]; rfl)) (by rw [deviceLocked_frame])

/-- What processing `req` can make of `st`. -/
inductive StepForm (env : Env) (now : Timestamp) (st : KeyMintTa) : PerformOpReq → KeyMintTa → Prop
  | quiet (req : PerformOpReq) {st' : KeyMintTa} : Quiet st st' → StepForm env now st req st'
  | setBootInfo (req : PerformOpReq) (b : BootInfo) : StepForm env now st req (st.setBootInfo env b)
  | deleteKey (req : PerformOpReq) (keyBlob : Bytes) :
      StepForm env now st req (st.deleteKey env keyBlob).2
  | deleteAllKeys (req : PerformOpReq) : StepForm env now st req st.deleteAllKeys.2
  | getRootOfTrustChallenge :
      StepForm env now st .getRootOfTrustChallenge st.getRootOfTrustChallenge.2
  | sendRootOfTrust (req : PerformOpReq) (rootOfTrust : Bytes) :
      StepForm env now st req (st.sendRootOfTrust env rootOfTrust).2
  | external (req : PerformOpReq) (rsp : PerformOpResponse) (calls : List ExtCall) :
      handleReq env now st req = .external rsp calls →
      StepForm env now st req (st.applyExtCalls env calls)

/-- A method that may panic leaves the TA as the method does: a panic comes before any change. -/
theorem processReq_snd_ofPanicking {α : Type} (now : Timestamp) (st : KeyMintTa)
    (req : PerformOpReq) {op : KeyMintOperation} {wrap : α → PerformOpRsp}
    {r : Option (Except Error α) × KeyMintTa} (h : handleReq env now st req = .ofPanicking op wrap r)
    (hr : r.1 = none → r.2 = st) : (processReq env now st req).2 = r.2 := by
  obtain ⟨_ | _, _⟩ := r <;> simp only [processReq, h, Outcome.ofPanicking]
  exact (hr rfl).symm

/-- **Every step has one of the forms.** -/
theorem processReq_stepForm (now : Timestamp) (st : KeyMintTa) (req : PerformOpReq) :
    StepForm env now st req (processReq env now st req).2 := by
  cases req with
  | setBootInfo _ _ s _ _ =>
    simp only [processReq, handleReq]
    cases VerifiedBootState.tryFrom s
    · exact .quiet _ (.refl st)
    · exact .setBootInfo _ _
  | setHalInfo => exact .quiet _ (st.quiet_setHalInfo _)
  | setAttestationIds => exact .quiet _ (st.quiet_setAttestationIds _)
  | deviceGetHardwareInfo | deviceConvertStorageKeyToEphemeral | deviceGetKeyCharacteristics
  | rpcGetHardwareInfo | rpcGenerateEcdsaP256KeyPair
  | rpcGenerateCertificateV2Request => exact .quiet _ (.refl st)
  | deviceAddRngEntropy => exact .quiet _ (st.quiet_addRngEntropy _)
  | deviceDestroyAttestationIds => exact .quiet _ st.quiet_destroyAttestationIds
  | deviceDeviceLocked => exact .quiet _ (quiet_deviceLocked _ _ _ _)
  | deviceEarlyBootEnded => exact .quiet _ st.quiet_earlyBootEnded
  | rpcGenerateCertificateRequest => exact .quiet _ st.quiet_getAttestationIds
  | deviceDeleteKey => exact .deleteKey _ _
  | deviceDeleteAllKeys => exact .deleteAllKeys _
  | getRootOfTrustChallenge => exact .getRootOfTrustChallenge
  | getRootOfTrust challenge =>
    rw [processReq_snd_ofPanicking now st (.getRootOfTrust challenge) (by rfl) fun _ => rfl]
    exact .quiet _ (.refl st)
  | sendRootOfTrust rootOfTrust =>
    rw [processReq_snd_ofPanicking now st (.sendRootOfTrust rootOfTrust) (by rfl)
      st.sendRootOfTrust_snd_of_fst_eq_none]
    exact .sendRootOfTrust _ _
  | _ => exact .external _ _ _ rfl

/-! ## 4. Latched state along a run -/

/-- **One step latches.** -/
theorem StepForm.latches {now : Timestamp} {st st' : KeyMintTa} {req : PerformOpReq}
    (h : StepForm env now st req st') : Latches st st' := by
  cases h with
  | quiet _ h => exact h.latches
  | setBootInfo _ b => exact st.latches_setBootInfo b
  | deleteKey _ keyBlob => exact .of_core (by rw [KeyMintTa.deleteKey_frame]; rfl)
  | deleteAllKeys => exact .of_core (by rw [KeyMintTa.deleteAllKeys_frame]; rfl)
  | getRootOfTrustChallenge =>
    rw [KeyMintTa.getRootOfTrustChallenge_frame]
    exact ⟨rfl, id, fun _ => id, fun _ => rfl, fun _ => id, fun _ => id⟩
  | sendRootOfTrust _ rootOfTrust => exact st.latches_sendRootOfTrust rootOfTrust
  | external _ _ calls _ => exact st.latches_applyExtCalls calls

/-- **A whole run latches.** -/
theorem Run.latches {P : Timestamp → KeyMintTa → PerformOpReq → Prop} {st st' : KeyMintTa}
    (h : Run env P st st') : Latches st st' := by
  induction h with
  | refl st => exact .refl st
  | step now req _ _ ih => exact (processReq_stepForm now _ req).latches.trans ih

/-! ## 5. The root-of-trust challenge -/

/-- **Only `GetRootOfTrustChallenge` draws a new challenge.** -/
theorem StepForm.rotChallenge {now : Timestamp} {st st' : KeyMintTa} {req : PerformOpReq}
    (h : StepForm env now st req st') (hreq : req ≠ .getRootOfTrustChallenge) :
    st'.rotChallenge = st.rotChallenge := by
  cases h with
  | quiet _ h => exact h.rotChallenge
  | setBootInfo _ b => rw [st.setBootInfo_frame b]
  | deleteKey _ keyBlob => rw [st.deleteKey_frame keyBlob]
  | deleteAllKeys => rw [st.deleteAllKeys_frame]
  | getRootOfTrustChallenge => exact absurd rfl hreq
  | sendRootOfTrust _ rootOfTrust => rw [st.sendRootOfTrust_frame rootOfTrust]
  | external _ _ calls _ => exact congrArg Core.rotChallenge (st.core_applyExtCalls calls)

theorem Run.rotChallenge {st st' : KeyMintTa}
    (h : Run env (fun _ _ req => req ≠ .getRootOfTrustChallenge) st st') :
    st'.rotChallenge = st.rotChallenge := by
  induction h with
  | refl => rfl
  | step now req hreq _ ih => exact ih.trans ((processReq_stepForm now _ req).rotChallenge hreq)

/-! ## 6. Secure-deletion slots -/

/-- The slot `s` holds no secret: the TA has no secure-deletion manager, or its manager's slot
is empty. -/
def SlotEmpty (s : SecureDeletionSlot) (st : KeyMintTa) : Prop :=
  ∀ m, st.sddMgr = some m → m.secrets s = none

namespace KeyMintTa

variable {s : SecureDeletionSlot} {st : KeyMintTa}

theorem slotEmpty_of_sddMgr {st' : KeyMintTa} (hs : SlotEmpty s st) (h : st'.sddMgr = st.sddMgr) :
    SlotEmpty s st' :=
  fun m hm => hs m (h ▸ hm)

/-- `delete_secret` erases the slot from the manager, if there is one; erasing an empty slot
changes nothing, so its failure is harmless. -/
theorem sddMgr_sddDeleteSecret (st : KeyMintTa) (slot : SecureDeletionSlot) :
    (st.sddDeleteSecret slot).sddMgr = st.sddMgr.map (·.erase slot) := by
  rcases hm : st.sddMgr with _ | m
  · simp [sddDeleteSecret, hm]
  · cases hs : m.secrets slot <;>
      simp [sddDeleteSecret, SddManager.deleteSecret, hm, hs, SddManager.erase_of_empty]

theorem slotEmpty_sddDeleteSecret {slot : SecureDeletionSlot} (hs : SlotEmpty s st ∨ slot = s) :
    SlotEmpty s (st.sddDeleteSecret slot) := by
  intro m hm
  rw [sddMgr_sddDeleteSecret, Option.map_eq_some'] at hm
  obtain ⟨m₀, hm₀, rfl⟩ := hm
  rcases hs with hs | rfl
  · simp [Function.update_apply, hs m₀ hm₀]
  · simp

theorem sddMgr_deleteAllKeys (st : KeyMintTa) :
    st.deleteAllKeys.2.sddMgr = st.sddMgr.map SddManager.deleteAll := by
  unfold deleteAllKeys; split <;> simp [*]

theorem slotEmpty_deleteAllKeys (st : KeyMintTa) : SlotEmpty s st.deleteAllKeys.2 := by
  intro m hm
  rw [sddMgr_deleteAllKeys, Option.map_eq_some'] at hm
  obtain ⟨_, -, rfl⟩ := hm
  rfl

theorem slotEmpty_deleteKey (keyBlob : Bytes) (hs : SlotEmpty s st) :
    SlotEmpty s (st.deleteKey env keyBlob).2 := by
  unfold deleteKey
  split
  · split
    · exact slotEmpty_sddDeleteSecret (.inl hs)
    · exact hs
  · exact hs

theorem slotEmpty_sddNewSecret (hs : SlotEmpty s st) (hnew : s ∉ (st.sddNewSecret env).1.toList) :
    SlotEmpty s (st.sddNewSecret env).2 := by
  unfold sddNewSecret at hnew ⊢
  split
  · rename_i m₀ hm₀
    split
    · rename_i slot _ m' _ hok
      obtain ⟨-, -, rfl⟩ := newSecret_eq_ok hok
      simp only [hm₀, hok, Option.toList_some, List.mem_singleton] at hnew
      intro m hm
      cases hm
      simp [Function.update_apply, hnew, hs m₀ hm₀]
    · exact hs
  · exact hs

theorem slotEmpty_applyExtCalls (calls : List ExtCall) (hs : SlotEmpty s st)
    (hnew : s ∉ st.newSecretSlots env calls) : SlotEmpty s (st.applyExtCalls env calls) := by
  induction calls generalizing st with
  | nil => exact hs
  | cons call calls ih =>
    simp only [newSecretSlots, List.mem_append, not_or] at hnew
    refine ih ?_ hnew.2
    cases call with
    | newSecret => exact slotEmpty_sddNewSecret hs hnew.1
    | deleteSecret slot => exact slotEmpty_sddDeleteSecret (.inl hs)
    | getAttestationIds => exact slotEmpty_of_sddMgr hs (by rw [applyExtCall, getAttestationIds_frame])
    | _ => exact hs

end KeyMintTa

/-- **An empty slot is filled only by `new_secret`.** -/
theorem StepForm.slotEmpty {now : Timestamp} {st st' : KeyMintTa} {req : PerformOpReq}
    {s : SecureDeletionSlot} (h : StepForm env now st req st') (hs : SlotEmpty s st)
    (hnew : s ∉ stepNewSecretSlots env now st req) : SlotEmpty s st' := by
  cases h with
  | quiet _ h => exact KeyMintTa.slotEmpty_of_sddMgr hs h.sddMgr
  | setBootInfo _ b => exact KeyMintTa.slotEmpty_of_sddMgr hs (by rw [st.setBootInfo_frame b])
  | deleteKey _ keyBlob => exact KeyMintTa.slotEmpty_deleteKey keyBlob hs
  | deleteAllKeys => exact st.slotEmpty_deleteAllKeys
  | getRootOfTrustChallenge =>
    exact KeyMintTa.slotEmpty_of_sddMgr hs (by rw [st.getRootOfTrustChallenge_frame])
  | sendRootOfTrust _ r => exact KeyMintTa.slotEmpty_of_sddMgr hs (by rw [st.sendRootOfTrust_frame r])
  | external _ _ calls hh =>
    rw [stepNewSecretSlots, hh] at hnew
    exact KeyMintTa.slotEmpty_applyExtCalls calls hs hnew

/-- **A run that does not refill the slot keeps it empty.** -/
theorem Run.slotEmpty {st st' : KeyMintTa} {s : SecureDeletionSlot}
    (h : Run env (fun now st req => s ∉ stepNewSecretSlots env now st req) st st')
    (hs : SlotEmpty s st) : SlotEmpty s st' := by
  induction h with
  | refl => exact hs
  | step now req hnew _ ih => exact ih ((processReq_stepForm now _ req).slotEmpty hs hnew)

end KeyMint
