import KeyMint.Keyblob.Codec

/-!
# Secure-deletion secrets and the slot holder

`keyblob.rs` lines 130-179.  The `SecureDeletionSecretManager` trait is implemented by each device,
outside this repository, so its store is modelled as the trait documents it: a map from slots to
secrets, where `new_secret` fills an empty slot, `delete_secret` empties one and `delete_all`
empties them all.  `SlotHolder` is the guard that releases a reserved slot when it is dropped
without having been consumed.
-/

namespace KeyMint

/-! ## 1. The secret store -/

/-- Modelled from the spec: the storage behind a `SecureDeletionSecretManager`, the secret each
slot holds. -/
@[ext]
structure SddManager where
  secrets : SecureDeletionSlot → Option SecureDeletionData

namespace SddManager

variable (m : SddManager) (slot : SecureDeletionSlot) (sdd : SecureDeletionData)

def insert : SddManager := ⟨Function.update m.secrets slot (some sdd)⟩

def erase : SddManager := ⟨Function.update m.secrets slot none⟩

/-- Modelled from the spec: `get_secret`, which fails on an empty slot. -/
def getSecret : Except Error SecureDeletionData :=
  match m.secrets slot with
  | some sdd => .ok sdd
  | none => .error (kmErr .invalidKeyBlob "secure deletion slot empty")

/-- Modelled from the spec: `delete_secret`, which fails on an empty slot. -/
def deleteSecret : Except Error SddManager :=
  match m.secrets slot with
  | some _ => .ok (m.erase slot)
  | none => .error (kmErr .invalidArgument "secure deletion slot empty")

/-- Modelled from the spec: `delete_all`. -/
def deleteAll (_ : SddManager) : SddManager := ⟨fun _ => none⟩

@[simp] theorem insert_secrets : (m.insert slot sdd).secrets = Function.update m.secrets slot (some sdd) := rfl

@[simp] theorem erase_secrets : (m.erase slot).secrets = Function.update m.secrets slot none := rfl

@[simp] theorem deleteAll_secrets : m.deleteAll.secrets = fun _ => none := rfl

theorem erase_insert_of_empty (h : m.secrets slot = none) : (m.insert slot sdd).erase slot = m := by
  ext1; funext s
  by_cases hs : s = slot <;> simp [hs, h]

@[simp] theorem getSecret_insert : (m.insert slot sdd).getSecret slot = .ok sdd := by
  simp [getSecret]

@[simp] theorem deleteSecret_insert :
    (m.insert slot sdd).deleteSecret slot = .ok ((m.insert slot sdd).erase slot) := by
  simp [deleteSecret]

theorem getSecret_of_empty (h : m.secrets slot = none) : ∃ e, m.getSecret slot = .error e := by
  simp [getSecret, h]

theorem erase_of_empty (h : m.secrets slot = none) : m.erase slot = m := by
  ext1; rw [erase_secrets, ← h, Function.update_eq_self]

end SddManager

/-- Modelled from the spec: a device's `new_secret` policy, the slot it fills and the fresh
secret it draws from the RNG, or an error.  The trait promises an empty slot, and an allocator
carries the proof of that. -/
structure SlotAllocator where
  pick : SddManager → Rng → Except Error (SecureDeletionSlot × SecureDeletionData × Rng)
  pick_empty : ∀ m r s d r', pick m r = .ok (s, d, r') → m.secrets s = none

/-- `new_secret`: populate the picked slot with the fresh secret and return both. -/
def newSecret (alloc : SlotAllocator) (m : SddManager) (rng : Rng) :
    Except Error ((SecureDeletionSlot × SecureDeletionData) × SddManager × Rng) := do
  let (slot, sdd, rng) ← alloc.pick m rng
  pure ((slot, sdd), m.insert slot sdd, rng)

/-- Inversion of `new_secret`: the allocator picked an empty slot, which now holds the secret. -/
theorem newSecret_eq_ok {alloc : SlotAllocator} {m m' : SddManager} {rng rng' : Rng}
    {slot : SecureDeletionSlot} {sdd : SecureDeletionData}
    (h : newSecret alloc m rng = .ok ((slot, sdd), m', rng')) :
    alloc.pick m rng = .ok (slot, sdd, rng') ∧ m.secrets slot = none ∧ m' = m.insert slot sdd := by
  simp only [newSecret, bind_eq_ok, except_pure_eq, Except.ok.injEq] at h
  obtain ⟨⟨slot', sdd', rng''⟩, hpick, hres⟩ := h
  simp only [Prod.mk.injEq] at hres
  obtain ⟨⟨rfl, rfl⟩, rfl, rfl⟩ := hres
  exact ⟨hpick, alloc.pick_empty _ _ _ _ _ hpick, rfl⟩

/-- An allocator that fills slot 0 with the given secret, and fails when slot 0 is taken. -/
def SlotAllocator.firstSlot (sdd : SecureDeletionData) : SlotAllocator where
  pick m r := match m.secrets ⟨0⟩ with
    | none => .ok (⟨0⟩, sdd, r)
    | some _ => .error (kmErr .unknownError "no free slot")
  pick_empty m r s d r' h := by
    cases h0 : m.secrets ⟨0⟩ <;> simp_all

/-! ## 2. `SlotHolder` -/

/-- RAII class to hold a secure deletion slot. -/
structure SlotHolder where
  slot : Option SecureDeletionSlot

namespace SlotHolder

/-- `Drop for SlotHolder`: delete a slot still held; a failure to delete is logged, not
propagated. -/
def drop (h : SlotHolder) (mgr : SddManager) : SddManager :=
  match h.slot with
  | some slot =>
      match mgr.deleteSecret slot with
      | .ok mgr' => mgr'
      | .error _ => mgr
  | none => mgr

/-- `SlotHolder::new`: reserve a new secure deletion slot. -/
def new (alloc : SlotAllocator) (mgr : SddManager) (rng : Rng) :
    Except Error ((SlotHolder × SecureDeletionData) × SddManager × Rng) := do
  let ((slot, sdd), mgr, rng) ← newSecret alloc mgr rng
  pure ((⟨some slot⟩, sdd), mgr, rng)

/-- `SlotHolder::consume`: `self.slot.take().unwrap()`, leaving the holder empty. -/
def consume (h : SlotHolder) : SecureDeletionSlot × SlotHolder := (h.slot.get!, ⟨none⟩)

@[simp] theorem drop_none (mgr : SddManager) : drop ⟨none⟩ mgr = mgr := rfl

@[simp] theorem consume_some (slot : SecureDeletionSlot) : consume ⟨some slot⟩ = (slot, ⟨none⟩) := rfl

/-- Inversion of a reservation: the allocator picked an empty slot, which now holds the secret. -/
theorem new_eq_ok {alloc : SlotAllocator} {mgr mgr' : SddManager} {rng rng' : Rng}
    {h : SlotHolder} {sdd : SecureDeletionData}
    (hnew : new alloc mgr rng = .ok ((h, sdd), mgr', rng')) :
    ∃ slot, alloc.pick mgr rng = .ok (slot, sdd, rng') ∧ mgr.secrets slot = none ∧
      h = ⟨some slot⟩ ∧ mgr' = mgr.insert slot sdd := by
  simp only [new, newSecret, bind_eq_ok, except_pure_eq, Except.ok.injEq] at hnew
  obtain ⟨_, ⟨⟨slot, sdd', rng''⟩, hpick, rfl⟩, hres⟩ := hnew
  simp only [Prod.mk.injEq] at hres
  obtain ⟨⟨rfl, rfl⟩, rfl, rfl⟩ := hres
  exact ⟨slot, hpick, alloc.pick_empty _ _ _ _ _ hpick, rfl, rfl⟩

/-- Dropping a holder right after reserving its slot gives the store back as it was. -/
theorem drop_insert {mgr : SddManager} {slot : SecureDeletionSlot} {sdd : SecureDeletionData}
    (h : mgr.secrets slot = none) : drop ⟨some slot⟩ (mgr.insert slot sdd) = mgr := by
  simp [drop, SddManager.erase_insert_of_empty _ _ _ h]

end SlotHolder

end KeyMint
