import Mathlib.Data.List.FinRange
import KeyMint.Ta.State

/-!
# Use-count tracking

`lib.rs` lines 371-404: `update_use_count`, which the operation code calls when it begins an
operation on a key with a `UsageCountLimit`.  The table has one entry per tracked key, found by a
scan that also remembers the first free entry.

## Main results

- `updateUseCount_cases`: everything one call can do.
- `UseCountInv`: keys are tracked at most once, each entry counts the successful calls for its
  key, and those stay within the key's limit; `UseCountInv.step` and `UseCountInv.run`.
- `useCount_run_invariant`: **every sequence of calls from the empty table of `KeyMintTa::new`
  keeps the invariant, and `TooManyOperations` means the table is full of other keys**.
- `updateUseCount_error_table`, `updateUseCount_ok_table`: what a failed and a successful call
  leave; `updateUseCount_failure_inserts_entry`: **a call with limit 0 for a new key fails and
  still takes a slot**, since the entry is written before the limit is checked.
-/

namespace KeyMint

/-! ## 1. Machine arithmetic -/

theorem uint64_toNat_add_one {c : UInt64} (h : c.toNat + 1 < 2 ^ 64) :
    (c + 1).toNat = c.toNat + 1 := by
  have h1 : (1 : UInt64).toNat = 1 := rfl
  simp only [UInt64.toNat, UInt64.add_def, BitVec.toNat_add] at h h1 ⊢
  rw [h1]
  exact Nat.mod_eq_of_lt h

theorem uint64_le_iff_toNat {a b : UInt64} : a ≤ b ↔ a.toNat ≤ b.toNat := by
  simp only [UInt64.le_def, BitVec.le_def, UInt64.toNat]

@[simp] theorem uint32_toUInt64_toNat (m : UInt32) : m.toUInt64.toNat = m.toNat := rfl

/-! ## 2. The model -/

/-- The `for idx in 0..self.use_count.len()` loop over the given indices: the first free index
seen, and the index of the entry for `keyId`, at which the loop breaks. -/
def scanUseCount (table : UseCountTable) (keyId : KeyId) :
    List (Fin maxUseCountedKeys) → Option (Fin maxUseCountedKeys) →
      Option (Fin maxUseCountedKeys) × Option (Fin maxUseCountedKeys)
  | [], freeIdx => (freeIdx, none)
  | idx :: rest, freeIdx =>
    match table idx with
    | none => scanUseCount table keyId rest (if freeIdx.isNone then some idx else freeIdx)
    | some c => if c.keyId = keyId then (freeIdx, some idx) else scanUseCount table keyId rest freeIdx

/-- The end of `update_use_count`, once the entry is at `idx`: refuse a key at its limit, or
count one more use. -/
def bumpUseCount (table : UseCountTable) (idx : Fin maxUseCountedKeys) (maxUses : UInt32) :
    Except Error Unit × UseCountTable :=
  let c := (table idx).get!
  if c.count ≥ maxUses.toUInt64 then
    (.error (kmErr .keyMaxOpsExceeded
      ("use count " ++ toString c.count ++ " >= limit " ++ toString maxUses)), table)
  else (.ok (), Function.update table idx (some { c with count := c.count + 1 }))

/-- Increment the use count for the given key ID, failing if `max_uses` is reached. -/
def updateUseCount (table : UseCountTable) (keyId : KeyId) (maxUses : UInt32) :
    Except Error Unit × UseCountTable :=
  let (freeIdx, slotIdx) := scanUseCount table keyId (List.finRange maxUseCountedKeys) none
  -- First use of this key ID: use a free slot if available.
  let (table, slotIdx) := match slotIdx, freeIdx with
    | none, some idx => (Function.update table idx (some ⟨keyId, 0⟩), some idx)
    | _, _ => (table, slotIdx)
  match slotIdx with
  | some idx => bumpUseCount table idx maxUses
  | none => (.error (kmErr .tooManyOperations "too many use-counted keys already in play"), table)

/-- A sequence of calls, each with its key ID and limit, from the given table: the results in
order, and the final table. -/
def runUseCount (table : UseCountTable) : List (KeyId × UInt32) → List (Except Error Unit) × UseCountTable
  | [] => ([], table)
  | (keyId, maxUses) :: calls =>
    let (r, table) := updateUseCount table keyId maxUses
    let (rs, table) := runUseCount table calls
    (r :: rs, table)

/-- The number of calls for `k` that returned `Ok`. -/
def okCalls (k : KeyId) (calls : List (KeyId × UInt32)) (rs : List (Except Error Unit)) : Nat :=
  (calls.zip rs).countP fun (c, r) => c.1 = k && r.isOk

/-! ## 3. The scan -/

section Scan

variable {t : UseCountTable} {k : KeyId} {l : List (Fin maxUseCountedKeys)}
  {free : Option (Fin maxUseCountedKeys)} {i : Fin maxUseCountedKeys}

theorem scanUseCount_slot_some (h : (scanUseCount t k l free).2 = some i) :
    ∃ c, t i = some c ∧ c.keyId = k := by
  induction l generalizing free with
  | nil => cases h
  | cons idx rest ih =>
    simp only [scanUseCount] at h
    split at h
    · exact ih h
    · split at h
      · cases h; exact ⟨_, ‹_›, ‹_›⟩
      · exact ih h

theorem scanUseCount_slot_none (h : (scanUseCount t k l free).2 = none) :
    ∀ i ∈ l, ∀ c, t i = some c → c.keyId ≠ k := by
  induction l generalizing free with
  | nil => simp
  | cons idx rest ih =>
    simp only [scanUseCount] at h
    rintro j (_ | ⟨_, hj⟩) c hc
    · split at h
      · simp_all
      · split at h <;> simp_all
    · split at h
      · exact ih h j hj c hc
      · split at h
        · cases h
        · exact ih h j hj c hc

theorem scanUseCount_free_some (h : (scanUseCount t k l free).1 = some i) :
    free = some i ∨ t i = none := by
  induction l generalizing free with
  | nil => exact .inl h
  | cons idx rest ih =>
    simp only [scanUseCount] at h
    split at h
    · rcases ih h with h' | h'
      · cases free <;> simp_all
      · exact .inr h'
    · split at h
      · exact .inl h
      · exact ih h

theorem scanUseCount_free_none (h₁ : (scanUseCount t k l free).1 = none)
    (h₂ : (scanUseCount t k l free).2 = none) : free = none ∧ ∀ i ∈ l, t i ≠ none := by
  induction l generalizing free with
  | nil => simpa using h₁
  | cons idx rest ih =>
    cases hidx : t idx with
    | none =>
      simp only [scanUseCount, hidx] at h₁ h₂
      exact absurd (ih h₁ h₂).1 (by cases free <;> simp)
    | some c =>
      simp only [scanUseCount, hidx] at h₁ h₂
      split at h₂
      · cases h₂
      · simp only [if_neg ‹_›] at h₁
        have := ih h₁ h₂
        simp_all

end Scan

/-! ## 4. One call -/

section Step

variable {t t' : UseCountTable} {k : KeyId} {n : UInt32} {r : Except Error Unit}

theorem bumpUseCount_cases {i : Fin maxUseCountedKeys} {c : UseCount} (hc : t i = some c)
    (h : bumpUseCount t i n = (r, t')) :
    (n.toNat ≤ c.count.toNat ∧ (∃ msg, r = .error (kmErr .keyMaxOpsExceeded msg)) ∧ t' = t) ∨
    (c.count.toNat < n.toNat ∧ r = .ok () ∧
      t' = Function.update t i (some { c with count := c.count + 1 })) := by
  simp only [bumpUseCount, hc, Option.get!_some, ge_iff_le, uint64_le_iff_toNat,
    uint32_toUInt64_toNat] at h
  split at h
  · exact .inl ⟨‹_›, ⟨_, (Prod.mk.inj h).1.symm⟩, (Prod.mk.inj h).2.symm⟩
  · exact .inr ⟨by omega, (Prod.mk.inj h).1.symm, (Prod.mk.inj h).2.symm⟩

/-- **Everything `update_use_count` can do**: count on the entry for the key, wherever it is;
or, when the key has no entry, count on a new entry in a free slot; or, when there is no free
slot either, fail with `TooManyOperations`. -/
theorem updateUseCount_cases (h : updateUseCount t k n = (r, t')) :
    (∃ i c, t i = some c ∧ c.keyId = k ∧ bumpUseCount t i n = (r, t')) ∨
    ((∀ i c, t i = some c → c.keyId ≠ k) ∧ ∃ i, t i = none ∧
      bumpUseCount (Function.update t i (some ⟨k, 0⟩)) i n = (r, t')) ∨
    ((∀ i c, t i = some c → c.keyId ≠ k) ∧ (∀ i, t i ≠ none) ∧
      r = .error (kmErr .tooManyOperations "too many use-counted keys already in play") ∧
      t' = t) := by
  simp only [updateUseCount] at h
  generalize hs : scanUseCount t k (List.finRange maxUseCountedKeys) none = s at h
  obtain ⟨free, slot⟩ := s
  have hnone : slot = none → ∀ i c, t i = some c → c.keyId ≠ k := fun hsl i =>
    scanUseCount_slot_none (by rw [hs, hsl]) i (List.mem_finRange i)
  rcases slot with _ | i
  · rcases free with _ | i
    · obtain ⟨-, hfull⟩ := scanUseCount_free_none (by rw [hs]) (by rw [hs])
      exact .inr (.inr ⟨hnone rfl, fun i => hfull i (List.mem_finRange i),
        (Prod.mk.inj h).1.symm, (Prod.mk.inj h).2.symm⟩)
    · have hfree := scanUseCount_free_some (show (scanUseCount _ _ _ none).1 = some i by rw [hs])
      exact .inr (.inl ⟨hnone rfl, i, hfree.resolve_left (by simp), h⟩)
  · obtain ⟨c, hc, hck⟩ := scanUseCount_slot_some (show (scanUseCount _ _ _ none).2 = some i by rw [hs])
    exact .inl ⟨i, c, hc, hck, h⟩

/-- **`TooManyOperations` only when the table is full of other keys.**  An entry for the key is
found wherever it sits, free slots before it included. -/
theorem updateUseCount_tooManyOperations {e : Error}
    (h : updateUseCount t k n = (.error e, t')) (he : e.code = .tooManyOperations) :
    (∀ i c, t i = some c → c.keyId ≠ k) ∧ ∀ i, t i ≠ none := by
  have hbump : ∀ {t₀ i c}, t₀ i = some c → bumpUseCount t₀ i n = (.error e, t') → False :=
    fun hc hb => by
      rcases bumpUseCount_cases hc hb with ⟨-, ⟨msg, hr⟩, -⟩ | ⟨-, hr, -⟩ <;> cases hr
      simp at he
  rcases updateUseCount_cases h with ⟨i, c, hc, -, hb⟩ | ⟨-, i, -, hb⟩ | ⟨hk, hfull, -⟩
  · exact (hbump hc hb).elim
  · exact (hbump (Function.update_same _ _ _) hb).elim
  · exact ⟨hk, hfull⟩

/-- **What a failed call leaves**: the table it was given; or, when the key has no entry and the
limit is 0, that table with a zero-count entry for the key in a free slot, since the entry is
written before the limit is checked. -/
theorem updateUseCount_error_table {e : Error} (h : updateUseCount t k n = (.error e, t')) :
    t' = t ∨ (n = 0 ∧ (∀ i c, t i = some c → c.keyId ≠ k) ∧
      ∃ i, t i = none ∧ t' = Function.update t i (some ⟨k, 0⟩)) := by
  rcases updateUseCount_cases h with ⟨i, c, hc, -, hb⟩ | ⟨hk, i, hfree, hb⟩ | ⟨-, -, -, rfl⟩
  · rcases bumpUseCount_cases hc hb with ⟨-, -, rfl⟩ | ⟨-, hr, -⟩
    · exact .inl rfl
    · cases hr
  · rcases bumpUseCount_cases (Function.update_same _ _ _) hb with ⟨hn, -, rfl⟩ | ⟨-, hr, -⟩
    · exact .inr ⟨UInt32.toNat.inj (Nat.le_zero.mp hn), hk, i, hfree, rfl⟩
    · cases hr
  · exact .inl rfl

/-- **What a successful call leaves**: the table with one entry for the key changed, an entry that
held the key or was free. -/
theorem updateUseCount_ok_table (h : updateUseCount t k n = (.ok (), t')) :
    ∃ i v, (t i = none ∨ ∃ c, t i = some c ∧ c.keyId = k) ∧
      t' = Function.update t i (some ⟨k, v⟩) := by
  rcases updateUseCount_cases h with ⟨i, c, hc, rfl, hb⟩ | ⟨-, i, hfree, hb⟩ | ⟨-, -, hr, -⟩
  · rcases bumpUseCount_cases hc hb with ⟨-, ⟨_, hr⟩, -⟩ | ⟨-, -, rfl⟩
    · cases hr
    · exact ⟨i, _, .inr ⟨c, hc, rfl⟩, rfl⟩
  · rcases bumpUseCount_cases (Function.update_same _ _ _) hb with ⟨-, ⟨_, hr⟩, -⟩ | ⟨-, -, rfl⟩
    · cases hr
    · exact ⟨i, _, .inl hfree, Function.update_idem _ _ _⟩
  · cases hr

end Step

/-- **A failing call that changes the table.**  For every table with a free slot and no entry for
the key, a call with limit 0 fails with `KeyMaxOpsExceeded` and leaves a new zero-count entry for
the key in a slot that was free. -/
theorem updateUseCount_failure_inserts_entry (t : UseCountTable) (k : KeyId)
    (hk : ∀ i c, t i = some c → c.keyId ≠ k) (hfree : ∃ i, t i = none) :
    ∃ i msg, t i = none ∧ updateUseCount t k 0 =
      (.error (kmErr .keyMaxOpsExceeded msg), Function.update t i (some ⟨k, 0⟩)) := by
  rcases hres : updateUseCount t k 0 with ⟨r, t'⟩
  rcases updateUseCount_cases hres with ⟨i, c, hc, hck, -⟩ | ⟨-, i, hi, hb⟩ | ⟨-, hfull, -⟩
  · exact (hk i c hc hck).elim
  · rcases bumpUseCount_cases (Function.update_same _ _ _) hb with ⟨-, ⟨msg, rfl⟩, rfl⟩ | ⟨hlt, -⟩
    · exact ⟨i, msg, hi, rfl⟩
    · simp at hlt
  · obtain ⟨i, hi⟩ := hfree
    exact (hfull i hi).elim

/-- The first use, with limit 0, of a key on the table of `KeyMintTa::new`. -/
theorem updateUseCount_failure_inserts_entry_new :
    ∃ i msg, (KeyMintTa.new ⟨.trustedEnvironment, 0, "", "", "", false⟩ (.v3 "" "" false 0)
        ⟨fun _ => 0⟩ none none).useCount i = none ∧
      updateUseCount (KeyMintTa.new ⟨.trustedEnvironment, 0, "", "", "", false⟩
        (.v3 "" "" false 0) ⟨fun _ => 0⟩ none none).useCount ⟨Mathlib.Vector.replicate 32 0⟩ 0 =
      (.error (kmErr .keyMaxOpsExceeded msg), Function.update (KeyMintTa.new
        ⟨.trustedEnvironment, 0, "", "", "", false⟩ (.v3 "" "" false 0) ⟨fun _ => 0⟩ none
        none).useCount i (some ⟨⟨Mathlib.Vector.replicate 32 0⟩, 0⟩)) :=
  updateUseCount_failure_inserts_entry _ _ (by simp [KeyMintTa.new]) ⟨⟨0, by decide⟩, rfl⟩

/-! ## 5. The invariant -/

/-- What the table satisfies after calls in which key `k` was always given limit `limit k` and
`okCount k` calls for it succeeded. -/
structure UseCountInv (limit : KeyId → UInt32) (okCount : KeyId → Nat) (t : UseCountTable) :
    Prop where
  /-- No two occupied entries hold the same key ID. -/
  unique : ∀ i j c d, t i = some c → t j = some d → c.keyId = d.keyId → i = j
  /-- An entry counts the successful calls for its key, with no wrap-around. -/
  count_eq : ∀ i c, t i = some c → c.count.toNat = okCount c.keyId
  /-- A key without an entry has had no successful call. -/
  untracked : ∀ k, (∀ i c, t i = some c → c.keyId ≠ k) → okCount k = 0
  /-- Successful calls stay within the key's limit. -/
  within_limit : ∀ k, okCount k ≤ (limit k).toNat

section Invariant

variable {limit : KeyId → UInt32} {ok : KeyId → Nat} {t t' : UseCountTable} {k : KeyId}
  {r : Except Error Unit}

theorem useCountInv_empty (limit : KeyId → UInt32) : UseCountInv limit (fun _ => 0) fun _ => none where
  unique := by simp
  count_eq := by simp
  untracked _ _ := rfl
  within_limit _ := Nat.zero_le _

/-- Writing the entry for `k` at `i`, where `k` has no other entry and `i` is free or holds `k`,
keeps the invariant, with the count of `k` read from the new entry. -/
theorem UseCountInv.setEntry (hi : UseCountInv limit ok t) {i : Fin maxUseCountedKeys}
    {v : UInt64} (hk : ∀ j c, t j = some c → c.keyId = k → j = i)
    (hslot : ∀ c, t i = some c → c.keyId = k) (hv : v.toNat ≤ (limit k).toNat) :
    UseCountInv limit (Function.update ok k v.toNat) (Function.update t i (some ⟨k, v⟩)) where
  unique j j' c d hc hd hcd := by
    have key : ∀ {j c}, Function.update t i (some ⟨k, v⟩) j = some c → c.keyId = k → j = i :=
      fun {j c} hc hck => by
        by_cases hj : j = i
        · exact hj
        · rw [Function.update_noteq hj] at hc; exact hk j c hc hck
    by_cases hj : j = i <;> by_cases hj' : j' = i
    · rw [hj, hj']
    · subst hj; simp only [Function.update_same, Option.some.injEq] at hc; subst hc
      exact (key hd hcd.symm).symm
    · subst hj'; simp only [Function.update_same, Option.some.injEq] at hd; subst hd
      exact key hc hcd
    · rw [Function.update_noteq hj] at hc; rw [Function.update_noteq hj'] at hd
      exact hi.unique j j' c d hc hd hcd
  count_eq j c hc := by
    by_cases hj : j = i
    · subst hj; simp only [Function.update_same, Option.some.injEq] at hc; subst hc; simp
    · rw [Function.update_noteq hj] at hc
      have hck : c.keyId ≠ k := fun hck => hj (hk j c hc hck)
      rw [Function.update_noteq hck, hi.count_eq j c hc]
  untracked k' hk' := by
    have hne : k' ≠ k := fun h => hk' i _ (Function.update_same _ _ _) h.symm
    rw [Function.update_noteq hne]
    refine hi.untracked k' fun j c hc => ?_
    by_cases hj : j = i
    · subst hj; rintro rfl; exact hne (hslot c hc)
    · exact hk' j c (by rwa [Function.update_noteq hj])
  within_limit k' := by
    by_cases hk' : k' = k
    · subst hk'; simpa using hv
    · rw [Function.update_noteq hk']; exact hi.within_limit k'

@[simp] theorem okCalls_nil (rs : List (Except Error Unit)) : okCalls k [] rs = 0 := rfl

@[simp] theorem okCalls_cons (k' : KeyId) (n : UInt32) (calls : List (KeyId × UInt32))
    (rs : List (Except Error Unit)) :
    okCalls k ((k', n) :: calls) (r :: rs) =
      okCalls k calls rs + if k' = k ∧ r.isOk then 1 else 0 := by
  simp [okCalls, List.countP_cons]

theorem okCalls_cons_split (c : KeyId × UInt32) (calls : List (KeyId × UInt32))
    (rs : List (Except Error Unit)) :
    okCalls k (c :: calls) (r :: rs) = okCalls k [c] [r] + okCalls k calls rs := by
  simp [okCalls, List.countP_cons, Nat.add_comm]

theorem okCount_error (n : UInt32) (e : Error) :
    (fun k' => ok k' + okCalls k' [(k, n)] [.error e]) = ok := by
  simp [Except.isOk, Except.toBool]

theorem okCount_ok (n : UInt32) :
    (fun k' => ok k' + okCalls k' [(k, n)] [.ok ()]) = Function.update ok k (ok k + 1) := by
  funext k'
  by_cases hk : k' = k
  · subst hk; simp [Except.isOk, Except.toBool]
  · simp [Function.update_noteq hk, Ne.symm hk]

/-- **One call keeps the invariant**, counting its success. -/
theorem UseCountInv.step (hi : UseCountInv limit ok t)
    (h : updateUseCount t k (limit k) = (r, t')) :
    UseCountInv limit (fun k' => ok k' + okCalls k' [(k, limit k)] [r]) t' := by
  have hlim : (limit k).toNat < 2 ^ 32 := (limit k).toNat_lt_size
  rcases updateUseCount_cases h with ⟨i, ⟨ck, cc⟩, hc, hck, hb⟩ | ⟨hk, i, hfree, hb⟩ | ⟨-, -, rfl, rfl⟩
  · -- the key's entry exists
    simp only at hck; subst hck
    rcases bumpUseCount_cases hc hb with ⟨-, ⟨msg, rfl⟩, rfl⟩ | ⟨hlt, rfl, rfl⟩
    · rwa [okCount_error]
    · have hcount := hi.count_eq i _ hc
      simp only at hcount hlt
      have hv : (cc + 1).toNat = ok ck + 1 := by rw [uint64_toNat_add_one (by omega), hcount]
      rw [okCount_ok, ← hv]
      refine hi.setEntry (fun j d hd hdk => hi.unique j i d _ hd hc hdk) (fun d hd => ?_) (by omega)
      rw [hc] at hd; cases hd; rfl
  · -- a free slot takes the key
    have hok := hi.untracked k hk
    have hk' : ∀ j c, t j = some c → c.keyId = k → j = i := fun j c hc hck => (hk j c hc hck).elim
    have hslot : ∀ c, t i = some c → c.keyId = k := by simp [hfree]
    rcases bumpUseCount_cases (Function.update_same _ _ _) hb with ⟨-, ⟨msg, rfl⟩, rfl⟩ | ⟨hlt, rfl, rfl⟩
    · rw [okCount_error]
      have := hi.setEntry hk' hslot (v := 0) (Nat.zero_le _)
      rwa [show (0 : UInt64).toNat = ok k from hok.symm, Function.update_eq_self] at this
    · rw [okCount_ok, Function.update_idem, hok]
      exact hi.setEntry hk' hslot (v := 0 + 1) (by simpa using hlt)
  · -- the table is full
    rwa [okCount_error]

/-- **A whole run keeps the invariant**, counting each call's success, when every call for a key
carries that key's limit. -/
theorem UseCountInv.run (hi : UseCountInv limit ok t) {calls : List (KeyId × UInt32)}
    (hlim : ∀ c ∈ calls, c.2 = limit c.1) :
    UseCountInv limit (fun k => ok k + okCalls k calls (runUseCount t calls).1)
      (runUseCount t calls).2 := by
  induction calls generalizing ok t with
  | nil => simpa [runUseCount] using hi
  | cons c calls ih =>
    obtain ⟨k, n⟩ := c
    obtain rfl : n = limit k := hlim _ (List.mem_cons_self _ _)
    rcases hupd : updateUseCount t k (limit k) with ⟨r, t₁⟩
    have := ih (hi.step hupd) fun c hc => hlim c (List.mem_cons_of_mem _ hc)
    simp only [runUseCount, hupd]
    convert this using 2 with k'
    rw [okCalls_cons_split, Nat.add_assoc]

end Invariant

/-- **The use-count invariant of every run from `KeyMintTa::new`.**  After any sequence of calls in
which every call for a key carries that key's limit, no two entries of the table hold the same
key; the entry for a key counts exactly the calls for it that returned `Ok`, so that number stays
within the limit and the increment never wraps; and a further call returns `TooManyOperations`
only when its key has no entry and no entry is free. -/
theorem useCount_run_invariant (hwInfo : HardwareInfo) (rpcInfo : RpcInfo) (rng : Rng)
    (sddMgr : Option SddManager) (attestIds : Option AttestIdsDevice) (limit : KeyId → UInt32)
    (calls : List (KeyId × UInt32)) (hlim : ∀ c ∈ calls, c.2 = limit c.1) :
    let run := runUseCount (KeyMintTa.new hwInfo rpcInfo rng sddMgr attestIds).useCount calls
    UseCountInv limit (fun k => okCalls k calls run.1) run.2 ∧
    ∀ k n e t', updateUseCount run.2 k n = (.error e, t') → e.code = .tooManyOperations →
      (∀ i c, run.2 i = some c → c.keyId ≠ k) ∧ ∀ i, run.2 i ≠ none :=
  ⟨by simpa using (useCountInv_empty limit).run hlim,
    fun _ _ _ _ h he => updateUseCount_tooManyOperations h he⟩

/-- The same key used twice under a limit of one. -/
theorem useCount_run_invariant_twice :
    let calls := [(⟨Mathlib.Vector.replicate 32 0⟩, 1), (⟨Mathlib.Vector.replicate 32 0⟩, 1)]
    let run := runUseCount (KeyMintTa.new ⟨.trustedEnvironment, 0, "", "", "", false⟩
      (.v3 "" "" false 0) ⟨fun _ => 0⟩ none none).useCount calls
    UseCountInv (fun _ => 1) (fun k => okCalls k calls run.1) run.2 ∧
    ∀ k n e t', updateUseCount run.2 k n = (.error e, t') → e.code = .tooManyOperations →
      (∀ i c, run.2 i = some c → c.keyId ≠ k) ∧ ∀ i, run.2 i ≠ none :=
  useCount_run_invariant _ _ _ _ _ (fun _ => 1) _ (by simp)

end KeyMint
