import Mathlib.Data.String.Basic
import KeyMint.Cbor

/-!
# A reference serializer

`ciborium` itself is outside the repository, and the results that need serialization to be
invertible assume `CborSerializer.RoundTrips`.  This module gives a serializer that satisfies that
law: a prefix-free encoding of `Value`, with a type byte, base-128 naturals, and lengths before
strings and sequences.  It is not CBOR's wire format; it is the smallest concrete instance of the
law, used to instantiate the results that assume it.

The decoder is given a depth budget, and `decodeValue_encodeValue` shows that the length of the
encoding is always enough: every item inside a value encodes to fewer bytes than the value.
-/

namespace KeyMint

/-! ## 1. Naturals -/

/-- Base-128 digits, least significant first, the high bit marking that another digit follows;
`fuel` bounds the number of digits. -/
def encodeNatAux : Nat → Nat → Bytes
  | 0, _ => [0]
  | fuel + 1, n =>
    if n < 128 then [n.toUInt8] else (n % 128 + 128).toUInt8 :: encodeNatAux fuel (n / 128)

def encodeNat (n : Nat) : Bytes := encodeNatAux n n

def decodeNat : Bytes → Option (Nat × Bytes)
  | [] => none
  | b :: rest =>
    if b.toNat < 128 then some (b.toNat, rest)
    else (decodeNat rest).map fun (m, r) => (b.toNat - 128 + 128 * m, r)

theorem decodeNat_encodeNatAux (fuel n : Nat) (h : n ≤ fuel) (rest : Bytes) :
    decodeNat (encodeNatAux fuel n ++ rest) = some (n, rest) := by
  induction fuel generalizing n with
  | zero => obtain rfl : n = 0 := by omega
            rfl
  | succ fuel ih =>
    by_cases hn : n < 128
    · have hb : n.toUInt8.toNat = n := UInt8.toNat_ofNat_of_lt (by simp [UInt8.size]; omega)
      simp [encodeNatAux, decodeNat, hn, hb]
    · have hb : (n % 128 + 128).toUInt8.toNat = n % 128 + 128 :=
        UInt8.toNat_ofNat_of_lt (by simp [UInt8.size]; omega)
      simp only [encodeNatAux, hn, if_false, List.cons_append, decodeNat, hb,
        ih (n / 128) (by omega), Option.map_some']
      simp only [show ¬ n % 128 + 128 < 128 by omega, if_false, Option.some.injEq, Prod.mk.injEq,
        and_true]
      omega

@[simp] theorem decodeNat_encodeNat (n : Nat) (rest : Bytes) :
    decodeNat (encodeNat n ++ rest) = some (n, rest) :=
  decodeNat_encodeNatAux n n le_rfl rest

/-! ## 2. Sequences -/

/-- Read `n` items with `read`, one after the other. -/
def readList {α : Type} (read : Bytes → Option (α × Bytes)) : Nat → Bytes → Option (List α × Bytes)
  | 0, bs => some ([], bs)
  | n + 1, bs => do
    let (x, r) ← read bs
    let (xs, r) ← readList read n r
    pure (x :: xs, r)

theorem readList_flatMap {α : Type} {read : Bytes → Option (α × Bytes)} {enc : α → Bytes}
    (xs : List α) (h : ∀ x ∈ xs, ∀ r, read (enc x ++ r) = some (x, r)) (rest : Bytes) :
    readList read xs.length (xs.flatMap enc ++ rest) = some (xs, rest) := by
  induction xs with
  | nil => rfl
  | cons x xs ih =>
    have hx := h x (List.mem_cons_self _ _) (xs.flatMap enc ++ rest)
    have hxs := ih fun y hy => h y (List.mem_cons_of_mem _ hy)
    simp [List.append_assoc, readList, hx, hxs]

/-- Read an `n`-byte string. -/
def readBytes (n : Nat) (bs : Bytes) : Option (Bytes × Bytes) :=
  if n ≤ bs.length then some (bs.take n, bs.drop n) else none

theorem readBytes_append (b rest : Bytes) : readBytes b.length (b ++ rest) = some (b, rest) := by
  simp [readBytes]

/-! ## 3. Values -/

mutual

def encodeValue : Value → Bytes
  | .integer (.ofNat n) => 0 :: encodeNat n
  | .integer (.negSucc n) => 1 :: encodeNat n
  | .bytes b => 2 :: encodeNat b.length ++ b
  | .float bits => 3 :: encodeNat bits.toNat
  | .text s => 4 :: encodeNat s.data.length ++ s.data.flatMap fun c => encodeNat c.toNat
  | .bool b => [5, if b then 1 else 0]
  | .null => [6]
  | .tag t v => 7 :: encodeNat t.toNat ++ encodeValue v
  | .array a => 8 :: encodeNat a.length ++ encodeValues a
  | .map m => 9 :: encodeNat m.length ++ encodeEntries m

def encodeValues : List Value → Bytes
  | [] => []
  | v :: vs => encodeValue v ++ encodeValues vs

def encodeEntries : List (Value × Value) → Bytes
  | [] => []
  | (k, v) :: kvs => encodeValue k ++ encodeValue v ++ encodeEntries kvs

end

/-- Read a map entry: a key, then a value. -/
def readEntry (read : Bytes → Option (Value × Bytes)) (bs : Bytes) :
    Option ((Value × Value) × Bytes) := do
  let (k, r) ← read bs
  let (v, r) ← read r
  pure ((k, v), r)

/-- Read one value, with items nested at most `depth` deep. -/
def decodeValue : Nat → Bytes → Option (Value × Bytes)
  | 0, _ => none
  | _ + 1, [] => none
  | depth + 1, b :: bs =>
    match b.toNat with
    | 0 => (decodeNat bs).map fun (n, r) => (.integer (.ofNat n), r)
    | 1 => (decodeNat bs).map fun (n, r) => (.integer (.negSucc n), r)
    | 2 => do
      let (n, r) ← decodeNat bs
      let (b, r) ← readBytes n r
      pure (.bytes b, r)
    | 3 => (decodeNat bs).map fun (n, r) => (.float (.ofNat n), r)
    | 4 => do
      let (n, r) ← decodeNat bs
      let (cs, r) ← readList decodeNat n r
      pure (.text ⟨cs.map Char.ofNat⟩, r)
    | 5 => match bs with
      | c :: r => some (.bool (c = 1), r)
      | [] => none
    | 6 => some (.null, bs)
    | 7 => do
      let (t, r) ← decodeNat bs
      let (v, r) ← decodeValue depth r
      pure (.tag (.ofNat t) v, r)
    | 8 => do
      let (n, r) ← decodeNat bs
      let (vs, r) ← readList (decodeValue depth) n r
      pure (.array vs, r)
    | 9 => do
      let (n, r) ← decodeNat bs
      let (kvs, r) ← readList (readEntry (decodeValue depth)) n r
      pure (.map kvs, r)
    | _ => none

theorem encodeValues_eq (vs : List Value) : encodeValues vs = vs.flatMap encodeValue := by
  induction vs with
  | nil => rfl
  | cons v vs ih => simp [encodeValues, ih]

theorem encodeEntries_eq (kvs : List (Value × Value)) :
    encodeEntries kvs = kvs.flatMap fun kv => encodeValue kv.1 ++ encodeValue kv.2 := by
  induction kvs with
  | nil => rfl
  | cons kv kvs ih => obtain ⟨k, v⟩ := kv; simp [encodeEntries, ih]

theorem uint64_ofNat_toNat (n : UInt64) : UInt64.ofNat n.toNat = n :=
  UInt64.eq_of_toBitVec_eq (BitVec.eq_of_toNat_eq (by simp [UInt64.ofNat, UInt64.toNat]))

theorem length_le_flatMap {α : Type} {enc : α → Bytes} {xs : List α} {x : α} (hx : x ∈ xs) :
    (enc x).length ≤ (xs.flatMap enc).length := by
  induction xs with
  | nil => cases hx
  | cons y ys ih =>
    simp only [List.flatMap_cons, List.length_append]
    rcases List.mem_cons.mp hx with rfl | hx
    · omega
    · have := ih hx; omega

/-- **Decoding inverts encoding** whenever the budget covers the encoding's length. -/
theorem decodeValue_encodeValue (depth : Nat) (v : Value) (h : (encodeValue v).length ≤ depth)
    (rest : Bytes) : decodeValue depth (encodeValue v ++ rest) = some (v, rest) := by
  induction depth generalizing v rest with
  | zero =>
    cases v <;> try (rename_i i; cases i)
    all_goals simp [encodeValue] at h
  | succ depth ih =>
    have child : ∀ w, (encodeValue w).length < (encodeValue v).length → ∀ r,
        decodeValue depth (encodeValue w ++ r) = some (w, r) := fun w hw r => ih w (by omega) r
    cases v with
    | integer i => cases i <;> simp [encodeValue, decodeValue]
    | bytes b => simp [encodeValue, decodeValue, readBytes_append]
    | float bits => simp [encodeValue, decodeValue, uint64_ofNat_toNat]
    | text s =>
      have hcs := @readList_flatMap _ decodeNat encodeNat (s.data.map Char.toNat)
        (fun n _ r => decodeNat_encodeNat n r) rest
      simp only [List.flatMap_map, List.length_map, String.length_data] at hcs
      simp [encodeValue, decodeValue, hcs, Function.comp_def]
    | bool b => cases b <;> rfl
    | null => rfl
    | tag t w =>
      have hw := child w (by simp [encodeValue]; omega) rest
      simp [encodeValue, decodeValue, hw, uint64_ofNat_toNat]
    | array a =>
      have ha := @readList_flatMap _ (decodeValue depth) encodeValue a (fun w hw r => child w (by
        have := @length_le_flatMap _ encodeValue _ _ hw
        simp only [encodeValue, encodeValues_eq, List.length_cons, List.length_append]; omega) r) rest
      simp [encodeValue, decodeValue, encodeValues_eq, ha]
    | map m =>
      have hm := @readList_flatMap _ (readEntry (decodeValue depth))
        (fun kv => encodeValue kv.1 ++ encodeValue kv.2) m (fun kv hkv r => by
        have := @length_le_flatMap _ (fun kv => encodeValue kv.1 ++ encodeValue kv.2) _ _ hkv
        simp only [List.length_append] at this
        have hk := child kv.1 (by
          simp only [encodeValue, encodeEntries_eq, List.length_cons, List.length_append]; omega)
        have hv := child kv.2 (by
          simp only [encodeValue, encodeEntries_eq, List.length_cons, List.length_append]; omega)
        simp [readEntry, List.append_assoc, hk, hv]) rest
      simp [encodeValue, decodeValue, encodeEntries_eq, hm]

/-- The reference serializer: decoding is given the input's length as its depth budget. -/
def CborSerializer.reference : CborSerializer where
  encode := encodeValue
  decode bs := match decodeValue bs.length bs with
    | some r => .ok r
    | none => .error .decodeFailed

theorem CborSerializer.reference_roundTrips : CborSerializer.reference.RoundTrips := by
  intro v rest
  simp only [reference, decodeValue_encodeValue (encodeValue v ++ rest).length v (by simp) rest]

end KeyMint
