import Mathlib.Data.Vector.Basic

/-!
# CBOR values and the `AsCborValue` codec interface

Every structure that crosses the TA boundary or is stored in a keyblob is converted to a
`cbor::value::Value` by the `AsCborValue` trait of `kmr_wire`, and from there to bytes by the
`ciborium` serializer.  Neither library is part of this repository: the value type is the data
model of `ciborium`, the trait is a pair of conversion functions, and the serializer is a
parameter whose laws are stated where they are used.
-/

namespace KeyMint

/-! ## 1. Fallible computations

The Rust `?` operator is `Except`'s bind.  These lemmas take a successful chain of `?`s apart, so
that proofs never unfold a bind by hand. -/

section ExceptLemmas

variable {ε α β : Type} {x : Except ε α} {f : α → Except ε β} {a : α} {b : β}

@[simp] theorem except_pure_eq : (pure a : Except ε α) = .ok a := rfl

@[simp] theorem bind_eq_ok : x >>= f = .ok b ↔ ∃ a, x = .ok a ∧ f a = .ok b := by
  cases x <;> simp [bind, Except.bind]

@[simp] theorem map_eq_ok {g : α → β} : x.map g = .ok b ↔ ∃ a, x = .ok a ∧ g a = b := by
  cases x <;> simp [Except.map]

@[simp] theorem ok_bind : (Except.ok a : Except ε α) >>= f = f a := rfl

@[simp] theorem error_bind {e : ε} : (Except.error e : Except ε α) >>= f = .error e := rfl

end ExceptLemmas

/-! ## 2. Values and codecs -/

/-- Byte strings: `Vec<u8>` and `&[u8]`. -/
abbrev Bytes := List UInt8

/-- `[u8; n]`. -/
abbrev ByteArr (n : Nat) := Mathlib.Vector UInt8 n

/-- A CBOR data item, as `ciborium::value::Value`.  Floats are kept as their bit pattern. -/
inductive Value where
  | integer (i : Int)
  | bytes (b : Bytes)
  | float (bits : UInt64)
  | text (s : String)
  | bool (b : Bool)
  | null
  | tag (t : UInt64) (v : Value)
  | array (a : List Value)
  | map (m : List (Value × Value))
  deriving Inhabited

/-- `CborError` of `kmr_wire`. -/
inductive CborError where
  | decodeFailed
  | encodeFailed
  | extraneousData
  | outOfRangeIntegerValue
  | nonEnumValue
  | unexpectedItem (got want : String)
  | allocationFailed
  deriving DecidableEq, Repr

/-- Modelled from the spec: `cbor_type_error`, the `UnexpectedItem` error naming the kind of
item found and the kind wanted. -/
def cborTypeError {α : Type} (value : Value) (want : String) : Except CborError α :=
  let got := match value with
    | .integer _ => "int"
    | .bytes _ => "bstr"
    | .float _ => "float"
    | .text _ => "tstr"
    | .bool _ => "bool"
    | .null => "null"
    | .tag _ _ => "tag"
    | .array _ => "arr"
    | .map _ => "map"
  .error (.unexpectedItem got want)

@[simp] theorem cborTypeError_ne_ok {α : Type} {value : Value} {want : String} {x : α} :
    cborTypeError value want ≠ .ok x := by
  simp [cborTypeError]

/-- The `AsCborValue` trait: conversion of a type to and from a CBOR value. -/
structure AsCborValue (α : Type) where
  toCborValue : α → Except CborError Value
  fromCborValue : Value → Except CborError α

/-- Decoding inverts every successful encoding. -/
def AsCborValue.RoundTrips {α : Type} (c : AsCborValue α) : Prop :=
  ∀ x v, c.toCborValue x = .ok v → c.fromCborValue v = .ok x

/-- The `ciborium` serializer: `encode` writes one item, `decode` reads one item off the front
of a byte string and returns the rest. -/
structure CborSerializer where
  encode : Value → Bytes
  decode : Bytes → Except CborError (Value × Bytes)

/-- Reading back what was written returns the item and leaves any following bytes untouched. -/
def CborSerializer.RoundTrips (s : CborSerializer) : Prop :=
  ∀ v rest, s.decode (s.encode v ++ rest) = .ok (v, rest)

variable {α : Type}

/-- `AsCborValue::into_vec`: convert to a value, then serialize it. -/
def intoVec (s : CborSerializer) (c : AsCborValue α) (x : α) : Except CborError Bytes :=
  (c.toCborValue x).map s.encode

/-- `AsCborValue::from_slice`: read one item, convert it, and reject trailing bytes. -/
def fromSlice (s : CborSerializer) (c : AsCborValue α) (data : Bytes) : Except CborError α := do
  let (value, rest) ← s.decode data
  let x ← c.fromCborValue value
  if rest.isEmpty then pure x else .error .extraneousData

/-- Modelled from the spec: the codec of `[u8; N]`, a byte string of exactly `N` bytes. -/
def byteArrAsCbor (n : Nat) : AsCborValue (ByteArr n) where
  toCborValue b := .ok (.bytes b.toList)
  fromCborValue
    | .bytes l => if h : l.length = n then .ok ⟨l, h⟩ else .error (.unexpectedItem "bstr" "bstr len")
    | v => cborTypeError v "bstr"

theorem byteArrAsCbor_roundTrips (n : Nat) : (byteArrAsCbor n).RoundTrips := by
  rintro ⟨l, hl⟩ v h
  cases h
  simp [byteArrAsCbor, hl]

theorem fromSlice_eq_ok {s : CborSerializer} {c : AsCborValue α} {data : Bytes} {x : α} :
    fromSlice s c data = .ok x ↔ ∃ v, s.decode data = .ok (v, []) ∧ c.fromCborValue v = .ok x := by
  simp only [fromSlice, bind_eq_ok]
  constructor
  · rintro ⟨⟨v, rest⟩, hd, y, hy, h⟩
    split at h
    · rename_i hrest
      cases List.isEmpty_iff.mp hrest
      exact ⟨v, hd, hy.trans (Except.ok.inj h ▸ rfl)⟩
    · cases h
  · rintro ⟨v, hd, hv⟩
    exact ⟨(v, []), hd, x, hv, rfl⟩

/-- Reading the bytes of one item converts that item. -/
theorem fromSlice_encode {s : CborSerializer} {c : AsCborValue α} (hs : s.RoundTrips) (v : Value) :
    fromSlice s c (s.encode v) = c.fromCborValue v := by
  have hdec := hs v []
  simp only [List.append_nil] at hdec
  simp only [fromSlice, hdec, ok_bind, List.isEmpty_nil, if_true]
  cases c.fromCborValue v <;> rfl

theorem fromSlice_intoVec {s : CborSerializer} {c : AsCborValue α} (hs : s.RoundTrips)
    (hc : c.RoundTrips) {x : α} {data : Bytes} (h : intoVec s c x = .ok data) :
    fromSlice s c data = .ok x := by
  obtain ⟨v, hv, rfl⟩ := map_eq_ok.mp h
  rw [fromSlice_encode hs, hc x v hv]

/-- The serializations of a codec behave as CBOR items do: none is empty, and the bytes of one
value are never those of another, nor a prefix of them. -/
structure AsCborValue.IsItemCode (c : AsCborValue α) (s : CborSerializer) : Prop where
  nonempty : ∀ x d, intoVec s c x = .ok d → d ≠ []
  prefixFree : ∀ x x' d d' r r', intoVec s c x = .ok d → intoVec s c x' = .ok d' →
    d ++ r = d' ++ r' → x = x' ∧ r = r'

/-- A serializer that reads back what it writes, with a codec that does too, writes items. -/
theorem AsCborValue.isItemCode_of_roundTrips {s : CborSerializer} {c : AsCborValue α}
    (hs : s.RoundTrips) (hc : c.RoundTrips) : c.IsItemCode s where
  nonempty x d h hd := by
    obtain ⟨v, -, rfl⟩ := map_eq_ok.mp h
    have key : ∀ v', v' = v := fun v' => by
      have h1 := hs v' []
      rw [List.append_nil, ← List.nil_append (s.encode v'), ← hd, hs v] at h1
      exact (Prod.mk.inj (Except.ok.inj h1)).1.symm
    exact absurd ((key .null).trans (key (.array [])).symm) (by intro h; cases h)
  prefixFree x x' d d' r r' h h' he := by
    obtain ⟨v, hv, rfl⟩ := map_eq_ok.mp h
    obtain ⟨v', hv', rfl⟩ := map_eq_ok.mp h'
    have hd := (hs v r).symm.trans (he ▸ hs v' r')
    obtain ⟨rfl, rfl⟩ := Prod.mk.inj (Except.ok.inj hd)
    exact ⟨Except.ok.inj ((hc x v hv).symm.trans (hc x' v hv')), rfl⟩

/-! ## 3. Reference codecs

Codecs that handle a single value.  They satisfy the round-trip law, and serve to instantiate the
results that assume it. -/

/-- Encodes `x₀` as `null` and nothing else. -/
def AsCborValue.single [DecidableEq α] (x₀ : α) : AsCborValue α where
  toCborValue x := if x = x₀ then .ok .null else .error .encodeFailed
  fromCborValue _ := .ok x₀

theorem AsCborValue.single_roundTrips [DecidableEq α] (x₀ : α) : (single x₀).RoundTrips := by
  intro x v h
  by_cases hx : x = x₀ <;> simp_all [single]

/-- Encodes the empty list as the empty array, and nothing else. -/
def AsCborValue.nil : AsCborValue (List α) where
  toCborValue
    | [] => .ok (.array [])
    | _ => .error .encodeFailed
  fromCborValue _ := .ok []

theorem AsCborValue.nil_roundTrips : (nil : AsCborValue (List α)).RoundTrips := by
  rintro (_ | _) v h <;> simp_all [nil]

/-- A codec that handles no value. -/
def AsCborValue.unsupported : AsCborValue α := ⟨fun _ => .error .encodeFailed, fun _ => .error .decodeFailed⟩

/-- Writes nothing and reads `null`. -/
def CborSerializer.null : CborSerializer := ⟨fun _ => [], fun _ => .ok (.null, [])⟩

end KeyMint
