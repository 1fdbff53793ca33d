import KeyMint.Ta.Messages

/-!
# The MAC input of a hardware auth token

`lib.rs` lines 1124-1141: `hardware_auth_token_mac_input` lays out the authenticated fields of a
`HardwareAuthToken` for the HMAC that authenticates it: a version byte, the challenge, user ID and
authenticator ID in the host's byte order, then the authenticator type and the timestamp
big-endian.

## Main results

- `leBytes_inj`, `Endian.bytes_inj`: a fixed-width encoding of a value that fits is injective,
  through the decoder `ofLeBytes`.
- `hardwareAuthTokenMacInput_injective`: **on either byte order the input is 37 bytes, and two
  tokens share it only if they agree on every authenticated field**.
-/

namespace KeyMint

/-! ## 1. Fixed-width integers -/

/-- `to_le_bytes` of an `n`-byte integer with value `x`: least significant byte first. -/
def leBytes : Nat → Nat → Bytes
  | 0, _ => []
  | n + 1, x => UInt8.ofNat (x % 256) :: leBytes n (x / 256)

/-- `to_be_bytes` of an `n`-byte integer with value `x`: most significant byte first. -/
def beBytes (n x : Nat) : Bytes := (leBytes n x).reverse

/-- The byte order of the host. -/
inductive Endian where
  | big | little
  deriving DecidableEq, Repr

/-- `to_ne_bytes` on a host of the given byte order. -/
def Endian.bytes : Endian → Nat → Nat → Bytes
  | .big => beBytes
  | .little => leBytes

/-- `from_le_bytes`: the value of little-endian bytes. -/
def ofLeBytes : Bytes → Nat
  | [] => 0
  | b :: bs => b.toNat + 256 * ofLeBytes bs

@[simp] theorem length_leBytes (n x : Nat) : (leBytes n x).length = n := by
  induction n generalizing x with
  | zero => rfl
  | succ n ih => simp [leBytes, ih]

@[simp] theorem length_beBytes (n x : Nat) : (beBytes n x).length = n := by
  simp [beBytes]

@[simp] theorem Endian.length_bytes (e : Endian) (n x : Nat) : (e.bytes n x).length = n := by
  cases e <;> simp [bytes]

theorem ofLeBytes_leBytes (n x : Nat) : ofLeBytes (leBytes n x) = x % 256 ^ n := by
  induction n generalizing x with
  | zero => simp [leBytes, ofLeBytes, Nat.mod_one]
  | succ n ih =>
    rw [leBytes, ofLeBytes, ih, UInt8.toNat_ofNat_of_lt (Nat.mod_lt _ (by decide)), pow_succ',
      Nat.mod_mul]

/-- Fixed-width little-endian encoding is injective on the values that fit. -/
theorem leBytes_inj {n x y : Nat} (hx : x < 256 ^ n) (hy : y < 256 ^ n)
    (h : leBytes n x = leBytes n y) : x = y := by
  have := congrArg ofLeBytes h
  rwa [ofLeBytes_leBytes, ofLeBytes_leBytes, Nat.mod_eq_of_lt hx, Nat.mod_eq_of_lt hy] at this

theorem Endian.bytes_inj (e : Endian) {n x y : Nat} (hx : x < 256 ^ n) (hy : y < 256 ^ n)
    (h : e.bytes n x = e.bytes n y) : x = y := by
  cases e with
  | big => exact leBytes_inj hx hy (List.reverse_injective h)
  | little => exact leBytes_inj hx hy h

/-- The bytes of a 64-bit integer determine it, in either byte order. -/
theorem Endian.bytes_bitVec_inj (e : Endian) {x y : BitVec 64}
    (h : e.bytes 8 x.toNat = e.bytes 8 y.toNat) : x = y :=
  BitVec.eq_of_toNat_eq (e.bytes_inj x.isLt y.isLt h)

/-! ## 2. The MAC input -/

/-- The `i32` bits of an authenticator type, as `authenticator_type as i32` lays them out. -/
def HardwareAuthenticatorType.bits (t : HardwareAuthenticatorType) : Nat :=
  (BitVec.ofInt 32 t.toI32).toNat

theorem HardwareAuthenticatorType.beBytes_bits_inj {a b : HardwareAuthenticatorType}
    (h : beBytes 4 a.bits = beBytes 4 b.bits) : a = b := by
  cases a <;> cases b <;> first | rfl | exact absurd h (by decide)

/-- `hardware_auth_token_mac_input` on a host of byte order `native`: the version byte 0, the
challenge, user ID and authenticator ID in host order, and the authenticator type and timestamp
big-endian.  Reserving the capacity is the only step that can fail, and allocation does not fail
in this model. -/
def hardwareAuthTokenMacInput (native : Endian) (token : HardwareAuthToken) : Except Error Bytes :=
  .ok (beBytes 1 0 ++ native.bytes 8 token.challenge.toNat ++ native.bytes 8 token.userId.toNat ++
    native.bytes 8 token.authenticatorId.toNat ++ beBytes 4 token.authenticatorType.bits ++
    beBytes 8 token.timestamp.milliseconds.toNat)

/-- On a little-endian host the challenge is written least significant byte first, while the
authenticator type (`PASSWORD` is 1) and the timestamp are big-endian. -/
example : hardwareAuthTokenMacInput .little ⟨0x0102, 0, 0, .password, ⟨0x0304⟩, []⟩ =
    .ok ([0, 0x02, 0x01, 0, 0, 0, 0, 0, 0] ++ List.replicate 16 0 ++ [0, 0, 0, 1] ++
      [0, 0, 0, 0, 0, 0, 0x03, 0x04]) := rfl

/-- **The MAC input is an injective 37-byte encoding.**  On either byte order, any two tokens have
inputs of 37 bytes, and when the inputs are equal the tokens agree on the challenge, the user ID,
the authenticator ID, the authenticator type and the timestamp. -/
theorem hardwareAuthTokenMacInput_injective (native : Endian) (t t' : HardwareAuthToken) :
    ∃ d d', hardwareAuthTokenMacInput native t = .ok d ∧
      hardwareAuthTokenMacInput native t' = .ok d' ∧ d.length = 37 ∧ d'.length = 37 ∧
      (d = d' → t.challenge = t'.challenge ∧ t.userId = t'.userId ∧
        t.authenticatorId = t'.authenticatorId ∧ t.authenticatorType = t'.authenticatorType ∧
        t.timestamp.milliseconds = t'.timestamp.milliseconds) := by
  refine ⟨_, _, rfl, rfl, by simp, by simp, fun h => ?_⟩
  obtain ⟨h, hts⟩ := List.append_inj' h (by simp)
  obtain ⟨h, htype⟩ := List.append_inj' h (by simp)
  obtain ⟨h, hauth⟩ := List.append_inj' h (by simp)
  obtain ⟨h, huser⟩ := List.append_inj' h (by simp)
  obtain ⟨-, hchal⟩ := List.append_inj' h (by simp)
  exact ⟨native.bytes_bitVec_inj hchal, native.bytes_bitVec_inj huser,
    native.bytes_bitVec_inj hauth, HardwareAuthenticatorType.beBytes_bits_inj htype,
    Endian.big.bytes_bitVec_inj hts⟩

end KeyMint
