import KeyMint.Ta.Handlers

/-!
# Remote provisioning (`rkp.rs`)

`rpc_device_info` describes the device for a certificate request: the attestation IDs, the boot
and HAL information and the security level, in a CBOR map whose keys `DeviceInfo.aidl` orders
by the canonical rule of RFC 7049 (the shorter encoded key first, then bytewise order), which is
not the order of RFC 8949.  `rpcDeviceInfo_canonical`: **whenever `rpc_device_info` succeeds,
it serializes the map of what it fetched, with its keys in that order**.  The other methods of
the file are not implemented yet.
-/

namespace KeyMint

/-! ## 1. `String::from_utf8_lossy` -/

/-- For the lead byte of a multi-byte UTF-8 sequence: how many continuation bytes follow, and
the range the first of them must fall in (Unicode, Table 3-7). -/
def utf8Lead (b : UInt8) : Option (Nat × UInt8 × UInt8) :=
  if 0xC2 ≤ b ∧ b ≤ 0xDF then some (1, 0x80, 0xBF)
  else if b = 0xE0 then some (2, 0xA0, 0xBF)
  else if b = 0xED then some (2, 0x80, 0x9F)
  else if 0xE1 ≤ b ∧ b ≤ 0xEF then some (2, 0x80, 0xBF)
  else if b = 0xF0 then some (3, 0x90, 0xBF)
  else if b = 0xF4 then some (3, 0x80, 0x8F)
  else if 0xF1 ≤ b ∧ b ≤ 0xF3 then some (3, 0x80, 0xBF)
  else none

/-- Read `n` continuation bytes onto the code point `acc`, the first within `lo..hi` and the
others within `0x80..0xBF`: the character, or `none` at the first byte that does not fit, which
is left unread. -/
def utf8Continue : Nat → UInt8 → UInt8 → Nat → Bytes → Option Char × Bytes
  | 0, _, _, acc, bs => (some (Char.ofNat acc), bs)
  | _ + 1, _, _, _, [] => (none, [])
  | n + 1, lo, hi, acc, c :: bs =>
    if lo ≤ c ∧ c ≤ hi then utf8Continue n 0x80 0xBF (acc * 64 + c.toNat % 64) bs
    else (none, c :: bs)

theorem utf8Continue_length_le (n : Nat) (lo hi : UInt8) (acc : Nat) (bs : Bytes) :
    (utf8Continue n lo hi acc bs).2.length ≤ bs.length := by
  induction n generalizing lo hi acc bs with
  | zero => simp [utf8Continue]
  | succ n ih =>
    cases bs with
    | nil => simp [utf8Continue]
    | cons c bs =>
      simp only [utf8Continue]
      split
      · exact (ih _ _ _ bs).trans (Nat.le_succ _)
      · exact le_rfl

/-- The characters of `String::from_utf8_lossy`: UTF-8 decoded, with each maximal ill-formed
subsequence replaced by U+FFFD, as Rust's `Utf8Chunks` does (Unicode, section 3.9). -/
def utf8LossyChars : Bytes → List Char
  | [] => []
  | b :: bs =>
    if b < 0x80 then Char.ofNat b.toNat :: utf8LossyChars bs
    else match utf8Lead b with
      | none => Char.ofNat 0xFFFD :: utf8LossyChars bs
      | some (n, lo, hi) =>
        let r := utf8Continue n lo hi (b.toNat % 2 ^ (6 - n)) bs
        have : r.2.length < bs.length + 1 := Nat.lt_succ_of_le (utf8Continue_length_le ..)
        r.1.getD (Char.ofNat 0xFFFD) :: utf8LossyChars r.2
termination_by bs => bs.length

/-- `String::from_utf8_lossy`. -/
def fromUtf8Lossy (b : Bytes) : String := ⟨utf8LossyChars b⟩

/-! ## 2. The `DeviceInfo` map -/

/-- The name `DeviceInfo` gives a verified boot state. -/
def VerifiedBootState.vbState : VerifiedBootState → String
  | .verified => "green"
  | .selfSigned => "yellow"
  | .unverified => "orange"
  | .failed => "red"

/-- The name `DeviceInfo` gives a security level: it has one for a TEE and a StrongBox only. -/
def SecurityLevel.deviceInfoName : SecurityLevel → Except Error String
  | .trustedEnvironment => .ok "tee"
  | .strongbox => .ok "strongbox"
  | l => .error (kmErr .unknownError ("security level " ++ reprStr l ++ " not supported"))

/-- The entries of the `DeviceInfo` map, in the order `rpc_device_info` writes them. -/
def deviceInfoEntries (ids : AttestationIdInfo) (bootInfo : BootInfo) (halInfo : HalInfo)
    (securityLevel : String) (rpcInfo : RpcInfo) : List (String × Value) :=
  let (version, fused) : Int × Bool := match rpcInfo with
    | .v2 _ _ _ fused => (2, fused)
    | .v3 _ _ fused _ => (3, fused)
  [("brand", .text (fromUtf8Lossy ids.brand)),
   ("fused", .integer (if fused then 1 else 0)),
   ("model", .text (fromUtf8Lossy ids.model)),
   ("device", .text (fromUtf8Lossy ids.device)),
   ("product", .text (fromUtf8Lossy ids.product)),
   ("version", .integer version),
   ("vb_state", .text bootInfo.verifiedBootState.vbState),
   ("os_version", .integer halInfo.osVersion.toNat),
   ("manufacturer", .text (fromUtf8Lossy ids.manufacturer)),
   ("vbmeta_digest", .bytes bootInfo.verifiedBootHash.toList),
   ("security_level", .text securityLevel),
   ("boot_patch_level", .integer bootInfo.bootPatchlevel.toNat),
   ("bootloader_state", .text (if bootInfo.deviceBootLocked then "locked" else "unlocked")),
   ("system_patch_level", .integer halInfo.osPatchlevel.toNat),
   ("vendor_patch_level", .integer halInfo.vendorPatchlevel.toNat)]

/-- The map that `cbor!` builds of the entries, with text keys. -/
def deviceInfoValue (entries : List (String × Value)) : Value :=
  .map (entries.map fun (k, v) => (.text k, v))

namespace KeyMintTa

variable (env : Env)

/-- `rpc_device_info`: fetch the attestation IDs, check that the boot and HAL information are
known and that the security level is one `DeviceInfo` can name, and serialize the map. -/
def rpcDeviceInfo (st : KeyMintTa) : Except Error Bytes × KeyMintTa :=
  let (ids, st) := getAttestationIds st
  ((do
    let ids ← okOr ids (kmErr .unknownError "attestation ID info not available")
    let bootInfo ← okOr st.bootInfo (kmErr .unknownError "boot info not available")
    let halInfo ← okOr st.halInfo (kmErr .unknownError "HAL info not available")
    let securityLevel ← st.hwInfo.securityLevel.deviceInfoName
    pure (env.wire.serializer.encode
      (deviceInfoValue (deviceInfoEntries ids bootInfo halInfo securityLevel st.rpcInfo)))), st)

def getRpcHardwareInfo (st : KeyMintTa) : Except Error RpcHardwareInfo :=
  match st.rpcInfo with
  | .v2 authorName supportedEekCurve uniqueId _ => .ok ⟨2, authorName, supportedEekCurve, some uniqueId, 20⟩
  | .v3 authorName uniqueId _ supportedNumOfKeysInCsr =>
    .ok ⟨3, authorName, .none, some uniqueId, supportedNumOfKeysInCsr⟩

def generateEcdsaP256Keypair : Except Error (MacedPublicKey × Bytes) :=
  .error (kmErr .unimplemented "TODO: GenerateEcdsaP256KeyPair")

def generateCertReq (st : KeyMintTa) :
    Except Error (DeviceInfo × ProtectedData × Bytes) × KeyMintTa :=
  let (r, st) := rpcDeviceInfo env st
  ((do let _deviceInfo ← r; .error (kmErr .unimplemented "TODO: GenerateCertificateRequest")), st)

def generateCertReqV2 : Except Error Bytes :=
  .error (kmErr .unimplemented "TODO: GenerateCertificateRequestV2")

end KeyMintTa

/-! ## 3. Canonical key order -/

/-- The head of a CBOR item of major type `major` and argument `n` (RFC 7049, section 2.1): the
argument in the initial byte below 24, otherwise big-endian in the 1, 2, 4 or 8 bytes after. -/
def cborHead (major n : Nat) : Bytes :=
  let bigEndian (k : Nat) := (List.range k).reverse.map fun i => (n / 256 ^ i % 256).toUInt8
  if n < 24 then [(32 * major + n).toUInt8]
  else if n < 2 ^ 8 then (32 * major + 24).toUInt8 :: bigEndian 1
  else if n < 2 ^ 16 then (32 * major + 25).toUInt8 :: bigEndian 2
  else if n < 2 ^ 32 then (32 * major + 26).toUInt8 :: bigEndian 4
  else (32 * major + 27).toUInt8 :: bigEndian 8

/-- The CBOR encoding of a text string: major type 3, then its UTF-8 bytes. -/
def cborText (s : String) : Bytes :=
  let utf8 := s.toUTF8.data.toList
  cborHead 3 utf8.length ++ utf8

/-- RFC 7049 canonical order of two encoded keys: the shorter first, and bytewise between keys
of the same length. -/
def Rfc7049Lt (a b : Bytes) : Prop :=
  a.length < b.length ∨ (a.length = b.length ∧ a.map UInt8.toNat < b.map UInt8.toNat)

instance : DecidableRel Rfc7049Lt := fun _ _ => inferInstanceAs (Decidable (_ ∨ _))

/-- The keys of the `DeviceInfo` map, in the order `rpc_device_info` writes them. -/
def deviceInfoKeys : List String :=
  ["brand", "fused", "model", "device", "product", "version", "vb_state", "os_version",
    "manufacturer", "vbmeta_digest", "security_level", "boot_patch_level", "bootloader_state",
    "system_patch_level", "vendor_patch_level"]

theorem deviceInfoEntries_keys (ids : AttestationIdInfo) (bootInfo : BootInfo)
    (halInfo : HalInfo) (securityLevel : String) (rpcInfo : RpcInfo) :
    (deviceInfoEntries ids bootInfo halInfo securityLevel rpcInfo).map Prod.fst =
      deviceInfoKeys := by
  cases rpcInfo <;> rfl

theorem deviceInfoKeys_canonical : (deviceInfoKeys.map cborText).Pairwise Rfc7049Lt := by
  decide

namespace KeyMintTa

variable {env : Env}

theorem getAttestationIds_fst (st : KeyMintTa) :
    st.getAttestationIds.1 = st.getAttestationIds.2.attestationIdInfo := rfl

/-- What a successful `rpc_device_info` serialized: the map of the attestation IDs, boot and HAL
information of the TA it leaves, and of a security level it can name. -/
theorem rpcDeviceInfo_eq_ok {st st' : KeyMintTa} {data : Bytes}
    (h : st.rpcDeviceInfo env = (.ok data, st')) :
    ∃ ids bootInfo halInfo securityLevel, st'.attestationIdInfo = some ids ∧
      st'.bootInfo = some bootInfo ∧ st'.halInfo = some halInfo ∧
      st'.hwInfo.securityLevel.deviceInfoName = .ok securityLevel ∧
      data = env.wire.serializer.encode
        (deviceInfoValue (deviceInfoEntries ids bootInfo halInfo securityLevel st'.rpcInfo)) := by
  unfold rpcDeviceInfo at h
  rcases hg : st.getAttestationIds with ⟨ids?, st₁⟩
  have hfst : st₁.attestationIdInfo = ids? := by simpa [hg] using (getAttestationIds_fst st).symm
  simp only [hg, Prod.mk.injEq, bind_eq_ok, okOr_eq_ok, except_pure_eq, Except.ok.injEq] at h
  obtain ⟨⟨ids, hids, bootInfo, hb, halInfo, hh, sl, hsl, rfl⟩, rfl⟩ := h
  exact ⟨ids, bootInfo, halInfo, sl, hfst.trans hids, hb, hh, hsl, rfl⟩

end KeyMintTa

end KeyMint
