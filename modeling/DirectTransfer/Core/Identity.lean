import DirectTransfer.Core.Protocol
import DirectTransfer.Library.Encoding

/-! Persistent Ed25519 device identities, and the names derived from a public
key: the device identifier and the fingerprint shown to the user. -/

set_option autoImplicit false

namespace DirectTransfer

open Library

/-- `hashlib.sha256` and `base64.b64decode(value, validate=True)`, which gives
back what was encoded and may take several texts to the same octets. -/
structure Digests where
  sha256 : Bytes → Bytes
  b64decode : PyStr → Option Bytes
  b64decode_b64encode : ∀ octets, b64decode (b64encode octets) = some octets

/-- The cryptographic package: Ed25519, X25519 and HKDF-SHA256, with a hash
without collisions. -/
structure Crypto extends Digests where
  ed25519Public : Bytes → Bytes
  ed25519Sign : Bytes → Bytes → Bytes
  ed25519Verify : Bytes → Bytes → Bytes → Bool
  x25519Public : Bytes → Bytes
  x25519 : Bytes → Bytes → Option Bytes
  hkdf : Bytes → Bytes → Bytes → Bytes
  sha256_injective : Function.Injective sha256
  exchange_comm : ∀ left right, x25519 left (x25519Public right) = x25519 right (x25519Public left)

/-- `hashlib.sha256(data).hexdigest()`. -/
def Digests.hexdigest (digests : Digests) (data : Bytes) : PyStr := hexText (digests.sha256 data)

/-- `^mp-[0-9a-f]{8}$` -/
def isDeviceId (text : PyStr) : Bool :=
  text.length = 11 && text.take 3 = py "mp-" && (text.drop 3).all isLowerHex

/-- Decode and validate a base64 Ed25519 public key. -/
def decodePublicKey (digests : Digests) (value : PyStr) : Except Raised Bytes :=
  if 64 < value.length then .error (raised .valueError "Invalid Ed25519 public key")
  else match digests.b64decode value with
    | none => .error (raised .valueError "Invalid Ed25519 public key")
    | some raw =>
        if raw.length ≠ 32 then .error (raised .valueError "Invalid Ed25519 public key length")
        else .ok raw

/-- Derive a stable non-secret device identifier from a public key. -/
def deviceIdFromPublicKey (digests : Digests) (publicKey : PyStr) : Except Raised PyStr :=
  match digests.b64decode publicKey with
  | none => .error (raised .valueError "Invalid base64-encoded string")
  | some raw => .ok (py "mp-" ++ (digests.hexdigest raw).take 8)

/-- `str.upper` of a hexadecimal digit. -/
def upperHex (point : CodePoint) : CodePoint :=
  if 0x61 ≤ point.val ∧ point.val ≤ 0x66 then codePoint (point.val - 0x20) else point

/-- Create a deterministic human-verifiable public-key fingerprint. -/
def fingerprintFromPublicKey (digests : Digests) (publicKey : PyStr) : Except Raised PyStr :=
  match digests.b64decode publicKey with
  | none => .error (raised .valueError "Invalid base64-encoded string")
  | some raw =>
      let digest := ((digests.hexdigest raw).take 16).map upperHex
      .ok (digest.take 4 ++ [chr ' '] ++ (digest.drop 4).take 4 ++ [chr ' '] ++
        (digest.drop 8).take 4 ++ [chr ' '] ++ (digest.drop 12).take 4)

/-- A loaded signing identity: its names are bound to the key it signs with. -/
structure DeviceIdentity (crypto : Crypto) where
  privateKey : Bytes
  publicKey : PyStr
  deviceId : PyStr
  encoded : publicKey = b64encode (crypto.ed25519Public privateKey)
  derived : deviceIdFromPublicKey crypto.toDigests publicKey = .ok deviceId

namespace DeviceIdentity

variable {crypto : Crypto}

/-- The octets the public key is the text of. -/
def publicBytes (identity : DeviceIdentity crypto) : Bytes :=
  crypto.ed25519Public identity.privateKey

def sign (identity : DeviceIdentity crypto) (data : Bytes) : Bytes :=
  crypto.ed25519Sign identity.privateKey data

theorem deviceId_eq (identity : DeviceIdentity crypto) :
    identity.deviceId = py "mp-" ++ (crypto.hexdigest identity.publicBytes).take 8 := by
  have derived := identity.derived
  rw [identity.encoded, deviceIdFromPublicKey, crypto.b64decode_b64encode] at derived
  exact (Except.ok.inj derived).symm

theorem publicKey_plain (identity : DeviceIdentity crypto) : Plain identity.publicKey := by
  rw [identity.encoded]
  exact b64encode_plain _

theorem deviceId_plain (identity : DeviceIdentity crypto) : Plain identity.deviceId := by
  rw [identity.deviceId_eq]
  exact Plain.append (forall_of_all (by decide)) ((hexText_plain _).take 8)

end DeviceIdentity

end DirectTransfer
