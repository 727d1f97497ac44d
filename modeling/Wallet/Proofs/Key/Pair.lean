import Wallet.Proofs.Curve.Edwards
import Wallet.Proofs.Key.Malleability

/-!
# Key pairs are read back

What a key pair gives away is accepted again, under each of the schemes. Its public half is
accepted as a public key (`readable_publicKey`): the point that it encodes was computed on the
curve, so it is decoded, which for Ed25519 takes the curve to be complete. The secret that it
exports is read back as the key pair itself (`ofSecretBytes_secretBytes`).
-/

namespace Wallet

namespace KeyPair

/-- A seed gives a pair of the scheme that was asked for, whatever scalar is found. -/
@[simp] theorem keyType_ofSeed (keyType : KeyType) (seed : Octets 32) :
    (ofSeed keyType seed).keyType = keyType := by
  cases keyType with
  | ed25519 => rfl
  | secp256k1 | secp256r1 =>
    simp only [ofSeed, ofSeed?]
    cases SecretScalar.ofSeed? _ seed <;> rfl

@[simp] theorem keyType_publicKey (pair : KeyPair) : pair.publicKey.keyType = pair.keyType := by
  cases pair <;> rfl

/-- The public half encodes a point. -/
theorem isPoint_publicKey (pair : KeyPair) :
    PublicKey.isPoint pair.publicKey.keyType pair.publicKey.bytes = true := by
  cases pair with
  | ed25519 seed =>
    -- The point is a multiple of the base point, and every point of the curve is decoded.
    change ((Octets.ofList? 32 (Curve.Ed25519.publicKey seed).list).bind
      Curve.Edwards.decode).isSome = true
    rw [Octets.ofList?_list, Option.bind_some]
    exact Curve.Edwards.isSome_decode_publicKey seed
  | secp256k1 s =>
    obtain ⟨point, hdecode, -⟩ := s.decode_publicBytes
    exact Option.isSome_iff_exists.mpr ⟨point, hdecode⟩
  | secp256r1 s =>
    obtain ⟨point, hdecode, -⟩ := s.decode_publicBytes
    exact Option.isSome_iff_exists.mpr ⟨point, hdecode⟩

/-- **The public half of a key pair is accepted as a public key.** -/
theorem readable_publicKey (pair : KeyPair) : pair.publicKey.Readable := by
  rw [PublicKey.Readable, PublicKey.ofBytes, dif_pos pair.publicKey.length_eq,
    if_pos pair.isPoint_publicKey]

/-- A scalar is exported in as many bytes as it is read from. -/
theorem ScalarScheme.secretForm {keyType : KeyType} {c : Curve.Weierstrass}
    {wrap : SecretScalar c → KeyPair} (hscheme : ScalarScheme keyType c wrap)
    (s : SecretScalar c) : SecretForm (wrap s).secretBytes (wrap s) := by
  have hlength : s.toBytes.length = 32 := length_bigEndian 32 s.value
  have hvalue : Bytes.toNat s.toBytes = s.value :=
    toNat_bigEndian (Nat.lt_of_lt_of_le s.below hscheme.order.2)
  rw [hscheme.secret]
  exact (secretForm_scalar_iff (hscheme.scalar s)).mpr ⟨by omega, by omega, hvalue⟩

theorem secretForm_secretBytes (pair : KeyPair) : SecretForm pair.secretBytes pair := by
  cases pair with
  | ed25519 seed => exact .seedAndKey seed
  | secp256k1 s => exact scalarScheme_secp256k1.secretForm s
  | secp256r1 s => exact scalarScheme_secp256r1.secretForm s

/-- **A key pair is read back from the secret that it exports.** -/
theorem ofSecretBytes_secretBytes (pair : KeyPair) :
    ofSecretBytes pair.keyType pair.secretBytes = .ok pair :=
  ofSecretBytes_eq_ok_iff.mpr ⟨rfl, pair.secretForm_secretBytes⟩

end KeyPair

end Wallet
