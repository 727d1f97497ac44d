import Wallet.Key.Pair
import Wallet.Proofs.Outcome
import Wallet.Proofs.Text.Base58

/-!
# Keys and signatures as text

What is written for a scheme, a signature or a public key is read back as the same thing, and a
text that is accepted is the one that is written for what was read. To read a public key back, its
bytes have to encode a point, which `PublicKey.Readable` says. Every key that was read has that
property. A key computed from a secret has it too, but that takes facts about the curves, which are
not needed here.
-/

namespace Wallet

/-! ## §1. Schemes and signatures -/

@[simp] theorem KeyType.ofName_name (keyType : KeyType) : ofName keyType.name = .ok keyType := by
  cases keyType <;> rfl

theorem KeyType.name_of_ofName {keyType : KeyType} {name : String}
    (hread : ofName name = .ok keyType) : keyType.name = name := by
  unfold ofName at hread
  split at hread
  · next hfind =>
    cases hread
    simpa using List.find?_some hfind
  · cases hread

@[simp] theorem KeyError.decodeBase58_encode (bytes : Bytes) :
    KeyError.decodeBase58 (Base58.encode bytes) = .ok bytes := by
  simp [KeyError.decodeBase58]

theorem KeyError.encode_of_decodeBase58 {text : String} {bytes : Bytes}
    (hread : decodeBase58 text = .ok bytes) : Base58.encode bytes = text := by
  unfold decodeBase58 at hread
  split at hread
  · next hdecode =>
    cases hread
    exact Base58.encode_of_decode hdecode
  · cases hread

theorem Signature.ofBytes_bytes (s : Signature) : ofBytes s.bytes = .ok s := by
  rw [ofBytes, bytes, Octets.ofList?_list]

@[simp] theorem Signature.ofBase58_toBase58 (s : Signature) : ofBase58 s.toBase58 = .ok s := by
  rw [ofBase58, toBase58, KeyError.decodeBase58_encode]
  exact s.ofBytes_bytes

theorem Signature.bytes_of_ofBytes {bytes : Bytes} {s : Signature}
    (hread : ofBytes bytes = .ok s) : s.bytes = bytes := by
  unfold ofBytes at hread
  split at hread
  · next hlist =>
    cases hread
    exact Octets.list_of_ofList? hlist
  · cases hread

/-- A signature has one text. -/
theorem Signature.toBase58_of_ofBase58 {text : String} {s : Signature}
    (hread : ofBase58 text = .ok s) : s.toBase58 = text := by
  obtain ⟨bytes, hbytes, hread⟩ := bind_eq_ok.mp hread
  rw [toBase58, bytes_of_ofBytes hread, KeyError.encode_of_decodeBase58 hbytes]

theorem Signature.ofBase58_eq_ok_iff {text : String} {s : Signature} :
    ofBase58 text = .ok s ↔ text = s.toBase58 := by
  constructor
  · intro hread
    exact (toBase58_of_ofBase58 hread).symm
  · rintro rfl
    exact s.ofBase58_toBase58

/-! ## §2. Public keys -/

namespace PublicKey

/-- The bytes of a key are read as that key. -/
def Readable (k : PublicKey) : Prop :=
  ofBytes k.keyType k.bytes = .ok k

/-- Reading a key keeps its bytes as they are. -/
theorem ofBytes_eq_ok {keyType : KeyType} {bytes : Bytes} {k : PublicKey}
    (hread : ofBytes keyType bytes = .ok k) : k.keyType = keyType ∧ k.bytes = bytes := by
  -- The length and then the point are checked, and nothing is changed.
  unfold ofBytes at hread
  split at hread
  · split at hread
    · cases hread
      exact ⟨rfl, rfl⟩
    · cases hread
  · cases hread

/-- A key that was read can be read again. -/
theorem readable_of_ofBytes {keyType : KeyType} {bytes : Bytes} {k : PublicKey}
    (hread : ofBytes keyType bytes = .ok k) : k.Readable := by
  obtain ⟨rfl, rfl⟩ := ofBytes_eq_ok hread
  exact hread

theorem readable_of_ofBase58 {keyType : KeyType} {text : String} {k : PublicKey}
    (hread : ofBase58 keyType text = .ok k) : k.Readable := by
  obtain ⟨bytes, -, hread⟩ := bind_eq_ok.mp hread
  exact readable_of_ofBytes hread

/-- A public key has one text. -/
theorem toBase58_of_ofBase58 {keyType : KeyType} {text : String} {k : PublicKey}
    (hread : ofBase58 keyType text = .ok k) : k.keyType = keyType ∧ k.toBase58 = text := by
  obtain ⟨bytes, hbytes, hread⟩ := bind_eq_ok.mp hread
  obtain ⟨htype, hk⟩ := ofBytes_eq_ok hread
  refine ⟨htype, ?_⟩
  rw [toBase58, hk, KeyError.encode_of_decodeBase58 hbytes]

/-- A key that can be read from its bytes can be read from its text. -/
theorem Readable.ofBase58_toBase58 {k : PublicKey} (hk : k.Readable) :
    ofBase58 k.keyType k.toBase58 = .ok k := by
  rw [ofBase58, toBase58, KeyError.decodeBase58_encode]
  exact hk

/-- A key is read from its text exactly if it is read from its bytes. -/
theorem ofBase58_eq_ok_iff {keyType : KeyType} {text : String} {k : PublicKey} :
    ofBase58 keyType text = .ok k ↔ ofBytes keyType k.bytes = .ok k ∧ text = k.toBase58 := by
  constructor
  · intro hread
    obtain ⟨htype, htext⟩ := toBase58_of_ofBase58 hread
    refine ⟨?_, htext.symm⟩
    rw [← htype]
    exact readable_of_ofBase58 hread
  · rintro ⟨hbytes, rfl⟩
    rw [ofBase58, toBase58, KeyError.decodeBase58_encode]
    exact hbytes

end PublicKey

end Wallet
