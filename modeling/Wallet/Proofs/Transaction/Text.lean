import Wallet.Proofs.Json.Text
import Wallet.Proofs.Transaction.RoundTrip

/-!
# Transactions as text

The document of a transaction is plain, so it comes through as text: a transaction that is read
back from its document is read back from the text of its document, whether it was written in the
form that is sent or in the form that is shown.
-/

namespace Wallet.Transaction

open Json (Plain)

theorem plain_natural {depth n : Nat} (hn : n < UInt64.size) : Plain depth (.natural n) := by
  rw [UInt64.size] at hn
  exact Json.plain_integer.mpr (by constructor <;> omega)

theorem plain_word64 {depth : Nat} (n : UInt64) : Plain depth (.natural n.toNat) :=
  plain_natural n.toNat_lt

theorem plain_byte {depth : Nat} (n : UInt8) : Plain depth (.natural n.toNat) :=
  plain_natural (Nat.lt_trans n.toNat_lt (by decide))

theorem plain_int32 {depth : Nat} (n : Int32) : Plain depth (.integer n.toInt) := by
  have hlow := n.le_toInt
  have hhigh := n.toInt_lt
  exact Json.plain_integer.mpr (by constructor <;> omega)

/-- The values of all fields are plain. -/
def PlainFields (depth : Nat) (fields : Fields) : Prop :=
  ∀ field ∈ fields, Plain depth field.2

theorem plain_entryJson {depth : Nat} (entry : Entry) : Plain (depth + 1) (entryJson entry) := by
  refine Json.plain_ofFields ?_
  simp [Json.plain_string, plain_word64]

theorem plainFields_optionalSigner (depth : Nat) (role : Role) (signer : Option Signer) :
    PlainFields depth (optionalSigner role signer) := by
  cases signer with
  | none => simp [PlainFields, optionalSigner]
  | some signer => simp [PlainFields, optionalSigner, signerFields, Json.plain_string]

theorem plainFields_optionalField {depth : Nat} {name : String} {value : Option Json}
    (hvalue : ∀ v ∈ value, Plain depth v) : PlainFields depth (Json.optionalField name value) := by
  cases value with
  | none => simp [PlainFields, Json.optionalField]
  | some v => simpa [PlainFields, Json.optionalField] using hvalue v rfl

theorem plainFields_associationFields (depth : Nat) (recipient : Address) (type : Int32)
    (hash : Option Bytes) : PlainFields depth (associationFields recipient type hash) := by
  refine List.forall_mem_append.mpr ⟨?_, plainFields_optionalField ?_⟩
  · simp [Json.plain_string, plain_int32]
  · intro v hv
    obtain ⟨bytes, -, rfl⟩ := Option.map_eq_some_iff.mp hv
    exact Json.plain_string depth _

/-- The fields of a body are plain, with two levels to spare for a list of objects. -/
theorem plainFields_bodyFields (depth : Nat) (version : Version) (body : Body) :
    PlainFields (depth + 2) (bodyFields version body) := by
  cases body with
  | massTransfer entries attachment =>
    -- The entries are objects in a list, which takes two levels.
    have hentries : ∀ item ∈ entries.map entryJson, Plain (depth + 1) item := by
      intro item hitem
      obtain ⟨entry, -, rfl⟩ := List.mem_map.mp hitem
      exact plain_entryJson entry
    simpa [PlainFields, bodyFields, base58Json, Json.plain_string, Plain] using hentries
  | association recipient type hash expires =>
    refine List.forall_mem_append.mpr ⟨plainFields_associationFields _ recipient type hash, ?_⟩
    split
    · refine plainFields_optionalField ?_
      intro v hv
      obtain ⟨time, -, rfl⟩ := Option.map_eq_some_iff.mp hv
      exact plain_word64 time
    · simp
  | revokeAssociation recipient type hash => exact plainFields_associationFields _ recipient type hash
  | _ => simp [PlainFields, bodyFields, base58Json, plain_word64, Plain]

/-- So are all fields of a transaction, far below the limit of nesting. -/
theorem plainFields_fields (tx : Transaction) : PlainFields 126 tx.fields := by
  have htime : PlainFields 126
      (Json.optionalField "timestamp" (tx.timestamp.map fun time => .natural time.toNat)) := by
    refine plainFields_optionalField ?_
    intro v hv
    obtain ⟨time, -, rfl⟩ := Option.map_eq_some_iff.mp hv
    exact plain_word64 time
  -- The proofs are texts in a list.
  have hproofs : Plain 126 (.array (tx.proofs.map fun proof => .string proof.toBase58)) := by
    intro item hitem
    obtain ⟨proof, -, rfl⟩ := List.mem_map.mp hitem
    exact Json.plain_string 125 _
  simp only [PlainFields, fields, List.forall_mem_append, List.forall_mem_cons,
    List.not_mem_nil, false_imp_iff, implies_true, and_true]
  exact ⟨⟨⟨⟨⟨⟨⟨plain_byte _, plain_byte _⟩, plainFields_optionalSigner _ .sender _⟩,
    plain_word64 _⟩, htime⟩, plainFields_bodyFields _ _ _⟩,
    plainFields_optionalSigner _ .sponsor _⟩, hproofs⟩

/-- The document of a transaction can be written as text. -/
theorem plain_toJson (tx : Transaction) : Plain Json.depthLimit tx.toJson :=
  Json.plain_ofFields tx.plainFields_fields

/-- A transaction that is read back from its document is read back from either text of it. -/
theorem ofText_of_ofJson {tx : Transaction} (hread : ofJson tx.toJson = .ok tx) :
    ofText tx.toJson.compact = .ok tx ∧ ofText (tx.toJson.pretty ++ "\n") = .ok tx := by
  have hplain := plain_toJson tx
  constructor
  · rw [ofText, Json.parse_compact hplain]
    exact hread
  · rw [ofText, Json.parse_pretty hplain]
    exact hread

end Wallet.Transaction
