import Wallet.Proofs.Transaction.Document
import Wallet.Proofs.Transaction.Layout
import Wallet.Proofs.Transaction.Reachable

/-!
# The documented layouts

The documentation of the protocol lists, for every kind and version, the columns of its signed
bytes in order. `row?` is that table, `Column.bytes` says what a column holds and `Column.width`
how wide it is. Numbers are spelled here by the weights of their places, and negative ones by
their complement, without the functions that the encoder uses.

`encode_documented` says that encoding writes the row of the table, whenever the body is one that
can be made and has room in the layout.
-/

namespace Wallet.Layout

/-! ## §1. Numbers -/

/-- A number in `width` bytes. The byte with `k` bytes behind it counts `256 ^ k`. -/
def unsigned (width n : Nat) : Bytes :=
  (List.range width).reverse.map fun k => UInt8.ofNat (n / 256 ^ k % 256)

/-- A number in `width` bytes in two's complement, where negative numbers wrap around. -/
def signed (width : Nat) (n : Int) : Bytes :=
  unsigned width (n % 256 ^ width).toNat

/-- The encoder's spelling of a number gives the same digits. -/
theorem bigEndian_eq_unsigned (width n : Nat) : bigEndian width n = unsigned width n := by
  -- The highest digit is split off on both sides.
  induction width with
  | zero => rfl
  | succ width ih =>
    rw [unsigned, List.range_succ, List.reverse_append, List.reverse_singleton,
      List.singleton_append, List.map_cons, ← unsigned, ← ih, bigEndian, Nat.pow_eq]
    -- A byte is made of what is left of a number modulo 256.
    have hbyte : UInt8.ofNat (n / 256 ^ width) = UInt8.ofNat (n / 256 ^ width % 256) := by
      apply UInt8.toNat_inj.mp
      simp
    rw [hbyte]

theorem length_unsigned (width n : Nat) : (unsigned width n).length = width := by
  simp [unsigned]

/-- The bits of a machine integer are its complement. -/
theorem int32_eq_signed (n : Int32) : int32 n = signed 4 n.toInt := by
  -- The value of a machine integer is that of its bits, moved to lie around zero.
  have hint : n.toInt = (n.toUInt32.toNat : Int).bmod (2 ^ 32) :=
    BitVec.toInt_eq_toNat_bmod n.toBitVec
  have hlt : n.toUInt32.toNat < 2 ^ 32 := n.toUInt32.toNat_lt
  have hwidth : (256 : Int) ^ 4 = (2 ^ 32 : Nat) := by norm_num
  have hcomplement : (n.toInt % 256 ^ 4).toNat = n.toUInt32.toNat := by
    rw [hint, hwidth, Int.bmod_emod]
    omega
  rw [int32, bigEndian_eq_unsigned, signed, hcomplement]

/-! ## §2. The table -/

/-- A column of the table. -/
inductive Column where
  /-- A byte that is the same in all transactions of the kind and version. -/
  | constant (byte : UInt8)
  | chainId
  | timestamp
  | keyTypeMarker
  | senderPublicKey
  | fee
  | recipient
  | amount
  | attachmentLen
  | attachment
  | leaseId
  | count
  | transfers
  | scriptLen
  | script
  /-- The number of anchors, which is always one. -/
  | anchorCount
  | anchorLen
  | anchor
  | associationType
  | expires
  | hashLen
  | hash

/-- The columns of the current version in front of those of the kind. -/
def currentHead (typeId : UInt8) : List Column :=
  [.constant typeId, .constant 3, .chainId, .timestamp, .keyTypeMarker, .senderPublicKey, .fee]

/-- The row of a kind and version, if the kind has that version. -/
def row? : Kind → Version → Option (List Column)
  | .transfer, .v2 => some
    [.constant 4, .constant 2, .senderPublicKey, .timestamp, .amount, .fee, .recipient,
      .attachmentLen, .attachment]
  | .transfer, .v3 => some
    (currentHead 4 ++ [.recipient, .amount, .attachmentLen, .attachment])
  | .lease, .v2 => some
    [.constant 8, .constant 2, .constant 0, .senderPublicKey, .recipient, .amount, .fee,
      .timestamp]
  | .lease, .v3 => some (currentHead 8 ++ [.recipient, .amount])
  | .cancelLease, .v2 => some
    [.constant 9, .constant 2, .chainId, .senderPublicKey, .fee, .timestamp, .leaseId]
  | .cancelLease, .v3 => some (currentHead 9 ++ [.leaseId])
  | .massTransfer, .v1 => some
    [.constant 11, .constant 1, .senderPublicKey, .count, .transfers, .timestamp, .fee,
      .attachmentLen, .attachment]
  | .massTransfer, .v3 => some
    (currentHead 11 ++ [.count, .transfers, .attachmentLen, .attachment])
  | .setScript, .v1 => some
    [.constant 13, .constant 1, .chainId, .senderPublicKey, .constant 1, .scriptLen, .script,
      .fee, .timestamp]
  | .setScript, .v3 => some (currentHead 13 ++ [.scriptLen, .script])
  | .anchor, .v1 => some
    [.constant 15, .constant 1, .senderPublicKey, .anchorCount, .anchorLen, .anchor, .timestamp,
      .fee]
  | .anchor, .v3 => some (currentHead 15 ++ [.anchorCount, .anchorLen, .anchor])
  | .association, .v1 => some
    [.constant 16, .constant 1, .chainId, .senderPublicKey, .recipient, .associationType,
      .constant 1, .hashLen, .hash, .timestamp, .fee]
  | .association, .v3 => some
    (currentHead 16 ++ [.recipient, .associationType, .expires, .hashLen, .hash])
  | .revokeAssociation, .v1 => some
    [.constant 17, .constant 1, .chainId, .senderPublicKey, .recipient, .associationType,
      .constant 1, .hashLen, .hash, .timestamp, .fee]
  | .revokeAssociation, .v3 => some
    (currentHead 17 ++ [.recipient, .associationType, .hashLen, .hash])
  | .sponsorship, .v1 => some
    [.constant 18, .constant 1, .chainId, .senderPublicKey, .recipient, .timestamp, .fee]
  | .sponsorship, .v3 => some (currentHead 18 ++ [.recipient])
  | .cancelSponsorship, .v1 => some
    [.constant 19, .constant 1, .chainId, .senderPublicKey, .recipient, .timestamp, .fee]
  | .cancelSponsorship, .v3 => some (currentHead 19 ++ [.recipient])
  | _, _ => none

/-- What a body puts into the columns of its kind. The others are not looked at. -/
structure Values where
  recipient : Bytes := []
  amount : Nat := 0
  attachment : Bytes := []
  leaseId : Bytes := []
  transfers : List Entry := []
  script : Bytes := []
  anchor : Bytes := []
  associationType : Int := 0
  /-- Zero if there is no expiry. -/
  expires : Nat := 0
  /-- No bytes if there is no hash. -/
  hash : Bytes := []

namespace Values

def ofBody : Body → Values
  | .transfer recipient amount attachment =>
    { recipient := recipient.bytes, amount := amount.toNat, attachment := attachment }
  | .lease recipient amount => { recipient := recipient.bytes, amount := amount.toNat }
  | .cancelLease leaseId => { leaseId := leaseId.list }
  | .massTransfer transfers attachment => { transfers := transfers, attachment := attachment }
  | .setScript script => { script := script }
  | .anchor hash => { anchor := hash }
  | .association recipient type hash expires =>
    { recipient := recipient.bytes, associationType := type.toInt,
      expires := (expires.getD 0).toNat, hash := hash.getD [] }
  | .revokeAssociation recipient type hash =>
    { recipient := recipient.bytes, associationType := type.toInt, hash := hash.getD [] }
  | .sponsorship recipient => { recipient := recipient.bytes }
  | .cancelSponsorship recipient => { recipient := recipient.bytes }

/-- Whether 16 bits hold the length of every part that stands behind its length. -/
structure Short (c : Values) : Prop where
  attachment : c.attachment.length ≤ 65535
  script : c.script.length ≤ 65535
  anchor : c.anchor.length ≤ 65535
  hash : c.hash.length ≤ 65535

end Values

namespace Column

/-- The marker of a scheme. -/
def marker : KeyType → UInt8
  | .ed25519 => 1
  | .secp256k1 => 2
  | .secp256r1 => 3

/-- The width of a public key, which for the two curves has both coordinates. -/
def keyWidth : KeyType → Nat
  | .ed25519 => 32
  | .secp256k1 => 64
  | .secp256r1 => 64

/-- The bytes of a column. -/
def bytes (e : Envelope) (c : Values) : Column → Bytes
  | .constant byte => [byte]
  | .chainId => [e.chain]
  | .timestamp => unsigned 8 e.timestamp.toNat
  | .keyTypeMarker => [marker e.sender.keyType]
  | .senderPublicKey => e.sender.bytes
  | .fee => unsigned 8 e.fee.toNat
  | .recipient => c.recipient
  | .amount => unsigned 8 c.amount
  | .attachmentLen => unsigned 2 c.attachment.length
  | .attachment => c.attachment
  | .leaseId => c.leaseId
  | .count => unsigned 2 c.transfers.length
  | .transfers => c.transfers.flatMap fun t => t.recipient.bytes ++ unsigned 8 t.amount.toNat
  | .scriptLen => unsigned 2 c.script.length
  | .script => c.script
  | .anchorCount => unsigned 2 1
  | .anchorLen => unsigned 2 c.anchor.length
  | .anchor => c.anchor
  | .associationType => signed 4 c.associationType
  | .expires => unsigned 8 c.expires
  | .hashLen => unsigned 2 c.hash.length
  | .hash => c.hash

/-- The width of a column. -/
def width (e : Envelope) (c : Values) : Column → Nat
  | .constant _ | .chainId | .keyTypeMarker => 1
  | .timestamp | .fee | .amount | .expires => 8
  | .senderPublicKey => keyWidth e.sender.keyType
  | .recipient => 26
  | .leaseId => 32
  | .attachmentLen | .count | .scriptLen | .anchorCount | .anchorLen | .hashLen => 2
  | .associationType => 4
  | .attachment => c.attachment.length
  | .transfers => c.transfers.length * (26 + 8)
  | .script => c.script.length
  | .anchor => c.anchor.length
  | .hash => c.hash.length

end Column

/-! ## §3. Encoding writes the row -/

/-- The table has a row for the supported versions of a kind and for no others. -/
theorem isSome_row? (kind : Kind) (version : Version) :
    (row? kind version).isSome = kind.supports version := by
  cases kind <;> cases version <;> rfl

theorem entryBytes_eq :
    entryBytes = fun t => t.recipient.bytes ++ unsigned 8 t.amount.toNat := by
  funext t
  rw [entryBytes, word64, bigEndian_eq_unsigned]

theorem marker_eq (type : KeyType) : Column.marker type = type.marker := by
  cases type <;> rfl

theorem length_bytes_publicKey (k : PublicKey) : k.bytes.length = Column.keyWidth k.keyType := by
  rw [k.length_eq]
  cases k.keyType <;> rfl

/-- The row of a body holds the fields that the encoder writes. -/
theorem flatMap_bytes_row {body : Body} {version : Version} {columns : List Column}
    (hrow : row? body.kind version = some columns) (e : Envelope) :
    columns.flatMap (Column.bytes e (.ofBody body)) = render (table body version e) := by
  -- A row is a fixed list of columns once kind and version are known.
  cases body <;> cases version <;> cases hrow <;>
    simp [table, currentFields, payloadFields, legacyFields, render, Field.bytes, currentHead,
      Column.bytes, Values.ofBody, word64, bigEndian_eq_unsigned, int32_eq_signed,
      entryBytes_eq, hashBytes, marker_eq, Body.kind, Kind.typeId, Version.number]

theorem length_bytes_address (a : Address) : a.bytes.length = 26 :=
  a.octets.length_eq

/-- A body fills the columns of its row to their widths. -/
theorem length_bytes_column {body : Body} {version : Version} {columns : List Column}
    (hrow : row? body.kind version = some columns) (e : Envelope) :
    ∀ column ∈ columns, (column.bytes e (.ofBody body)).length = column.width e (.ofBody body) := by
  cases body <;> cases version <;> cases hrow <;>
    simp [currentHead, Column.bytes, Column.width, Values.ofBody, length_unsigned, signed,
      length_bytes_address, length_bytes_publicKey, Octets.length_eq]

theorem length_flatMap_bytes {columns : List Column} {e : Envelope} {c : Values}
    (hwidth : ∀ column ∈ columns, (column.bytes e c).length = column.width e c) :
    (columns.flatMap (Column.bytes e c)).length = (columns.map (Column.width e c)).sum := by
  rw [List.length_flatMap]
  congr 1
  exact List.map_congr_left hwidth

/-- A body that can be made has room as soon as its bytes do, since a mass transfer has no more
than a hundred entries. -/
theorem hasRoom_of_short {body : Body} (hbody : body.WellFormed)
    (hshort : (Values.ofBody body).Short) : HasRoom body := by
  cases body with
  -- The count of entries has no limit of its own in `Short`; the constructor has one.
  | massTransfer list attachment =>
    have hcount : list.length ≤ recipientLimit := hbody
    exact ⟨Nat.le_trans hcount (by decide), hshort.attachment⟩
  | transfer recipient amount attachment => exact hshort.attachment
  | setScript script => exact hshort.script
  | anchor hash => exact hshort.anchor
  | association recipient type hash expires => exact hshort.hash
  | revokeAssociation recipient type hash => exact hshort.hash
  | lease recipient amount => trivial
  | cancelLease leaseId => trivial
  | sponsorship recipient => trivial
  | cancelSponsorship recipient => trivial

/-- An association without an expiry has room in every layout. -/
theorem fits_of_no_expiry {body : Body} {version : Version}
    (hexpires : version ≠ .v3 → ∀ recipient type hash expires,
      body = .association recipient type hash expires → expires = none) :
    body.fits version = true := by
  by_cases hversion : version = .v3
  · cases body with
    | association recipient type hash expires => cases expires <;> simp [Body.fits, hversion]
    | _ => rfl
  · cases body with
    | association recipient type hash expires =>
      obtain rfl := hexpires hversion recipient type hash expires rfl
      rfl
    | _ => rfl

/-- Bodies that were read are as well-formed as those that were made. -/
theorem wellFormed_of_made_or_read {body : Body}
    (hbody : body.Made ∨ ∃ fields, Transaction.readBody fields body.kind = .ok body) :
    body.WellFormed := by
  rcases hbody with hmade | ⟨fields, hread⟩
  · exact hmade.wellFormed
  · exact (Transaction.readBody_eq_ok hread).2

/-- **The bytes are those of the documented layout**, for every kind and version of it. -/
theorem encode_documented {body : Body} {version : Version} {e : Envelope}
    (hbody : body.Made ∨ ∃ fields, Transaction.readBody fields body.kind = .ok body)
    (hsupports : body.kind.supports version = true) (hshort : (Values.ofBody body).Short)
    (hexpires : version ≠ .v3 → ∀ recipient type hash expires,
      body = .association recipient type hash expires → expires = none)
    (hkey : version ≠ .v3 → e.sender.keyType = .ed25519) :
    ∃ columns bytes, row? body.kind version = some columns ∧
      encode body version e = .ok bytes ∧
      bytes = columns.flatMap (Column.bytes e (.ofBody body)) ∧
      bytes.length = (columns.map (Column.width e (.ofBody body))).sum ∧
      bytes.take 2 = [body.kind.typeId, version.number] ∧
      ∀ (tx : Transaction) (sender : Signer), tx.body = body → tx.sender? = some sender →
        tx.envelope sender = e →
          tx.encodeAs version = .ok bytes ∧ (tx.version = version → tx.encode = .ok bytes) := by
  obtain ⟨columns, hrow⟩ : ∃ columns, row? body.kind version = some columns :=
    Option.isSome_iff_exists.mp (isSome_row? body.kind version ▸ hsupports)
  have hfits : ∀ f ∈ table body version e, f.Fits :=
    table_fits_iff.mpr ⟨Classical.or_iff_not_imp_left.mpr hkey,
      hasRoom_of_short (wellFormed_of_made_or_read hbody) hshort⟩
  have hencode : encode body version e = .ok (columns.flatMap (Column.bytes e (.ofBody body))) :=
    encode_eq_ok_iff.mpr
      ⟨hsupports, fits_of_no_expiry hexpires, hfits, (flatMap_bytes_row hrow e).symm⟩
  refine ⟨columns, _, hrow, hencode, rfl, length_flatMap_bytes (length_bytes_column hrow e), ?_, ?_⟩
  · -- Kind and version are the first two fields of every table.
    rw [flatMap_bytes_row hrow]
    rfl
  · rintro tx sender rfl hsender rfl
    -- A transaction hands its envelope over to the layout, whatever version is asked for.
    have htx : tx.encodeAs version = encode tx.body version (tx.envelope sender) := by
      rw [Transaction.encodeAs, hsender]
      rfl
    refine ⟨htx.trans hencode, ?_⟩
    rintro rfl
    exact htx.trans hencode

/-! ### An example

An association with a negative type in its older layout. -/

namespace Example

def envelope : Envelope :=
  ⟨84, 1000, Transaction.Example.sender.publicKey, 100000000⟩

def association : Body :=
  .association Transaction.Example.sponsor.address (-2) (some [1, 2, 3]) none

theorem made_association : association.Made := by
  have hbody : Body.newAssociation 0 Transaction.Example.sponsor.address (-2) (some [1, 2, 3])
      none = .ok association := rfl
  exact .association hbody

end Example

theorem encode_documented_example : (Values.ofBody Example.association).Short ∧
    ∃ columns bytes, row? .association .v1 = some columns ∧
      encode Example.association .v1 Example.envelope = .ok bytes ∧
      bytes = columns.flatMap (Column.bytes Example.envelope (.ofBody Example.association)) ∧
      bytes.take 2 = [16, 1] := by
  have hshort : (Values.ofBody Example.association).Short :=
    ⟨by decide, by decide, by decide, by decide⟩
  have hexpires : Version.v1 ≠ .v3 → ∀ recipient type hash expires,
      Example.association = .association recipient type hash expires → expires = none := by
    rintro - recipient type hash expires ⟨⟩
    rfl
  have hkey : Version.v1 ≠ .v3 → Example.envelope.sender.keyType = .ed25519 := fun _ => rfl
  obtain ⟨columns, bytes, hrow, hencode, hbytes, -, hhead, -⟩ :=
    encode_documented (.inl Example.made_association) rfl hshort hexpires hkey
  exact ⟨hshort, columns, bytes, hrow, hencode, hbytes, hhead⟩

end Wallet.Layout
