import Wallet.Proofs.Address
import Wallet.Proofs.Numeral
import Wallet.Proofs.Outcome
import Wallet.Proofs.Transaction.Body
import Wallet.Transaction.Layout

/-!
# Layouts as tables

A layout is a list of fields, and the signed bytes are the fields one after the other. `table`
lists them for every kind and version, and `encode_eq_ok_iff` says that encoding writes just these
fields, whenever each of them fits.

Fields of the same shape can be told apart by their bytes, whatever follows
(`Field.bytes_append_inj`). So can lists of fields whose shapes agree (`render_append_inj`). That
is why no layout needs a separator.
-/

namespace Wallet.Layout

/-! ## §1. Fields -/

/-- A field of the signed bytes. -/
inductive Field where
  | byte (b : UInt8)
  | number16 (n : UInt16)
  | number64 (n : UInt64)
  | signed32 (n : Int32)
  | address (a : Address)
  | leaseId (id : Octets 32)
  /-- A public key behind the marker of its scheme. -/
  | key (k : PublicKey)
  /-- A public key alone, which only Ed25519 allows. -/
  | bareKey (k : PublicKey)
  /-- Bytes behind their length. -/
  | sized (field : SizedField) (bytes : Bytes)
  /-- The entries of a mass transfer behind their number. -/
  | entries (list : List Entry)

/-- What is known of a field before it is read. -/
inductive Shape where
  | byte
  | number16
  | number64
  | signed32
  | address
  | leaseId
  | key
  | bareKey
  | sized (field : SizedField)
  | entries

/-- The bytes of one payment of a mass transfer. -/
def entryBytes (entry : Entry) : Bytes :=
  entry.recipient.bytes ++ word64 entry.amount

namespace Field

def shape : Field → Shape
  | .byte _ => .byte
  | .number16 _ => .number16
  | .number64 _ => .number64
  | .signed32 _ => .signed32
  | .address _ => .address
  | .leaseId _ => .leaseId
  | .key _ => .key
  | .bareKey _ => .bareKey
  | .sized field _ => .sized field
  | .entries _ => .entries

def bytes : Field → Bytes
  | .byte b => [b]
  | .number16 n => bigEndian 2 n.toNat
  | .number64 n => word64 n
  | .signed32 n => int32 n
  | .address a => a.bytes
  | .leaseId id => id.list
  | .key k => k.keyType.marker :: k.bytes
  | .bareKey k => k.bytes
  | .sized _ bytes => bigEndian 2 bytes.length ++ bytes
  | .entries list => bigEndian 2 list.length ++ list.flatMap entryBytes

/-- Whether there is room for a field. -/
def Fits : Field → Prop
  | .bareKey k => k.keyType = .ed25519
  | .sized _ bytes => bytes.length ≤ sizeLimit
  | .entries list => list.length ≤ sizeLimit
  | _ => True

end Field

/-- Fields one after the other. -/
def render (fields : List Field) : Bytes :=
  fields.flatMap Field.bytes

theorem render_cons (f : Field) (fields : List Field) :
    render (f :: fields) = f.bytes ++ render fields := rfl

/-! ## §2. The tables -/

/-- What follows the header in the current layout of a body. -/
def payloadFields : Body → List Field
  | .transfer recipient amount attachment =>
    [.address recipient, .number64 amount, .sized .attachment attachment]
  | .lease recipient amount => [.address recipient, .number64 amount]
  | .cancelLease leaseId => [.leaseId leaseId]
  | .massTransfer list attachment => [.entries list, .sized .attachment attachment]
  | .setScript script => [.sized .script script]
  | .anchor hash => [.number16 1, .sized .anchor hash]
  | .association recipient type hash expires =>
    [.address recipient, .signed32 type, .number64 (expires.getD 0), .sized .hash (hashBytes hash)]
  | .revokeAssociation recipient type hash =>
    [.address recipient, .signed32 type, .sized .hash (hashBytes hash)]
  | .sponsorship recipient => [.address recipient]
  | .cancelSponsorship recipient => [.address recipient]

/-- The current layout behind kind and version. -/
def currentFields (e : Envelope) (body : Body) : List Field :=
  [.byte e.chain, .number64 e.timestamp, .key e.sender, .number64 e.fee] ++ payloadFields body

/-- The older layout of a body behind kind and version. -/
def legacyFields (e : Envelope) : Body → List Field
  | .transfer recipient amount attachment =>
    [.bareKey e.sender, .number64 e.timestamp, .number64 amount, .number64 e.fee,
      .address recipient, .sized .attachment attachment]
  | .lease recipient amount =>
    [.byte 0, .bareKey e.sender, .address recipient, .number64 amount, .number64 e.fee,
      .number64 e.timestamp]
  | .cancelLease leaseId =>
    [.byte e.chain, .bareKey e.sender, .number64 e.fee, .number64 e.timestamp, .leaseId leaseId]
  | .massTransfer list attachment =>
    [.bareKey e.sender, .entries list, .number64 e.timestamp, .number64 e.fee,
      .sized .attachment attachment]
  | .setScript script =>
    [.byte e.chain, .bareKey e.sender, .byte 1, .sized .script script, .number64 e.fee,
      .number64 e.timestamp]
  | .anchor hash =>
    [.bareKey e.sender, .number16 1, .sized .anchor hash, .number64 e.timestamp, .number64 e.fee]
  | .association recipient type hash _ =>
    [.byte e.chain, .bareKey e.sender, .address recipient, .signed32 type, .byte 1,
      .sized .hash (hashBytes hash), .number64 e.timestamp, .number64 e.fee]
  | .revokeAssociation recipient type hash =>
    [.byte e.chain, .bareKey e.sender, .address recipient, .signed32 type, .byte 1,
      .sized .hash (hashBytes hash), .number64 e.timestamp, .number64 e.fee]
  | .sponsorship recipient =>
    [.byte e.chain, .bareKey e.sender, .address recipient, .number64 e.timestamp, .number64 e.fee]
  | .cancelSponsorship recipient =>
    [.byte e.chain, .bareKey e.sender, .address recipient, .number64 e.timestamp, .number64 e.fee]

/-- The fields of a body in its envelope. -/
def table (body : Body) (version : Version) (e : Envelope) : List Field :=
  .byte body.kind.typeId :: .byte version.number ::
    if version = .v3 then currentFields e body else legacyFields e body

/-! ## §3. Encoding writes the table -/

/-- Bytes are written behind their length if 16 bits hold it. -/
theorem sized_eq_ok_iff {field : SizedField} {bytes b : Bytes} :
    sized field bytes = .ok b ↔
      (Field.sized field bytes).Fits ∧ (Field.sized field bytes).bytes = b := by
  unfold sized
  by_cases hlength : bytes.length ≤ sizeLimit
  · simp [count, hlength, Field.Fits, Field.bytes]
  · simp [count, hlength, Field.Fits]

theorem entries_eq_ok_iff {list : List Entry} {b : Bytes} :
    entries list = .ok b ↔ (Field.entries list).Fits ∧ (Field.entries list).bytes = b := by
  have hentry : (fun entry : Entry => entry.recipient.bytes ++ word64 entry.amount) =
      entryBytes := rfl
  unfold entries
  rw [hentry]
  by_cases hlength : list.length ≤ sizeLimit
  · simp [count, hlength, Field.Fits, Field.bytes]
  · simp [count, hlength, Field.Fits]

theorem payload_eq_ok_iff {body : Body} {b : Bytes} :
    payload body = .ok b ↔
      (∀ f ∈ payloadFields body, f.Fits) ∧ render (payloadFields body) = b := by
  -- Each layout is a chain of fields of which only the sized ones can fail.
  cases body <;>
    simp [payload, payloadFields, render, Field.Fits, Field.bytes, bind_eq_ok, sized_eq_ok_iff,
      entries_eq_ok_iff, and_assoc]

/-- An older layout is written field by field if the scheme of the sender allows it. -/
theorem legacy_eq_ok_iff {body : Body} {e : Envelope} {b : Bytes}
    (hkey : e.sender.keyType = .ed25519) :
    legacy e body = .ok b ↔
      (∀ f ∈ legacyFields e body, f.Fits) ∧ render (legacyFields e body) = b := by
  cases body <;>
    simp [legacy, legacyFields, legacyAssociation, legacySponsorship, render, Field.Fits,
      Field.bytes, bind_eq_ok, sized_eq_ok_iff, entries_eq_ok_iff, hkey, and_assoc]

/-- Every older layout holds the bare key of the sender. -/
theorem bareKey_mem_legacyFields (e : Envelope) (body : Body) :
    .bareKey e.sender ∈ legacyFields e body := by
  cases body <;> simp [legacyFields]

/-- Only the current layout has a marker for the scheme. -/
theorem checkKeyType_eq_ok_iff {kind : Kind} {version : Version} {e : Envelope} :
    checkKeyType kind version e = .ok () ↔ version = .v3 ∨ e.sender.keyType = .ed25519 := by
  unfold checkKeyType
  by_cases hkey : version = .v3 ∨ e.sender.keyType = .ed25519 <;> simp [hkey]

/-- Encoding succeeds if the kind has the layout and every field fits, and then the bytes are the
fields of the table. -/
theorem encode_eq_ok_iff {body : Body} {version : Version} {e : Envelope} {b : Bytes} :
    encode body version e = .ok b ↔
      body.kind.supports version = true ∧ body.fits version = true ∧
        (∀ f ∈ table body version e, f.Fits) ∧ render (table body version e) = b := by
  simp only [encode, check_bind_eq_ok, Body.checkVersion_eq_ok_iff, Body.checkFits_eq_ok_iff,
    checkKeyType_eq_ok_iff]
  -- The table starts with kind and version in both layouts; the check of the scheme is what the
  -- bare key of an older layout demands.
  by_cases hversion : version = .v3
  · -- The current layout has the same header for all kinds.
    have hcurrent : (do return header body.kind e ++ (← payload body)) = .ok b ↔
        (∀ f ∈ table body version e, f.Fits) ∧ render (table body version e) = b := by
      simp [hversion, bind_eq_ok, payload_eq_ok_iff, table, currentFields, header, render,
        Field.Fits, Field.bytes, and_assoc]
    rw [if_pos hversion, hcurrent]
    simp [hversion]
  · rw [if_neg hversion]
    by_cases hkey : e.sender.keyType = .ed25519
    · have hlegacy : (do return [body.kind.typeId, version.number] ++ (← legacy e body)) = .ok b ↔
          (∀ f ∈ table body version e, f.Fits) ∧ render (table body version e) = b := by
        simp [hversion, bind_eq_ok, legacy_eq_ok_iff hkey, table, render, Field.Fits,
          Field.bytes, and_assoc]
      rw [hlegacy]
      simp [hkey]
    · -- The bare key has no room for any other scheme.
      have hfits : ¬ ∀ f ∈ table body version e, f.Fits := by
        intro hall
        refine hkey (hall (.bareKey e.sender) ?_)
        simp [table, hversion, bareKey_mem_legacyFields]
      simp [hversion, hkey, hfits]

/-- Whether the parts of a body that stand behind their length have a length that 16 bits hold. -/
def HasRoom : Body → Prop
  | .transfer _ _ attachment => attachment.length ≤ sizeLimit
  | .massTransfer list attachment => list.length ≤ sizeLimit ∧ attachment.length ≤ sizeLimit
  | .setScript script => script.length ≤ sizeLimit
  | .anchor hash => hash.length ≤ sizeLimit
  | .association _ _ hash _ => (hashBytes hash).length ≤ sizeLimit
  | .revokeAssociation _ _ hash => (hashBytes hash).length ≤ sizeLimit
  | _ => True

/-- Only the scheme of the sender and those lengths decide whether the fields fit. -/
theorem table_fits_iff {body : Body} {version : Version} {e : Envelope} :
    (∀ f ∈ table body version e, f.Fits) ↔
      (version = .v3 ∨ e.sender.keyType = .ed25519) ∧ HasRoom body := by
  by_cases hversion : version = .v3
  · cases body <;>
      simp [table, hversion, currentFields, payloadFields, HasRoom, Field.Fits]
  · cases body <;>
      simp [table, hversion, legacyFields, HasRoom, Field.Fits]

/-! ## §4. Fields can be told apart -/

section Numbers

variable {s t : Bytes}

theorem bigEndian_append_inj {width m n : Nat} (hm : m < 256 ^ width) (hn : n < 256 ^ width)
    (heq : bigEndian width m ++ s = bigEndian width n ++ t) : m = n ∧ s = t := by
  obtain ⟨hdigits, hrest⟩ := List.append_inj heq (by simp)
  exact ⟨bigEndian_inj hm hn hdigits, hrest⟩

theorem word64_append_inj {m n : UInt64} (heq : word64 m ++ s = word64 n ++ t) :
    m = n ∧ s = t := by
  obtain ⟨hnumber, hrest⟩ := bigEndian_append_inj m.toNat_lt n.toNat_lt heq
  exact ⟨UInt64.toNat_inj.mp hnumber, hrest⟩

theorem int32_append_inj {m n : Int32} (heq : int32 m ++ s = int32 n ++ t) : m = n ∧ s = t := by
  -- Two's complement gives different numbers different bits.
  obtain ⟨hnumber, hrest⟩ := bigEndian_append_inj m.toUInt32.toNat_lt n.toUInt32.toNat_lt heq
  have hunsigned : m.toUInt32 = n.toUInt32 := UInt32.toNat_inj.mp hnumber
  exact ⟨by rw [← m.toInt32_toUInt32, hunsigned, n.toInt32_toUInt32], hrest⟩

theorem octets_append_inj {n : Nat} {a b : Octets n} (heq : a.list ++ s = b.list ++ t) :
    a = b ∧ s = t := by
  -- The length is in the type, so both lists end at the same place.
  obtain ⟨hlist, hrest⟩ := List.append_inj heq (a.length_eq.trans b.length_eq.symm)
  exact ⟨Option.some.inj (by rw [← a.ofList?_list, hlist, b.ofList?_list]), hrest⟩

theorem address_append_inj {a b : Address} (heq : a.bytes ++ s = b.bytes ++ t) :
    a = b ∧ s = t := by
  obtain ⟨hbytes, hrest⟩ := List.append_inj heq (a.octets.length_eq.trans b.octets.length_eq.symm)
  exact ⟨Except.ok.inj (by rw [← a.ofBytes_bytes, hbytes, b.ofBytes_bytes]), hrest⟩

/-- Keys of one scheme have one length. -/
theorem publicKey_append_inj {k l : PublicKey} (htype : k.keyType = l.keyType)
    (heq : k.bytes ++ s = l.bytes ++ t) : k = l ∧ s = t := by
  obtain ⟨kType, kBytes, hk⟩ := k
  obtain ⟨lType, lBytes, hl⟩ := l
  obtain rfl : kType = lType := htype
  obtain ⟨rfl, hrest⟩ := List.append_inj heq (hk.trans hl.symm)
  exact ⟨rfl, hrest⟩

theorem marker_inj {t u : KeyType} (heq : t.marker = u.marker) : t = u := by
  cases t <;> cases u <;> first | rfl | (revert heq; decide)

theorem entries_append_inj {es fs : List Entry} (hlength : es.length = fs.length)
    (heq : es.flatMap entryBytes ++ s = fs.flatMap entryBytes ++ t) : es = fs ∧ s = t := by
  -- Entries have one length, and their number is known to be the same.
  induction es generalizing fs with
  | nil =>
    obtain rfl : fs = [] := List.length_eq_zero_iff.mp hlength.symm
    exact ⟨rfl, heq⟩
  | cons e rest ih =>
    cases fs with
    | nil => cases hlength
    | cons f others =>
      simp only [List.flatMap_cons, entryBytes, List.append_assoc] at heq
      obtain ⟨hrecipient, heq⟩ := address_append_inj heq
      obtain ⟨hamount, heq⟩ := word64_append_inj heq
      obtain ⟨hothers, hrest⟩ := ih (Nat.succ.inj hlength) heq
      obtain ⟨recipient, amount⟩ := e
      obtain rfl : recipient = f.recipient := hrecipient
      obtain rfl : amount = f.amount := hamount
      exact ⟨by rw [hothers], hrest⟩

end Numbers

theorem lt_of_fits {n : Nat} (hn : n ≤ sizeLimit) : n < 256 ^ 2 :=
  Nat.lt_of_le_of_lt hn (by decide)

/-- Of two fields of one shape, no one is a part of the other. -/
theorem Field.bytes_append_inj {f g : Field} (hshape : f.shape = g.shape) (hf : f.Fits)
    (hg : g.Fits) {s t : Bytes} (heq : f.bytes ++ s = g.bytes ++ t) : f = g ∧ s = t := by
  cases f with
  | byte b =>
    cases g with
    | byte c =>
      obtain ⟨rfl, hrest⟩ := List.cons.inj heq
      exact ⟨rfl, hrest⟩
    | _ => cases hshape
  | number16 m =>
    cases g with
    | number16 n =>
      obtain ⟨hnumber, hrest⟩ := bigEndian_append_inj m.toNat_lt n.toNat_lt heq
      exact ⟨by rw [UInt16.toNat_inj.mp hnumber], hrest⟩
    | _ => cases hshape
  | number64 m =>
    cases g with
    | number64 n =>
      obtain ⟨rfl, hrest⟩ := word64_append_inj heq
      exact ⟨rfl, hrest⟩
    | _ => cases hshape
  | signed32 m =>
    cases g with
    | signed32 n =>
      obtain ⟨rfl, hrest⟩ := int32_append_inj heq
      exact ⟨rfl, hrest⟩
    | _ => cases hshape
  | address a =>
    cases g with
    | address b =>
      obtain ⟨rfl, hrest⟩ := address_append_inj heq
      exact ⟨rfl, hrest⟩
    | _ => cases hshape
  | leaseId a =>
    cases g with
    | leaseId b =>
      obtain ⟨rfl, hrest⟩ := octets_append_inj heq
      exact ⟨rfl, hrest⟩
    | _ => cases hshape
  | key k =>
    cases g with
    | key l =>
      -- The marker comes first and says how long the key is.
      obtain ⟨hmarker, heq⟩ := List.cons.inj heq
      obtain ⟨rfl, hrest⟩ := publicKey_append_inj (marker_inj hmarker) heq
      exact ⟨rfl, hrest⟩
    | _ => cases hshape
  | bareKey k =>
    cases g with
    | bareKey l =>
      have htype : k.keyType = l.keyType := hf.trans hg.symm
      obtain ⟨rfl, hrest⟩ := publicKey_append_inj htype heq
      exact ⟨rfl, hrest⟩
    | _ => cases hshape
  | sized field b =>
    cases g with
    | sized other c =>
      obtain rfl : field = other := by injection hshape
      simp only [bytes, List.append_assoc] at heq
      -- A length that fits 16 bits is read back, and so are as many bytes.
      obtain ⟨hlength, heq⟩ := bigEndian_append_inj (lt_of_fits hf) (lt_of_fits hg) heq
      obtain ⟨rfl, hrest⟩ := List.append_inj heq hlength
      exact ⟨rfl, hrest⟩
    | _ => cases hshape
  | entries es =>
    cases g with
    | entries fs =>
      simp only [bytes, List.append_assoc] at heq
      obtain ⟨hlength, heq⟩ := bigEndian_append_inj (lt_of_fits hf) (lt_of_fits hg) heq
      obtain ⟨rfl, hrest⟩ := entries_append_inj hlength heq
      exact ⟨rfl, hrest⟩
    | _ => cases hshape

/-- Lists of fields of the same shapes can be told apart field by field. -/
theorem render_append_inj {fs gs : List Field} (hshapes : fs.map Field.shape = gs.map Field.shape)
    (hfs : ∀ f ∈ fs, f.Fits) (hgs : ∀ g ∈ gs, g.Fits) {s t : Bytes}
    (heq : render fs ++ s = render gs ++ t) : fs = gs ∧ s = t := by
  -- The first fields end at the same place, so the rests start at the same place.
  induction fs generalizing gs with
  | nil =>
    obtain rfl : gs = [] := List.map_eq_nil_iff.mp hshapes.symm
    exact ⟨rfl, heq⟩
  | cons f rest ih =>
    cases gs with
    | nil => cases hshapes
    | cons g others =>
      simp only [List.map_cons, List.cons.injEq] at hshapes
      rw [render_cons, render_cons, List.append_assoc, List.append_assoc] at heq
      obtain ⟨rfl, hnext⟩ :=
        Field.bytes_append_inj hshapes.1 (hfs f (by simp)) (hgs g (by simp)) heq
      obtain ⟨rfl, hrest⟩ := ih hshapes.2 (fun h hh => hfs h (List.mem_cons_of_mem _ hh))
        (fun h hh => hgs h (List.mem_cons_of_mem _ hh)) hnext
      exact ⟨rfl, hrest⟩

end Wallet.Layout
