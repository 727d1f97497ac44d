import Wallet.Proofs.Transaction.Layout
import Wallet.Proofs.Transaction.Reachable

/-!
# The signed bytes are canonical

No two transactions that say different things have the same signed bytes, and the bytes of one
are never the beginning of the bytes of another. So a signature cannot be used for anything but
what was signed.

Kind and version stand in front and select the layout. From there the bytes are read field by
field, and the fields give back the body, because a well-formed body never stores an absent value
as a zero or as no bytes. `SameMessage` lists what the bytes say; they leave out the sponsor, the
proofs and, in four older layouts, the chain.
-/

namespace Wallet.Layout

/-! ## §1. What a table says -/

/-- The older layouts that do not name the chain. -/
def chainless : List (Kind × Version) :=
  [(.transfer, .v2), (.lease, .v2), (.massTransfer, .v1), (.anchor, .v1)]

theorem not_mem_chainless_v3 (kind : Kind) : (kind, .v3) ∉ chainless := by
  cases kind <;> decide

/-- A body and what surrounds it. The chain is left out where the layout does not name it. -/
structure Contents where
  body : Body
  chain : Option UInt8
  timestamp : UInt64
  sender : PublicKey
  fee : UInt64

/-- What the bytes of a body in its envelope have to say. -/
def contentsOf (body : Body) (version : Version) (e : Envelope) : Contents where
  body := body
  chain := if (body.kind, version) ∈ chainless then none else some e.chain
  timestamp := e.timestamp
  sender := e.sender
  fee := e.fee

/-- The body in the current layout of a kind. -/
def readPayload : Kind → List Field → Option Body
  | .transfer, [.address recipient, .number64 amount, .sized _ attachment] =>
    some (.transfer recipient amount attachment)
  | .lease, [.address recipient, .number64 amount] => some (.lease recipient amount)
  | .cancelLease, [.leaseId leaseId] => some (.cancelLease leaseId)
  | .massTransfer, [.entries list, .sized _ attachment] => some (.massTransfer list attachment)
  | .setScript, [.sized _ script] => some (.setScript script)
  | .anchor, [_, .sized _ hash] => some (.anchor hash)
  | .association, [.address recipient, .signed32 type, .number64 expires, .sized _ hash] =>
    some (Body.assumedAssociation recipient type (some hash) (some expires))
  | .revokeAssociation, [.address recipient, .signed32 type, .sized _ hash] =>
    some (Body.newRevokeAssociation recipient type (some hash))
  | .sponsorship, [.address recipient] => some (.sponsorship recipient)
  | .cancelSponsorship, [.address recipient] => some (.cancelSponsorship recipient)
  | _, _ => none

/-- What the older layout of a kind says behind kind and version. -/
def readLegacy : Kind → List Field → Option Contents
  | .transfer, [.bareKey sender, .number64 timestamp, .number64 amount, .number64 fee,
      .address recipient, .sized _ attachment] =>
    some ⟨.transfer recipient amount attachment, none, timestamp, sender, fee⟩
  | .lease, [_, .bareKey sender, .address recipient, .number64 amount, .number64 fee,
      .number64 timestamp] =>
    some ⟨.lease recipient amount, none, timestamp, sender, fee⟩
  | .cancelLease, [.byte chain, .bareKey sender, .number64 fee, .number64 timestamp,
      .leaseId leaseId] =>
    some ⟨.cancelLease leaseId, some chain, timestamp, sender, fee⟩
  | .massTransfer, [.bareKey sender, .entries list, .number64 timestamp, .number64 fee,
      .sized _ attachment] =>
    some ⟨.massTransfer list attachment, none, timestamp, sender, fee⟩
  | .setScript, [.byte chain, .bareKey sender, _, .sized _ script, .number64 fee,
      .number64 timestamp] =>
    some ⟨.setScript script, some chain, timestamp, sender, fee⟩
  | .anchor, [.bareKey sender, _, .sized _ hash, .number64 timestamp, .number64 fee] =>
    some ⟨.anchor hash, none, timestamp, sender, fee⟩
  | .association, [.byte chain, .bareKey sender, .address recipient, .signed32 type, _,
      .sized _ hash, .number64 timestamp, .number64 fee] =>
    some ⟨Body.assumedAssociation recipient type (some hash) none, some chain, timestamp, sender,
      fee⟩
  | .revokeAssociation, [.byte chain, .bareKey sender, .address recipient, .signed32 type, _,
      .sized _ hash, .number64 timestamp, .number64 fee] =>
    some ⟨Body.newRevokeAssociation recipient type (some hash), some chain, timestamp, sender, fee⟩
  | .sponsorship, [.byte chain, .bareKey sender, .address recipient, .number64 timestamp,
      .number64 fee] =>
    some ⟨.sponsorship recipient, some chain, timestamp, sender, fee⟩
  | .cancelSponsorship, [.byte chain, .bareKey sender, .address recipient, .number64 timestamp,
      .number64 fee] =>
    some ⟨.cancelSponsorship recipient, some chain, timestamp, sender, fee⟩
  | _, _ => none

/-- What a table says. -/
def readTable (kind : Kind) (version : Version) : List Field → Option Contents
  | _ :: _ :: fields =>
    if version = .v3 then
      match fields with
      | .byte chain :: .number64 timestamp :: .key sender :: .number64 fee :: rest =>
        (readPayload kind rest).map fun body => ⟨body, some chain, timestamp, sender, fee⟩
      | _ => none
    else readLegacy kind fields
  | _ => none

/-- The current layout gives back a well-formed body. -/
theorem readPayload_payloadFields {body : Body} (hbody : body.WellFormed) :
    readPayload body.kind (payloadFields body) = some body := by
  cases body with
  | association recipient type hash expires =>
    obtain ⟨hhash, hexpires⟩ := hbody
    -- Zero and no bytes are read as absent, which is what they were written for.
    show some (Body.assumedAssociation recipient type (some (hash.getD []))
      (some (expires.getD 0))) = _
    rw [Body.assumedAssociation, Body.nonEmpty_getD hhash, Body.nonZero_getD hexpires]
  | revokeAssociation recipient type hash =>
    show some (Body.newRevokeAssociation recipient type (some (hash.getD []))) = _
    rw [Body.newRevokeAssociation, Body.nonEmpty_getD hbody]
  | _ => rfl

/-- A kind has one layout besides the current one. -/
theorem version_of_supports {kind : Kind} {version : Version}
    (hsupports : kind.supports version = true) (hversion : version ≠ .v3) :
    version = kind.legacyVersion := by
  simpa [Kind.supports, Kind.supportedVersions, hversion] using hsupports

/-- An older layout gives back all that it has room for. -/
theorem readLegacy_legacyFields {body : Body} {version : Version} {e : Envelope}
    (hbody : body.WellFormed) (hsupports : body.kind.supports version = true)
    (hfits : body.fits version = true) (hversion : version ≠ .v3) :
    readLegacy body.kind (legacyFields e body) = some (contentsOf body version e) := by
  obtain rfl := version_of_supports hsupports hversion
  cases body with
  | association recipient type hash expires =>
    obtain ⟨hhash, -⟩ := hbody
    -- An older layout has no room for an expiry, so there is none.
    have hexpires : expires = none := by
      cases expires with
      | none => rfl
      | some time => cases hfits
    show some (⟨Body.assumedAssociation recipient type (some (hash.getD [])) none, _, _, _, _⟩ :
      Contents) = _
    rw [Body.assumedAssociation, Body.nonEmpty_getD hhash, hexpires]
    rfl
  | revokeAssociation recipient type hash =>
    show some (⟨Body.newRevokeAssociation recipient type (some (hash.getD [])), _, _, _, _⟩ :
      Contents) = _
    rw [Body.newRevokeAssociation, Body.nonEmpty_getD hbody]
    rfl
  | _ => rfl

/-- A table gives back everything that the layout has room for. -/
theorem readTable_table {body : Body} {version : Version} {e : Envelope}
    (hbody : body.WellFormed) (hsupports : body.kind.supports version = true)
    (hfits : body.fits version = true) :
    readTable body.kind version (table body version e) = some (contentsOf body version e) := by
  -- The two layouts put the same things in different places, so they are read apart.
  by_cases hversion : version = .v3
  · have hchain : (body.kind, version) ∉ chainless := hversion ▸ not_mem_chainless_v3 body.kind
    have hcontents : contentsOf body version e =
        ⟨body, some e.chain, e.timestamp, e.sender, e.fee⟩ := by
      rw [contentsOf, if_neg hchain]
    rw [hcontents]
    simp [readTable, table, hversion, currentFields, readPayload_payloadFields hbody]
  · simp only [readTable, table, if_neg hversion]
    exact readLegacy_legacyFields hbody hsupports hfits hversion

/-- The shapes of the fields of a table depend on kind and version alone. -/
theorem shape_table {body body' : Body} {version : Version} {e e' : Envelope}
    (hkind : body.kind = body'.kind) :
    (table body version e).map Field.shape = (table body' version e').map Field.shape := by
  have hpayload : (payloadFields body).map Field.shape = (payloadFields body').map Field.shape := by
    cases body <;> cases body' <;> cases hkind <;> rfl
  have hlegacy : (legacyFields e body).map Field.shape =
      (legacyFields e' body').map Field.shape := by
    cases body <;> cases body' <;> cases hkind <;> rfl
  simp only [table, List.map_cons]
  split
  · simp [currentFields, Field.shape, hpayload]
  · simp [Field.shape, hlegacy]

/-- Tables that say the same are the same. -/
theorem table_congr {body : Body} {version : Version} {e e' : Envelope}
    (hsupports : body.kind.supports version = true)
    (heq : contentsOf body version e = contentsOf body version e') :
    table body version e = table body version e' := by
  obtain ⟨chain, timestamp, sender, fee⟩ := e
  obtain ⟨chain', timestamp', sender', fee'⟩ := e'
  simp only [contentsOf, Contents.mk.injEq, true_and] at heq
  obtain ⟨hchain, rfl, rfl, rfl⟩ := heq
  by_cases hnamed : (body.kind, version) ∈ chainless
  · have hversion : version ≠ .v3 := by
      rintro rfl
      exact not_mem_chainless_v3 body.kind hnamed
    obtain rfl := version_of_supports hsupports hversion
    -- Of the four kinds in the list none has a field for the chain.
    cases body <;>
      first | rfl | simp [chainless, Body.kind, Kind.legacyVersion] at hnamed
  · rw [if_neg hnamed, if_neg hnamed] at hchain
    rw [Option.some.inj hchain]

/-- **Bytes that begin alike are alike**, and so is what they say. -/
theorem contentsOf_eq_of_begins {body body' : Body} {version version' : Version}
    {e e' : Envelope} {b b' : Bytes} (hbody : body.WellFormed) (hbody' : body'.WellFormed)
    (hencode : encode body version e = .ok b) (hencode' : encode body' version' e' = .ok b')
    (hbegin : b <+: b') :
    b = b' ∧ version = version' ∧ contentsOf body version e = contentsOf body' version' e' := by
  obtain ⟨hsupports, hfits, hall, rfl⟩ := encode_eq_ok_iff.mp hencode
  obtain ⟨hsupports', hfits', hall', rfl⟩ := encode_eq_ok_iff.mp hencode'
  obtain ⟨rest, hrest⟩ := hbegin
  -- Kind and version stand in front of everything else.
  have hfront := hrest
  simp only [table, render_cons, Field.bytes, List.cons_append, List.nil_append, List.cons.injEq]
    at hfront
  obtain ⟨htype, hnumber, -⟩ := hfront
  have hkind : body.kind = body'.kind := by
    have hsome := congrArg Kind.ofTypeId? htype
    simpa using hsome
  have hversion : version = version' := by
    have hsome := congrArg Version.ofNumber? hnumber
    simpa using hsome
  subst hversion
  -- Now both tables have fields of the same shapes.
  obtain ⟨htable, -⟩ := render_append_inj (shape_table hkind) hall hall'
    (show render (table body version e) ++ rest = render (table body' version e') ++ [] by
      rw [hrest, List.append_nil])
  refine ⟨by rw [htable], rfl, ?_⟩
  have hread : readTable body.kind version (table body version e) =
      some (contentsOf body version e) := readTable_table hbody hsupports hfits
  rw [htable, hkind, readTable_table hbody' hsupports' hfits'] at hread
  exact (Option.some.inj hread).symm

end Wallet.Layout

namespace Wallet.Transaction

open Layout (chainless)

/-! ## §2. Transactions -/

/-- Two transactions say the same in versions `v` and `v'`. A time that is not set counts as zero,
and the chain counts where the layout names it. -/
structure SameMessage (tx : Transaction) (v : Version) (tx' : Transaction) (v' : Version) :
    Prop where
  version : v = v'
  kind : tx.kind = tx'.kind
  body : tx.body = tx'.body
  fee : tx.fee = tx'.fee
  timestamp : tx.timestamp.getD 0 = tx'.timestamp.getD 0
  senderKey : (tx.sender?.map fun s => s.publicKey) = tx'.sender?.map fun s => s.publicKey
  chainId : (tx.kind, v) ∉ chainless → tx.chainId? = tx'.chainId?

theorem encodeAs_eq_ok_iff {tx : Transaction} {v : Version} {b : Bytes} :
    tx.encodeAs v = .ok b ↔
      ∃ sender, tx.sender? = some sender ∧
        Layout.encode tx.body v (tx.envelope sender) = .ok b := by
  unfold encodeAs
  cases hsender : tx.sender? with
  | none => simp
  | some sender => simp [encodeFor]

/-- Chains are the same if their bytes are. -/
theorem chainByte_inj {a a' : Address} (heq : a.chainId = a'.chainId) :
    a.chainByte = a'.chainByte := by
  apply UInt8.toNat_inj.mp
  rw [← a.toNat_chainId, heq, a'.toNat_chainId]

/-- The chain is part of the contents where the layout names it. -/
theorem named_chain_iff {kind : Kind} {v : Version} {a a' : Address} :
    ((if (kind, v) ∈ chainless then none else some a.chainByte) =
        if (kind, v) ∈ chainless then none else some a'.chainByte) ↔
      ((kind, v) ∉ chainless → a.chainId = a'.chainId) := by
  by_cases hmem : (kind, v) ∈ chainless
  · simp [hmem]
  · rw [if_neg hmem, if_neg hmem]
    constructor
    · intro heq _
      rw [Address.chainId, Address.chainId, Option.some.inj heq]
    · intro heq
      rw [chainByte_inj (heq hmem)]

/-- Saying the same is having the same contents. -/
theorem sameMessage_iff {tx tx' : Transaction} {sender sender' : Signer}
    (hsender : tx.sender? = some sender) (hsender' : tx'.sender? = some sender')
    (v v' : Version) :
    SameMessage tx v tx' v' ↔ v = v' ∧
      Layout.contentsOf tx.body v (tx.envelope sender) =
        Layout.contentsOf tx'.body v' (tx'.envelope sender') := by
  have hchain : tx.chainId? = some sender.address.chainId := by rw [chainId?, hsender]; rfl
  have hchain' : tx'.chainId? = some sender'.address.chainId := by rw [chainId?, hsender']; rfl
  simp only [Layout.contentsOf, envelope, Layout.Contents.mk.injEq]
  constructor
  · intro hsame
    obtain ⟨rfl, -, hbody, hfee, htimestamp, hkey, hchainId⟩ := hsame
    rw [hsender, hsender'] at hkey
    rw [hchain, hchain'] at hchainId
    refine ⟨rfl, hbody, ?_, htimestamp, Option.some.inj hkey, hfee⟩
    rw [← hbody]
    exact named_chain_iff.mpr fun hmem => Option.some.inj (hchainId hmem)
  · rintro ⟨rfl, hbody, hnamed, htimestamp, hkey, hfee⟩
    rw [← hbody] at hnamed
    refine ⟨rfl, by rw [kind, kind, hbody], hbody, hfee, htimestamp, ?_, ?_⟩
    · rw [hsender, hsender', Option.map_some, Option.map_some, hkey]
    · intro hmem
      rw [hchain, hchain', named_chain_iff.mp hnamed hmem]

/-- **The signed bytes are canonical.** If the bytes of one reachable transaction are the
beginning of those of another, they are the same bytes and the transactions say the same; and
transactions that say the same have the same bytes, whatever their sponsors and proofs. -/
theorem encodeAs_canonical {tx tx' : Transaction} {v v' : Version} {b b' : Bytes}
    (hreach : Reachable tx) (hreach' : Reachable tx') (hencode : tx.encodeAs v = .ok b)
    (hencode' : tx'.encodeAs v' = .ok b') :
    (b <+: b' → b = b' ∧ SameMessage tx v tx' v') ∧ (SameMessage tx v tx' v' → b = b') := by
  obtain ⟨sender, hsender, hlayout⟩ := encodeAs_eq_ok_iff.mp hencode
  obtain ⟨sender', hsender', hlayout'⟩ := encodeAs_eq_ok_iff.mp hencode'
  have hsame := sameMessage_iff hsender hsender' v v'
  constructor
  · intro hbegin
    obtain ⟨hbytes, hversion, hcontents⟩ := Layout.contentsOf_eq_of_begins hreach.sound.body
      hreach'.sound.body hlayout hlayout' hbegin
    exact ⟨hbytes, hsame.mpr ⟨hversion, hcontents⟩⟩
  · intro hagree
    -- The same contents fill the same table, which is all that the bytes are made of.
    obtain ⟨rfl, hcontents⟩ := hsame.mp hagree
    have hbody : tx.body = tx'.body := congrArg Layout.Contents.body hcontents
    rw [← hbody] at hlayout' hcontents
    obtain ⟨hsupports, -, -, hbytes⟩ := Layout.encode_eq_ok_iff.mp hlayout
    obtain ⟨-, -, -, hbytes'⟩ := Layout.encode_eq_ok_iff.mp hlayout'
    rw [← hbytes, ← hbytes', Layout.table_congr hsupports hcontents]

/-- The bytes of the example before and after it was sponsored. -/
theorem encodeAs_canonical_example : ∃ tx tx' b b',
    Example.draft.run [.sign Example.sender 1000] = .ok tx ∧
      Example.draft.run Example.acts = .ok tx' ∧ tx.encodeAs .v3 = .ok b ∧
      tx'.encodeAs .v3 = .ok b' ∧ b = b' ∧ SameMessage tx .v3 tx' .v3 := by
  obtain ⟨tx, tx', b, b', hrun, hrun', hencode, hencode', hsame⟩ : ∃ tx tx' b b',
      Example.draft.run [.sign Example.sender 1000] = .ok tx ∧
        Example.draft.run Example.acts = .ok tx' ∧ tx.encodeAs .v3 = .ok b ∧
        tx'.encodeAs .v3 = .ok b' ∧ SameMessage tx .v3 tx' .v3 :=
    ⟨_, _, _, _, rfl, rfl, rfl, rfl, rfl, rfl, rfl, rfl, rfl, rfl, fun _ => rfl⟩
  obtain ⟨hforth, hback⟩ := encodeAs_canonical (Example.reachable_draft.run hrun)
    (Example.reachable_draft.run hrun') hencode hencode'
  have hbegin : b <+: b' := by
    rw [hback hsame]
  obtain ⟨hbytes, hmessage⟩ := hforth hbegin
  exact ⟨tx, tx', b, b', hrun, hrun', hencode, hencode', hbytes, hmessage⟩

end Wallet.Transaction
