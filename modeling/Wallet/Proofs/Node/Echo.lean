import Wallet.Proofs.Node.Exchange
import Wallet.Proofs.Transaction.Text

/-!
# Transactions that a node sends back

A node is sent the text of the document of a transaction, and later sends the document back with
fields of its own. An `Echo` is an object with the fields of the document, and with no other field
that reading a transaction of this kind looks at. To its reader it looks as the document does
(`Echo.agree`), so it is read as the same transaction, whichever fields the node added
(`echo_append`).

`Carries` says the same of whole conversations with a node, text included. Reading the text of a
reply can fail, and then the text itself stands for the body; an echo is text that can be read.
-/

namespace Wallet

namespace Transaction

/-! ## §1. Echoes -/

/-- An object that holds the fields of the document of a transaction, and besides them only fields
that are not read for its kind. -/
structure Echo (tx : Transaction) (fields : Fields) : Prop where
  kept : ∀ name value, tx.toJson.get? name = some value → Json.field? fields name = some value
  foreign : ∀ name value, Json.field? fields name = some value → tx.toJson.get? name = none →
    name ∉ readNames tx.kind

/-- A reader finds in an echo what the document says. -/
theorem Echo.agree {tx : Transaction} {fields : Fields} (hecho : Echo tx fields) :
    Agree (Json.collected tx.fields) fields (readNames tx.kind) := by
  intro name hname
  have hsame : tx.toJson.get? name = Json.field? fields name := by
    cases hwritten : tx.toJson.get? name with
    | some value => exact (hecho.kept name value hwritten).symm
    | none =>
      -- What is read and not in the document was not added either.
      cases hfield : Json.field? fields name with
      | none => rfl
      | some value => exact absurd hname (hecho.foreign name value hfield hwritten)
  exact congrArg (Option.filter _) hsame

/-- So it is read as the same transaction. -/
theorem Echo.read {tx : Transaction} {fields : Fields} (hecho : Echo tx fields)
    (hread : Read (Json.collected tx.fields) tx) : Read fields tx := by
  rw [← ofFields_eq_ok_iff] at hread ⊢
  have hkind := (ofFields_eq_ok_iff.mp hread).kind
  rw [← ofFields_congr hkind hecho.agree, hread]

/-- The document with any fields added to it that are not read is an echo. -/
theorem echo_append (tx : Transaction) {others : Fields} (hnodup : (others.map Prod.fst).Nodup)
    (hforeign : ∀ name ∈ others.map Prod.fst, name ∉ readNames tx.kind) :
    Echo tx (Json.collected (tx.fields ++ others)) := by
  -- The names stay distinct, since the document has only names that are read.
  have hnames : ((tx.fields ++ others).map Prod.fst).Nodup := by
    rw [List.map_append, List.nodup_append]
    refine ⟨tx.nodup_names_fields, hnodup, fun name hname other hother heq => ?_⟩
    exact hforeign other hother (heq ▸ (names_fields tx).subset hname)
  have hwritten (name : String) : tx.toJson.get? name = Json.field? tx.fields name :=
    field?_collected_fields tx name
  -- Added names are different from those of the document, so each of the two is looked up on its
  -- own.
  have hget (name : String) : Json.field? (Json.collected (tx.fields ++ others)) name =
      (tx.toJson.get? name).or (Json.field? others name) := by
    rw [Json.field?_collected hnames, Json.field?_append, hwritten]
  constructor
  case kept =>
    intro name value hvalue
    rw [hget, hvalue, Option.some_or]
  case foreign =>
    intro name value hvalue hnone
    rw [hget, hnone, Option.none_or] at hvalue
    exact hforeign name (List.mem_map.mpr ⟨_, Json.mem_of_field?_eq_some hvalue, rfl⟩)

end Transaction

namespace Node

/-! ## §2. Replies -/

/-- Text that can be read as JSON is the body of a reply. -/
theorem decode_of_parse {text : String} {body : Json} (hparse : Json.parse text = .ok body)
    (status : Nat) : Http.decode (.received status text) = .answered ⟨status, body⟩ := by
  rw [Http.decode, Http.decodeBody, hparse]

/-- A document in a successful reply is the transaction that it is read as. -/
theorem readTransaction_of_ofJson {status : Nat} {document : Json} {tx : Transaction}
    (hsuccess : 200 ≤ status ∧ status ≤ 299) (hread : Transaction.ofJson document = .ok tx) :
    readTransaction (.answered ⟨status, document⟩) = .ok (some tx) := by
  have hknown : status ≠ 404 := by omega
  rw [readTransaction, readKnown_answered hknown, if_pos (isSuccess_iff.mpr hsuccess), ok_bind]
  simp only [hread, NodeError.liftTransaction]
  rfl

/-- A reply of "not known" is that, whatever else it says. -/
theorem readTransaction_unknown (text : String) :
    readTransaction (Http.decode (.received 404 text)) = .ok none := rfl

/-! ## §3. Conversations -/

/-- A node is told of a transaction and tells of it without a change. -/
structure Carries (tx : Transaction) : Prop where
  /-- One text is posted, and it is read as the transaction. -/
  posted : ∀ url closing replies, ∃ text,
    ((Http.through url (broadcast tx.toJson).exchange).run closing replies).requests =
        [.post (url ++ "/transactions/broadcast") text] ∧
      Transaction.ofText text = .ok tx
  /-- One question is asked about an id. -/
  asked : ∀ url id closing replies,
    ((Http.through url (transaction id).exchange).run closing replies).requests =
      [.get (url ++ s!"/transactions/info/{id}")]
  /-- The text of an echo is understood as the transaction. -/
  found : ∀ url id closing replies status text fields, 200 ≤ status → status ≤ 299 →
    Json.parse text = .ok (.object fields) → tx.Echo fields →
      ((Http.through url (transaction id).exchange).run closing
        (Http.decode (.received status text) :: replies)).value = .ok (some tx)
  /-- A node that does not know the id may say so in any way. -/
  unknown : ∀ url id closing replies text,
    ((Http.through url (transaction id).exchange).run closing
      (Http.decode (.received 404 text) :: replies)).value = .ok none

/-- **A reachable transaction is posted and sent back as itself**, whatever a node adds to it. -/
theorem carries_of_reachable {tx : Transaction} (hreach : tx.Reachable) : Carries tx := by
  have hread : Transaction.Read (Json.collected tx.fields) tx := hreach.read_fields
  constructor
  case posted =>
    intro url closing replies
    have hdocument : Transaction.ofJson tx.toJson = .ok tx :=
      Transaction.ofJson_eq_ok_iff.mpr ⟨_, rfl, hread⟩
    exact ⟨tx.toJson.compact, (Query.run_through _ url closing replies).1,
      (Transaction.ofText_of_ofJson hdocument).1⟩
  case asked => exact fun url id closing replies => (Query.run_through _ url closing replies).1
  case found =>
    intro url id closing replies status text fields hlow hhigh hparse hecho
    have hobject : Transaction.ofJson (.object fields) = .ok tx :=
      Transaction.ofJson_eq_ok_iff.mpr ⟨fields, rfl, hecho.read hread⟩
    rw [(Query.run_through _ url closing _).2, decode_of_parse hparse]
    exact readTransaction_of_ofJson ⟨hlow, hhigh⟩ hobject
  case unknown =>
    intro url id closing replies text
    rw [(Query.run_through _ url closing _).2]
    exact readTransaction_unknown text

/-! ### An example

The sponsored association, to which a node adds an id and a height. -/

namespace Example

def added : Transaction.Fields :=
  [("id", .string "7Kd"), ("height", .natural 12)]

/-- The text of an echo with these fields is read as that echo. -/
theorem parse_added (tx : Transaction) :
    Json.parse (Json.ofFields (tx.fields ++ added)).compact =
      .ok (.object (Json.collected (tx.fields ++ added))) := by
  refine Json.parse_compact (Json.plain_ofFields ?_)
  refine List.forall_mem_append.mpr ⟨tx.plainFields_fields, ?_⟩
  simp [added, Json.plain_string, Transaction.plain_natural, UInt64.size]

end Example

/-- The node of the example is understood. -/
theorem carries_of_reachable_example : ∃ tx,
    Transaction.Example.draft.run Transaction.Example.acts = .ok tx ∧ Carries tx ∧
    ((Http.through "http://node.test" (transaction "7Kd").exchange).run (.failed "closed")
      [Http.decode (.received 200 (Json.ofFields (tx.fields ++ Example.added)).compact)]).value =
        .ok (some tx) := by
  obtain ⟨tx, hrun, hkind⟩ : ∃ tx,
      Transaction.Example.draft.run Transaction.Example.acts = .ok tx ∧
        tx.kind = .association := ⟨_, rfl, rfl⟩
  have hcarries : Carries tx := carries_of_reachable (Transaction.Example.reachable_draft.run hrun)
  have hecho : tx.Echo (Json.collected (tx.fields ++ Example.added)) := by
    refine tx.echo_append (by decide) ?_
    rw [hkind]
    decide
  exact ⟨tx, hrun, hcarries, hcarries.found _ _ _ _ 200 _ _ (by decide) (by decide)
    (Example.parse_added tx) hecho⟩

end Node

end Wallet
