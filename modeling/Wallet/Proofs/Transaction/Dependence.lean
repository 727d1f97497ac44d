import Mathlib.Logic.Relation
import Wallet.Proofs.Transaction.Rewriting

/-!
# What reading a document depends on

A document counts only through its documented fields: those of the envelope and those of the body
of the kind that its type names. Two documents that look the same there are read alike, as one
transaction or with one error (`ofFields_alike`). To look the same is less than to be equal: a
field that is `null` looks absent, and the entries of a mass transfer are compared on their
recipients and amounts alone.

The last part lists the changes that a node or a careless writer may make to a document without
meaning to say anything else (`Edit`). Each of them leaves what counts as it was (`Edit.alike`), so
after any number of them, in either direction, the document is read as before
(`reads_documented`).
-/

namespace Wallet

/-! ## §1. Fields that are set and taken away -/

/-- Taking a field away changes nothing else. -/
theorem Json.field?_eraseField (name other : String) (fields : List (String × Json)) :
    field? (eraseField name fields) other =
      if name = other then none else field? fields other := by
  unfold eraseField
  induction fields with
  | nil => simp
  | cons field rest ih =>
    by_cases hkey : field.1 = name
    · -- The field goes. It could only be found by whoever looks for `name`.
      rw [List.filter_cons_of_neg (by simpa using hkey), ih, field?_cons, hkey]
      by_cases hname : name = other
      · rw [if_pos hname, if_pos hname]
      · rw [if_neg hname, if_neg hname, if_neg hname]
    · rw [List.filter_cons_of_pos (by simpa using hkey), field?_cons, field?_cons, ih]
      by_cases hname : name = other
      · rw [if_pos hname, if_pos hname, if_neg fun hfound => hkey (hfound.trans hname.symm)]
      · rw [if_neg hname, if_neg hname]

namespace Transaction

section Changed

variable {name other : String} {fields : Fields}

theorem optional_insertField_of_ne (hname : name ≠ other) (value : Json) :
    optional (Json.insertField name value fields) other = optional fields other := by
  rw [optional, optional, Json.field?_insertField, if_neg hname]

theorem optional_insertField_self {value : Json} (hnull : value.isNull = false) :
    optional (Json.insertField name value fields) name = some value := by
  refine optional_of_field? ?_ hnull
  rw [Json.field?_insertField, if_pos rfl]

theorem optional_eraseField_of_ne (hname : name ≠ other) :
    optional (Json.eraseField name fields) other = optional fields other := by
  rw [optional, optional, Json.field?_eraseField, if_neg hname]

@[simp] theorem optional_insertField_null :
    optional (Json.insertField name .null fields) name = none := by
  rw [optional, Json.field?_insertField, if_pos rfl]
  rfl

@[simp] theorem optional_eraseField : optional (Json.eraseField name fields) name = none := by
  rw [optional, Json.field?_eraseField, if_pos rfl]
  rfl

end Changed

/-! ## §2. Documents that look the same -/

/-- The fields that are read of an entry of a mass transfer. -/
def entryNames : List String :=
  ["recipient", "amount"]

/-- The type of a document is that of a kind. -/
def NamesKind (fields : Fields) (kind : Kind) : Prop :=
  optional fields "type" = some (.natural kind.typeId.toNat)

/-- A field counts if it belongs to the envelope or to the body of the kind that is named. -/
def Documented (fields : Fields) (name : String) : Prop :=
  name ∈ envelopeNames ∨ ∃ kind, NamesKind fields kind ∧ name ∈ bodyNames kind

/-- Two entries look the same. Those that are no objects have to be equal. -/
inductive EntryAlike : Json → Json → Prop where
  | refl (entry : Json) : EntryAlike entry entry
  | objects {f g : Fields} (agree : Agree f g entryNames) : EntryAlike (.object f) (.object g)

/-- What two documents hold under one name looks the same. -/
inductive FieldAlike : String → Option Json → Option Json → Prop where
  | refl (name : String) (value : Option Json) : FieldAlike name value value
  | transfers {items others : List Json} (entries : List.Forall₂ EntryAlike items others) :
      FieldAlike Members.transfers.field (some (.array items)) (some (.array others))

/-- Two documents look the same wherever they count. -/
structure Alike (f g : Fields) : Prop where
  envelope : Agree f g envelopeNames
  body : ∀ kind, NamesKind f kind → ∀ name ∈ bodyNames kind,
    FieldAlike name (optional f name) (optional g name)

/-- Only the transfers may differ, and only in what is not read of their entries. -/
theorem FieldAlike.eq {name : String} {value other : Option Json}
    (halike : FieldAlike name value other) (hname : name ≠ Members.transfers.field) :
    value = other := by
  cases halike with
  | refl => rfl
  | transfers _ => exact absurd rfl hname

/-- Documents that agree on every field that counts look the same. -/
theorem Alike.of_agree {f g : Fields}
    (hagree : ∀ name, Documented f name → optional f name = optional g name) : Alike f g := by
  constructor
  case envelope => exact fun name hname => hagree name (.inl hname)
  case body =>
    intro kind hkind name hname
    rw [hagree name (.inr ⟨kind, hkind, hname⟩)]
    exact .refl name _

/-! ## §3. They are read alike -/

theorem readEntry_alike {entry other : Json} (halike : EntryAlike entry other) :
    readEntry entry = readEntry other := by
  cases halike with
  | refl => rfl
  | @objects f g hagree =>
    have hrecipient : addressField f "recipient" = addressField g "recipient" :=
      addressField_congr (hagree "recipient" (by decide))
    have hamount : unsignedField f "amount" = unsignedField g "amount" :=
      unsignedField_congr (hagree "amount" (by decide))
    unfold readEntry
    show (demand (some f) _ >>= _) = (demand (some g) _ >>= _)
    simp only [demand, ok_bind, hrecipient, hamount]

theorem readEntries_alike {items others : List Json}
    (halike : List.Forall₂ EntryAlike items others) :
    items.mapM readEntry = others.mapM readEntry := by
  induction halike with
  | nil => rfl
  | cons hentry _ ih => rw [List.mapM_cons, List.mapM_cons, readEntry_alike hentry, ih]

/-- The transfers are read alike, whether they are absent, no list, or other entries. -/
theorem readTransfers_alike {f g : Fields}
    (halike : FieldAlike Members.transfers.field (optional f Members.transfers.field)
      (optional g Members.transfers.field)) :
    (arrayField f .transfers >>= fun items => items.mapM readEntry) =
      (arrayField g .transfers >>= fun items => items.mapM readEntry) := by
  generalize hvalue : optional f Members.transfers.field = value at halike
  generalize hother : optional g Members.transfers.field = other at halike
  cases halike with
  | refl => rw [arrayField_congr (hvalue.trans hother.symm)]
  | transfers hentries =>
    rw [arrayField_of_optional hvalue, arrayField_of_optional hother, ok_bind, ok_bind,
      readEntries_alike hentries]

theorem readBody_alike {f g : Fields} {kind : Kind}
    (halike : ∀ name ∈ bodyNames kind, FieldAlike name (optional f name) (optional g name)) :
    readBody f kind = readBody g kind := by
  by_cases hkind : kind = .massTransfer
  · subst hkind
    have htransfers := readTransfers_alike (halike Members.transfers.field (by decide))
    have hattachment : bytesField f "attachment" = bytesField g "attachment" :=
      bytesField_congr ((halike "attachment" (by decide)).eq (by decide))
    -- Only the list as it was read goes on to the rest of the body.
    have hregroup (h : Fields) : readBody h .massTransfer =
        (arrayField h .transfers >>= fun items => items.mapM readEntry) >>= fun entries =>
          bytesField h "attachment" >>= fun attachment =>
            Body.newMassTransfer entries attachment := by
      rw [readBody, bind_assoc]
    rw [hregroup, hregroup, htransfers, hattachment]
  · -- No other kind has a list of transfers.
    refine readBody_congr fun name hname => (halike name hname).eq ?_
    rintro rfl
    cases kind with
    | massTransfer => exact hkind rfl
    | _ => exact absurd hname (by decide)

/-- Documents that look the same wherever they count are read alike. -/
theorem ofFields_alike {f g : Fields} (halike : Alike f g) : ofFields f = ofFields g := by
  refine ofFields_congr_of_body halike.envelope fun kind hkind => ?_
  exact readBody_alike (halike.body kind (optional_of_readKind hkind))

/-! ## §4. Changes that do not count -/

/-- A change to an object that nobody notices who looks at the names that count and takes `null`
for absent. -/
inductive FieldEdit (counts : String → Prop) : Fields → Fields → Prop where
  /-- A field that does not count is added or given another value. -/
  | set {fields : Fields} (name : String) (value : Json) (uncounted : ¬ counts name) :
      FieldEdit counts fields (Json.insertField name value fields)
  /-- A field that does not count is taken away. -/
  | erase {fields : Fields} (name : String) (uncounted : ¬ counts name) :
      FieldEdit counts fields (Json.eraseField name fields)
  /-- A field that is `null`, whether it counts or not, is taken away. -/
  | null (name : String) (fields : Fields) :
      FieldEdit counts (Json.insertField name .null fields) (Json.eraseField name fields)

/-- A change to a document that does not count: to a field of its own or to one of an entry of its
transfers. -/
inductive Edit : Fields → Fields → Prop where
  | field {f g : Fields} (edit : FieldEdit (Documented f) f g) : Edit f g
  | entry {fields entry edited : Fields} {before after : List Json}
      (isEntry : Json.field? fields Members.transfers.field =
        some (.array (before ++ .object entry :: after)))
      (edit : FieldEdit (· ∈ entryNames) entry edited) :
      Edit fields (Json.insertField Members.transfers.field
        (.array (before ++ .object edited :: after)) fields)

/-- Whoever looks at a name that counts does not notice the change. -/
theorem FieldEdit.optional_eq {counts : String → Prop} {f g : Fields}
    (hedit : FieldEdit counts f g) {other : String} (hother : counts other) :
    optional f other = optional g other := by
  cases hedit with
  | set name value huncounted =>
    have hname : name ≠ other := fun heq => huncounted (heq ▸ hother)
    rw [optional_insertField_of_ne hname]
  | erase name huncounted =>
    have hname : name ≠ other := fun heq => huncounted (heq ▸ hother)
    rw [optional_eraseField_of_ne hname]
  | null name fields =>
    by_cases hname : name = other
    · subst hname
      rw [optional_insertField_null, optional_eraseField]
    · rw [optional_insertField_of_ne hname, optional_eraseField_of_ne hname]

/-- After a change that does not count, a document looks the same. -/
theorem Edit.alike {f g : Fields} (hedit : Edit f g) : Alike f g := by
  cases hedit with
  | field hedit => exact .of_agree fun name hname => hedit.optional_eq hname
  | @entry entry edited before after hentry hedit =>
    have hvalue : optional f Members.transfers.field =
        some (.array (before ++ .object entry :: after)) := optional_of_field? hentry rfl
    have hother : optional (Json.insertField Members.transfers.field
          (.array (before ++ .object edited :: after)) f) Members.transfers.field =
        some (.array (before ++ .object edited :: after)) :=
      optional_of_field? (by rw [Json.field?_insertField, if_pos rfl]) rfl
    -- The edited entry looks the same and the others are the same.
    have hentries : List.Forall₂ EntryAlike (before ++ .object entry :: after)
        (before ++ .object edited :: after) := by
      have hrefl (items : List Json) : List.Forall₂ EntryAlike items items :=
        List.forall₂_same.mpr fun item _ => .refl item
      have hhere : EntryAlike (.object entry) (.object edited) :=
        .objects fun name hname => hedit.optional_eq hname
      exact List.rel_append (hrefl before) (.cons hhere (hrefl after))
    constructor
    case envelope =>
      intro name hname
      -- The transfers are no part of the envelope.
      have hne : Members.transfers.field ≠ name := by
        rintro rfl
        exact absurd hname (by decide)
      rw [optional_insertField_of_ne hne]
    case body =>
      intro kind _ name _
      by_cases hname : Members.transfers.field = name
      · subst hname
        rw [hvalue, hother]
        exact .transfers hentries
      · rw [optional_insertField_of_ne hname]
        exact .refl name _

/-- **A document counts only through its documented fields.** Documents that look the same there
are read as the same transaction or refused with the same error, and so are documents that differ
by any number of changes to other fields, or in whether a field is `null` or absent. -/
theorem reads_documented (f : Fields) :
    (∀ g, Alike f g → ofJson (.object f) = ofJson (.object g)) ∧
      ∀ g, Relation.EqvGen Edit f g → ofJson (.object f) = ofJson (.object g) := by
  have halike (f g : Fields) (halike : Alike f g) : ofJson (.object f) = ofJson (.object g) :=
    ofFields_alike halike
  refine ⟨halike f, fun g hedits => ?_⟩
  -- Each change leaves the outcome as it was, and having the same outcome is an equivalence.
  induction hedits with
  | rel f g hedit => exact halike f g hedit.alike
  | refl f => rfl
  | symm f g _ ih => exact ih.symm
  | trans f g h _ _ ihfirst ihlast => exact ihfirst.trans ihlast

/-! ### An example

A mass transfer to one recipient, and what a node makes of it: there is an attachment that is
`null`, the payment has a state, and the document a height. -/

namespace Example

def payment : Fields :=
  [("amount", .natural 5), ("recipient", .string "3JbvMBoWhRiriw2mn36nRikKmFq3cVdM3U5")]

def plain : Fields :=
  [("fee", .natural 110000000), ("transfers", .array [.object payment]), ("type", .natural 11),
    ("version", .natural 3)]

def withNull : Fields :=
  Json.insertField "attachment" .null plain

def settled : Fields :=
  Json.insertField "transfers"
    (.array [.object (Json.insertField "state" (.string "settled") payment)]) withNull

def annotated : Fields :=
  Json.insertField "height" (.natural 12) settled

theorem edits_annotated : Relation.EqvGen Edit plain annotated := by
  have hnull : Relation.EqvGen Edit plain withNull :=
    .symm _ _ (.rel _ _ (.field (.null "attachment" plain)))
  have hlist : Json.field? withNull Members.transfers.field =
      some (.array ([] ++ .object payment :: [])) := rfl
  have hentry : Edit withNull settled :=
    .entry hlist (.set "state" (.string "settled") (by decide))
  have huncounted : ¬ Documented settled "height" := by
    rintro (henvelope | ⟨kind, -, hbody⟩)
    · exact absurd henvelope (by decide)
    · cases kind <;> exact absurd hbody (by decide)
  have hheight : Edit settled annotated := .field (.set "height" (.natural 12) huncounted)
  exact .trans _ _ _ hnull (.trans _ _ _ (.rel _ _ hentry) (.rel _ _ hheight))

end Example

/-- Both documents are read as one transaction. -/
theorem reads_documented_example : Relation.EqvGen Edit Example.plain Example.annotated ∧
    ∃ tx, ofJson (.object Example.plain) = .ok tx ∧
      ofJson (.object Example.annotated) = .ok tx := by
  have hsame := (reads_documented Example.plain).2 _ Example.edits_annotated
  have hread : (ofJson (.object Example.plain)).isOk = true := by decide +kernel
  refine ⟨Example.edits_annotated, ?_⟩
  rw [← hsame]
  cases hplain : ofJson (.object Example.plain) with
  | ok tx => exact ⟨tx, rfl, rfl⟩
  | error e =>
    rw [hplain] at hread
    cases hread

end Transaction

end Wallet
