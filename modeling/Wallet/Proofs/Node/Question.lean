import Mathlib.Data.List.DropRight
import Wallet.Proofs.Json.Fields
import Wallet.Proofs.Node.Exchange
import Wallet.Proofs.Text.Base64
import Wallet.Transaction.Script

/-!
# What a node can answer

There are twelve questions to a node, and all of them are asked and understood in the same way. A
question is one request at the address of the node without its trailing slashes (`Trimmed`). What
comes back is a failure of the connection, or a status with a text that may be anything.

`Answers` says what each of these is understood as. A status that is no success is a refusal, and
what a node gives as its reason is found in the text in one of four ways (`Explains`). Two of the
questions take one refusal for an answer, that the node does not know a transaction. The body of a
success either holds what the question needs or lacks it (`Holds`, `Lacks`), so that no reply is
left open, and none is understood in two ways (`answers_iff`).
-/

namespace Wallet

/-! ## §1. The address of a node -/

namespace NodeConfig

/-- The second text is the first one without the slashes at its end. -/
structure Trimmed (url base : String) : Prop where
  slashes : ∃ count, url.toList = base.toList ++ List.replicate count '/'
  last : base.toList.getLast? ≠ some '/'

theorem toList_withoutSlashes (url : String) :
    (withoutSlashes url).toList = url.toList.rdropWhile (· = '/') :=
  String.toList_ofList

theorem rdropWhile_append_slashes (cs : List Char) (count : Nat) :
    (cs ++ List.replicate count '/').rdropWhile (· = '/') = cs.rdropWhile (· = '/') := by
  induction count with
  | zero => simp
  | succ count ih =>
    rw [List.replicate_succ', ← List.append_assoc, List.rdropWhile_concat_pos _ _ _ (by simp), ih]

/-- Dropping the slashes at the end leaves such a text. -/
theorem trimmed_withoutSlashes (url : String) : Trimmed url (withoutSlashes url) := by
  constructor
  case slashes =>
    have hslashes : ∀ c ∈ url.toList.rtakeWhile (· = '/'), c = '/' := by
      intro c hc
      simpa using List.mem_rtakeWhile_imp hc
    refine ⟨(url.toList.rtakeWhile (· = '/')).length, ?_⟩
    rw [toList_withoutSlashes, ← List.eq_replicate_of_mem hslashes,
      List.rdropWhile_append_rtakeWhile]
  case last =>
    rw [toList_withoutSlashes]
    -- If only slashes were there, nothing is left that could end with one.
    by_cases hempty : url.toList.rdropWhile (· = '/') = []
    · rw [hempty]
      nofun
    · have hslash := List.rdropWhile_last_not _ _ hempty
      rw [List.getLast?_eq_some_getLast hempty]
      simpa using hslash

/-- There is one such text. -/
theorem withoutSlashes_eq_iff {url base : String} :
    withoutSlashes url = base ↔ Trimmed url base := by
  constructor
  · rintro rfl
    exact trimmed_withoutSlashes url
  · rintro ⟨⟨count, hurl⟩, hlast⟩
    apply String.toList_inj.mp
    -- The slashes behind the base are dropped, and the base ends with none itself.
    rw [toList_withoutSlashes, hurl, rdropWhile_append_slashes, List.rdropWhile_eq_self_iff]
    intro hne hslash
    exact hlast (by rw [List.getLast?_eq_some_getLast hne]; simpa using hslash)

end NodeConfig

/-! ## §2. Texts -/

namespace Json

variable {body : Json} {name : String}

section

variable {α : Type} {read : Json → Option α} {write : α → Json}

/-- A field is read as a value exactly if it is what the value is written as. -/
theorem get?_bind_eq_some_iff (hread : ∀ value a, read value = some a ↔ value = write a) {a : α} :
    (body.get? name).bind read = some a ↔ body.get? name = some (write a) := by
  rw [Option.bind_eq_some_iff]
  constructor
  · rintro ⟨value, hvalue, ha⟩
    rw [hvalue, (hread value a).mp ha]
  · intro hfield
    exact ⟨write a, hfield, (hread _ a).mpr rfl⟩

theorem get?_bind_eq_none (hread : ∀ value a, read value = some a ↔ value = write a)
    (hmissing : ∀ a, body.get? name ≠ some (write a)) : (body.get? name).bind read = none := by
  rw [Option.eq_none_iff_forall_ne_some]
  intro a hbind
  exact hmissing a ((get?_bind_eq_some_iff hread).mp hbind)

end

theorem asString?_eq_some_iff (value : Json) (text : String) :
    value.asString? = some text ↔ value = .string text := by
  constructor
  · exact eq_string_of_asString?
  · rintro rfl
    rfl

theorem asUnsigned?_eq_some_iff (value : Json) (n : UInt64) :
    value.asUnsigned? = some n ↔ value = .natural n.toNat := by
  constructor
  · exact eq_natural_of_asUnsigned?
  · rintro rfl
    exact asUnsigned?_natural n

end Json

namespace Node

/-- What a text is taken for: the JSON that it is, or else a string. -/
inductive Sent (text : String) : Json → Prop where
  | json {body : Json} (parsed : Json.parse text = .ok body) : Sent text body
  | other {fault : Json.Fault} (unparsed : Json.parse text = .error fault) :
      Sent text (.string text)

/-- Every text is taken for one body. -/
theorem sent_iff {text : String} {body : Json} : Sent text body ↔ Http.decodeBody text = body := by
  constructor
  · rintro (hparsed | hunparsed)
    · rw [Http.decodeBody, hparsed]
    · rw [Http.decodeBody, hunparsed]
  · rintro rfl
    unfold Http.decodeBody
    cases hparse : Json.parse text with
    | ok body => exact .json hparse
    | error fault => exact .other hparse

/-- The reason that a node gives with a refusal: a message in an object, a string, text that is not
JSON, or any other JSON as it is. -/
inductive Explains (text : String) : String → Prop where
  | message {fields : List (String × Json)} {message : String}
      (parsed : Json.parse text = .ok (.object fields))
      (named : Json.field? fields "message" = some (.string message)) : Explains text message
  | string {message : String} (parsed : Json.parse text = .ok (.string message)) :
      Explains text message
  | raw {fault : Json.Fault} (unparsed : Json.parse text = .error fault) : Explains text text
  | compact {body : Json} (parsed : Json.parse text = .ok body)
      (unnamed : ∀ message, body.get? "message" ≠ some (.string message))
      (unquoted : ∀ message, body ≠ .string message) : Explains text body.compact

theorem refusal_of_message {body : Json} {message : String}
    (hmessage : body.get? "message" = some (.string message)) : refusal body = message := by
  have hbind := (Json.get?_bind_eq_some_iff Json.asString?_eq_some_iff).mpr hmessage
  unfold refusal
  split
  · cases hmessage
  · rw [hbind]

theorem refusal_of_other {body : Json}
    (hunnamed : ∀ message, body.get? "message" ≠ some (.string message))
    (hunquoted : ∀ message, body ≠ .string message) : refusal body = body.compact := by
  have hnone := Json.get?_bind_eq_none Json.asString?_eq_some_iff hunnamed
  unfold refusal
  split
  · next text => exact absurd rfl (hunquoted text)
  · rw [hnone]

theorem refusal_of_explains {text message : String} (hexplains : Explains text message) :
    refusal (Http.decodeBody text) = message := by
  cases hexplains with
  | @message fields _ hparsed hnamed =>
    have hget : (Json.object fields).get? "message" = some (.string message) := hnamed
    rw [sent_iff.mp (.json hparsed), refusal_of_message hget]
  | string hparsed => rw [sent_iff.mp (.json hparsed)]; rfl
  | raw hunparsed => rw [sent_iff.mp (.other hunparsed)]; rfl
  | compact hparsed hunnamed hunquoted =>
    rw [sent_iff.mp (.json hparsed), refusal_of_other hunnamed hunquoted]

/-- A node always gives some reason. -/
theorem exists_explains (text : String) : ∃ message, Explains text message := by
  cases hparse : Json.parse text with
  | error fault => exact ⟨text, .raw hparse⟩
  | ok body =>
    -- The ways are tried in the order in which they are read: only an object has a message.
    by_cases hnamed : ∃ message, body.get? "message" = some (.string message)
    · obtain ⟨message, hmessage⟩ := hnamed
      cases body with
      | object fields => exact ⟨message, .message hparse hmessage⟩
      | _ => cases hmessage
    · by_cases hquoted : ∃ message, body = .string message
      · obtain ⟨message, rfl⟩ := hquoted
        exact ⟨message, .string hparse⟩
      · exact ⟨_, .compact hparse (not_exists.mp hnamed) (not_exists.mp hquoted)⟩

/-! ## §3. Questions -/

/-- The questions to a node, each with the kind of answer that is expected. -/
inductive Question : Type → Type where
  | broadcast (document : Json) : Question String
  | transactionInfo (id : String) : Question (Option Json)
  | transaction (id : String) : Question (Option Transaction)
  | balance (address : String) : Question UInt64
  | height : Question UInt64
  | lastBlock : Question Json
  | blockAt (height : UInt64) : Question Json
  | transactions (address : String) (limit : UInt32) (after : Option String) : Question Json
  | leaseList (address : String) : Question Json
  | sponsorshipList (address : String) : Question Json
  | associationList (address : String) : Question Json
  | compileScript (source : String) : Question Bytes

namespace Question

variable {α : Type}

/-- The request that is made, and how the reply to it is read. -/
def query : Question α → Query α
  | .broadcast document => Node.broadcast document
  | .transactionInfo id => Node.transactionInfo id
  | .transaction id => Node.transaction id
  | .balance address => Node.balance address
  | .height => Node.height
  | .lastBlock => Node.lastBlock
  | .blockAt number => Node.blockAt number
  | .transactions address limit after => Node.transactions address limit after
  | .leaseList address => Node.leaseList address
  | .sponsorshipList address => Node.sponsorshipList address
  | .associationList address => Node.associationList address
  | .compileScript source => Node.compileScript source

/-- The place of a question. -/
def path : Question α → String
  | .broadcast _ => "/transactions/broadcast"
  | .transactionInfo id | .transaction id => s!"/transactions/info/{id}"
  | .balance address => s!"/addresses/balance/{address}"
  | .height => "/blocks/height"
  | .lastBlock => "/blocks/last"
  | .blockAt number => s!"/blocks/at/{number}"
  | .transactions address limit after =>
    s!"/transactions/address/{address}/limit/{limit}" ++ after.elim "" fun id => s!"?after={id}"
  | .leaseList address => s!"/leasing/active/{address}"
  | .sponsorshipList address => s!"/sponsorship/status/{address}"
  | .associationList address => s!"/associations/status/{address}"
  | .compileScript _ => "/utils/script/compile"

/-- What is sent with a question. Only what has something to send is posted. -/
def body? : Question α → Option String
  | .broadcast document => some document.compact
  | .compileScript source => some source
  | _ => none

def method (q : Question α) : Method :=
  if q.body?.isSome then .post else .get

/-- The request of a question has its method, its path and its body. -/
theorem request_query (q : Question α) : q.query.request = ⟨q.method, q.path, q.body?⟩ := by
  cases q with
  | transactions address limit after => cases after <;> rfl
  | _ => rfl

/-- What it means for a question that a node knows nothing. -/
def unknown : Question α → Option α
  | .transactionInfo _ => some none
  | .transaction _ => some none
  | _ => none

/-- The body holds what the question needs, and this is the answer. -/
def Holds : Question α → Json → α → Prop
  | .broadcast _ => fun body id => body.get? "id" = some (.string id)
  | .transactionInfo _ => fun body known => known = some body
  | .transaction _ => fun body known => ∃ tx, Transaction.ofJson body = .ok tx ∧ known = some tx
  | .balance _ => fun body amount => body.get? "balance" = some (.natural amount.toNat)
  | .height => fun body number => body.get? "height" = some (.natural number.toNat)
  | .lastBlock | .blockAt _ | .transactions _ _ _ | .leaseList _ | .sponsorshipList _
  | .associationList _ => fun body document => document = body
  | .compileScript _ => fun body script => ∃ text, body.get? "script" = some (.string text) ∧
      Base64.Spells (Script.withoutMarker text) script

/-- The body lacks what the question needs, and this is the error. -/
def Lacks : Question α → Json → NodeError → Prop
  | .broadcast _ => fun body e => (∀ id, body.get? "id" ≠ some (.string id)) ∧
      e = .malformed "string field \"id\""
  | .transaction _ => fun body e => ∃ cause, Transaction.ofJson body = .error cause ∧
      e = .transaction cause
  | .balance _ => fun body e =>
      (∀ amount : UInt64, body.get? "balance" ≠ some (.natural amount.toNat)) ∧
        e = .malformed "integer field \"balance\""
  | .height => fun body e =>
      (∀ number : UInt64, body.get? "height" ≠ some (.natural number.toNat)) ∧
        e = .malformed "integer field \"height\""
  | .compileScript _ => fun body e =>
      (∀ text, body.get? "script" ≠ some (.string text)) ∧
          e = .malformed "string field \"script\"" ∨
        ∃ text cause, body.get? "script" = some (.string text) ∧
          Base64.decode (Script.withoutMarker text) = .error cause ∧
          e = .transaction (.decode (.base64 cause))
  | _ => fun _ _ => False

/-- A body holds what is needed or lacks it. -/
theorem holds_or_lacks (q : Question α) (body : Json) :
    (∃ answer, q.Holds body answer) ∨ ∃ e, q.Lacks body e := by
  have hfield {β : Type} (write : β → Json) (name : String) :
      (∃ a, body.get? name = some (write a)) ∨ ∀ a, body.get? name ≠ some (write a) := by
    rw [← not_exists]
    exact Classical.em _
  -- Both integer fields are written in this way.
  let number (n : UInt64) : Json := .natural n.toNat
  cases q with
  | broadcast => exact (hfield .string "id").imp_right fun hmissing => ⟨_, hmissing, rfl⟩
  | transactionInfo => exact .inl ⟨_, rfl⟩
  | transaction =>
    cases hread : Transaction.ofJson body with
    | ok tx => exact .inl ⟨_, tx, hread, rfl⟩
    | error cause => exact .inr ⟨_, cause, hread, rfl⟩
  | balance => exact (hfield number "balance").imp_right fun hmissing => ⟨_, hmissing, rfl⟩
  | height => exact (hfield number "height").imp_right fun hmissing => ⟨_, hmissing, rfl⟩
  | lastBlock | blockAt | transactions | leaseList | sponsorshipList | associationList =>
    exact .inl ⟨body, rfl⟩
  | compileScript =>
    -- The text may be missing, and it may be there and not be base64.
    rcases hfield .string "script" with ⟨text, htext⟩ | hmissing
    · cases hdecode : Base64.decode (Script.withoutMarker text) with
      | ok script => exact .inl ⟨script, text, htext, Base64.decode_eq_ok_iff_spells.mp hdecode⟩
      | error cause => exact .inr ⟨_, .inr ⟨text, cause, htext, hdecode, rfl⟩⟩
    · exact .inr ⟨_, .inl ⟨hmissing, rfl⟩⟩

/-- The errors of a body are not those of a connection or of a refusal. -/
theorem Lacks.malformed_or_transaction {q : Question α} {body : Json} {e : NodeError}
    (hlacks : q.Lacks body e) :
    (∃ missing, e = .malformed missing) ∨ ∃ cause, e = .transaction cause := by
  cases q with
  | broadcast | balance | height => exact .inl ⟨_, hlacks.2⟩
  | transaction =>
    obtain ⟨cause, -, rfl⟩ := hlacks
    exact .inr ⟨cause, rfl⟩
  | compileScript =>
    rcases hlacks with ⟨-, rfl⟩ | ⟨-, cause, -, -, rfl⟩
    · exact .inl ⟨_, rfl⟩
    · exact .inr ⟨_, rfl⟩
  | transactionInfo | lastBlock | blockAt | transactions | leaseList | sponsorshipList
  | associationList => exact hlacks.elim

end Question

/-! ## §4. Reading -/

section Reading

variable {reply : Reply} {body : Json} {name : String} {e : NodeError}

theorem readString_of_field {text : String} (hbody : readBody reply = .ok body)
    (hfield : body.get? name = some (.string text)) : readString name reply = .ok text := by
  have hbind := (Json.get?_bind_eq_some_iff Json.asString?_eq_some_iff).mpr hfield
  simp only [readString, hbody, ok_bind, hbind]

theorem readString_of_missing (hbody : readBody reply = .ok body)
    (hmissing : ∀ text, body.get? name ≠ some (.string text)) :
    readString name reply = .error (.malformed s!"string field \"{name}\"") := by
  have hnone := Json.get?_bind_eq_none Json.asString?_eq_some_iff hmissing
  simp only [readString, hbody, ok_bind, hnone]

theorem readUnsigned_of_field {n : UInt64} (hbody : readBody reply = .ok body)
    (hfield : body.get? name = some (.natural n.toNat)) : readUnsigned name reply = .ok n := by
  have hbind := (Json.get?_bind_eq_some_iff Json.asUnsigned?_eq_some_iff).mpr hfield
  simp only [readUnsigned, hbody, ok_bind, hbind]

theorem readUnsigned_of_missing (hbody : readBody reply = .ok body)
    (hmissing : ∀ n : UInt64, body.get? name ≠ some (.natural n.toNat)) :
    readUnsigned name reply = .error (.malformed s!"integer field \"{name}\"") := by
  have hnone := Json.get?_bind_eq_none Json.asUnsigned?_eq_some_iff hmissing
  simp only [readUnsigned, hbody, ok_bind, hnone]

theorem readTransaction_of_known (hknown : readKnown reply = .ok (some body)) :
    readTransaction reply =
      (NodeError.liftTransaction (Transaction.ofJson body) >>= fun tx => .ok (some tx)) := by
  rw [readTransaction, hknown, ok_bind]
  rfl

/-- The text is read here as it is read anywhere else. -/
theorem readScript_of_field {text : String} (hbody : readBody reply = .ok body)
    (hfield : body.get? "script" = some (.string text)) :
    readScript reply = NodeError.liftTransaction (Script.ofText text) := by
  rw [readScript, readString_of_field hbody hfield, ok_bind, Script.ofText]
  cases Base64.decode (Script.withoutMarker text) with
  | ok script => rfl
  | error cause => rfl

namespace Question

variable {α : Type} {q : Question α}

/-- Without a body there is no answer, unless the question takes this reply for one. -/
theorem read_of_error (hbody : readBody reply = .error e)
    (hknown : q.unknown = none ∨ readKnown reply = .error e) :
    q.query.read reply = .error e := by
  -- All questions but two start with the body, and these two look for "not known" first.
  cases q with
  | broadcast =>
    show readString "id" reply = .error e
    rw [readString, hbody, error_bind]
  | transactionInfo =>
    rcases hknown with hnone | hknown
    · cases hnone
    · exact hknown
  | transaction =>
    rcases hknown with hnone | hknown
    · cases hnone
    · show readTransaction reply = .error e
      rw [readTransaction, hknown, error_bind]
  | balance =>
    show readUnsigned "balance" reply = .error e
    rw [readUnsigned, hbody, error_bind]
  | height =>
    show readUnsigned "height" reply = .error e
    rw [readUnsigned, hbody, error_bind]
  | lastBlock | blockAt | transactions | leaseList | sponsorshipList | associationList =>
    exact hbody
  | compileScript =>
    show readScript reply = .error e
    rw [readScript, readString, hbody, error_bind, error_bind]

theorem read_of_holds {answer : α} (hbody : readBody reply = .ok body)
    (hknown : readKnown reply = .ok (some body)) (hholds : q.Holds body answer) :
    q.query.read reply = .ok answer := by
  cases q with
  | broadcast => exact readString_of_field hbody hholds
  | transactionInfo =>
    obtain rfl : answer = some body := hholds
    exact hknown
  | transaction =>
    obtain ⟨tx, hread, rfl⟩ := hholds
    show readTransaction reply = .ok (some tx)
    rw [readTransaction_of_known hknown, hread]
    rfl
  | balance => exact readUnsigned_of_field hbody hholds
  | height => exact readUnsigned_of_field hbody hholds
  | lastBlock | blockAt | transactions | leaseList | sponsorshipList | associationList =>
    obtain rfl : answer = body := hholds
    exact hbody
  | compileScript =>
    obtain ⟨text, htext, hspells⟩ := hholds
    show readScript reply = .ok answer
    rw [readScript_of_field hbody htext, Script.ofText, Base64.decode_eq_ok_iff_spells.mpr hspells]
    rfl

theorem read_of_lacks (hbody : readBody reply = .ok body)
    (hknown : readKnown reply = .ok (some body)) (hlacks : q.Lacks body e) :
    q.query.read reply = .error e := by
  cases q with
  | broadcast =>
    obtain ⟨hmissing, rfl⟩ := hlacks
    exact readString_of_missing hbody hmissing
  | transaction =>
    obtain ⟨cause, hread, rfl⟩ := hlacks
    show readTransaction reply = .error (.transaction cause)
    rw [readTransaction_of_known hknown, hread]
    rfl
  | balance | height =>
    obtain ⟨hmissing, rfl⟩ := hlacks
    exact readUnsigned_of_missing hbody hmissing
  | compileScript =>
    show readScript reply = .error e
    rcases hlacks with ⟨hmissing, rfl⟩ | ⟨text, cause, htext, hdecode, rfl⟩
    · rw [readScript, readString_of_missing hbody hmissing]
      rfl
    · rw [readScript_of_field hbody htext, Script.ofText, hdecode]
      rfl
  | transactionInfo | lastBlock | blockAt | transactions | leaseList | sponsorshipList
  | associationList => exact hlacks.elim

end Question

end Reading

/-! ## §5. Answers -/

/-- What a message from a node is understood as. -/
inductive Answers {α : Type} (q : Question α) : Http.Message → Except NodeError α → Prop where
  | failed (reason : String) : Answers q (.failed reason) (.error (.http reason))
  | unknown {answer : α} (text : String) (absent : q.unknown = some answer) :
      Answers q (.received 404 text) (.ok answer)
  | refused {status : Nat} {text message : String} (refuses : ¬ (200 ≤ status ∧ status ≤ 299))
      (known : status = 404 → q.unknown = none) (explains : Explains text message) :
      Answers q (.received status text) (.error (.status status message))
  | holds {status : Nat} {text : String} {body : Json} {answer : α}
      (success : 200 ≤ status ∧ status ≤ 299) (sent : Sent text body)
      (holds : q.Holds body answer) : Answers q (.received status text) (.ok answer)
  | lacks {status : Nat} {text : String} {body : Json} {e : NodeError}
      (success : 200 ≤ status ∧ status ≤ 299) (sent : Sent text body) (lacks : q.Lacks body e) :
      Answers q (.received status text) (.error e)

namespace Question

variable {α : Type} {q : Question α} {message : Http.Message} {result : Except NodeError α}

theorem read_of_answers (hanswers : Answers q message result) :
    q.query.read (Http.decode message) = result := by
  -- A success has a body, and is no reply of "not known".
  have hsuccess {status : Nat} {text : String} {body : Json}
      (hstatus : 200 ≤ status ∧ status ≤ 299) (hsent : Sent text body) :
      readBody (Http.decode (.received status text)) = .ok body ∧
        readKnown (Http.decode (.received status text)) = .ok (some body) := by
    have hknown : status ≠ 404 := by omega
    rw [Http.decode, sent_iff.mp hsent, readKnown_answered hknown, readBody,
      if_pos (isSuccess_iff.mpr hstatus), if_pos (isSuccess_iff.mpr hstatus)]
    exact ⟨rfl, rfl⟩
  cases hanswers with
  | failed reason => cases q <;> rfl
  | unknown text habsent => cases q <;> cases habsent <;> rfl
  | @refused status text explanation hrefuses hknown hexplains =>
    have hstatus : ¬ isSuccess status = true := fun h => hrefuses (isSuccess_iff.mp h)
    apply read_of_error
    · rw [Http.decode, readBody, if_neg hstatus, refusal_of_explains hexplains]
    · -- Only a status of 404 is looked at before the body is.
      by_cases hunknown : status = 404
      · exact .inl (hknown hunknown)
      · right
        rw [Http.decode, readKnown_answered hunknown, if_neg hstatus,
          refusal_of_explains hexplains]
  | holds hstatus hsent hholds =>
    obtain ⟨hbody, hknown⟩ := hsuccess hstatus hsent
    exact read_of_holds hbody hknown hholds
  | lacks hstatus hsent hlacks =>
    obtain ⟨hbody, hknown⟩ := hsuccess hstatus hsent
    exact read_of_lacks hbody hknown hlacks

/-- Whatever comes back is understood as something. -/
theorem exists_answers (q : Question α) (message : Http.Message) :
    ∃ result, Answers q message result := by
  cases message with
  | failed reason => exact ⟨_, .failed reason⟩
  | received status text =>
    by_cases hstatus : 200 ≤ status ∧ status ≤ 299
    · rcases q.holds_or_lacks (Http.decodeBody text) with ⟨answer, hholds⟩ | ⟨e, hlacks⟩
      · exact ⟨_, .holds hstatus (sent_iff.mpr rfl) hholds⟩
      · exact ⟨_, .lacks hstatus (sent_iff.mpr rfl) hlacks⟩
    · obtain ⟨explanation, hexplains⟩ := exists_explains text
      -- A refusal is an answer if it says "not known" to a question about a transaction.
      cases hunknown : q.unknown with
      | none => exact ⟨_, .refused hstatus (fun _ => hunknown) hexplains⟩
      | some answer =>
        by_cases hknown : status = 404
        · subst hknown
          exact ⟨_, .unknown text hunknown⟩
        · exact ⟨_, .refused hstatus (fun h => absurd h hknown) hexplains⟩

/-- **A message is understood as the table says and in no other way.** -/
theorem answers_iff : q.query.read (Http.decode message) = result ↔ Answers q message result := by
  constructor
  · rintro rfl
    -- The table has an entry for the message, so that entry is what is read.
    obtain ⟨result, hanswers⟩ := q.exists_answers message
    rwa [read_of_answers hanswers]
  · exact read_of_answers

/-- A connection fails exactly if it is said that it did. -/
theorem answers_http_iff {reason : String} :
    Answers q message (.error (.http reason)) ↔ message = .failed reason := by
  constructor
  · intro hanswers
    cases hanswers with
    | failed => rfl
    -- What a body lacks is not reported as a failed connection.
    | lacks _ _ hlacks => rcases hlacks.malformed_or_transaction with ⟨_, ⟨⟩⟩ | ⟨_, ⟨⟩⟩
  · rintro rfl
    exact .failed reason

/-- A refusal is reported exactly if the status is that of a refusal. -/
theorem answers_status_iff {status : Nat} {explanation : String} :
    Answers q message (.error (.status status explanation)) ↔
      ∃ text, message = .received status text ∧ ¬ (200 ≤ status ∧ status ≤ 299) ∧
        (status = 404 → q.unknown = none) ∧ Explains text explanation := by
  constructor
  · intro hanswers
    cases hanswers with
    | refused hrefuses hknown hexplains => exact ⟨_, rfl, hrefuses, hknown, hexplains⟩
    | lacks _ _ hlacks => rcases hlacks.malformed_or_transaction with ⟨_, ⟨⟩⟩ | ⟨_, ⟨⟩⟩
  · rintro ⟨text, rfl, hrefuses, hknown, hexplains⟩
    exact .refused hrefuses hknown hexplains

/-- There is an answer if nothing is known and that is one, or if a success holds it. -/
theorem answers_ok_iff {answer : α} :
    Answers q message (.ok answer) ↔
      (∃ text, message = .received 404 text ∧ q.unknown = some answer) ∨
        ∃ status text body, message = .received status text ∧ 200 ≤ status ∧ status ≤ 299 ∧
          Sent text body ∧ q.Holds body answer := by
  constructor
  · intro hanswers
    cases hanswers with
    | unknown text habsent => exact .inl ⟨text, rfl, habsent⟩
    | holds hstatus hsent hholds =>
      exact .inr ⟨_, _, _, rfl, hstatus.1, hstatus.2, hsent, hholds⟩
  · rintro (⟨text, rfl, habsent⟩ | ⟨status, text, body, rfl, hlow, hhigh, hsent, hholds⟩)
    · exact .unknown text habsent
    · exact .holds ⟨hlow, hhigh⟩ hsent hholds

/-- What is wrong with a success is wrong with its body. -/
theorem answers_error_iff {status : Nat} {text : String} {body : Json} {e : NodeError}
    (hstatus : 200 ≤ status ∧ status ≤ 299) (hsent : Sent text body) :
    Answers q (.received status text) (.error e) ↔ q.Lacks body e := by
  constructor
  · intro hanswers
    cases hanswers with
    | refused hrefuses => exact absurd hstatus hrefuses
    | lacks _ hother hlacks =>
      -- A text is taken for one body only.
      have hsame := (sent_iff.mp hother).symm.trans (sent_iff.mp hsent)
      rwa [hsame] at hlacks
  · intro hlacks
    exact .lacks hstatus hsent hlacks

end Question

/-- What comes of a question to the node at an address, if this message comes back. -/
structure Understood {α : Type} (q : Question α) (url : String) (message : Http.Message)
    (r : Exchange.Run (Except NodeError α)) : Prop where
  /-- One request is made, at the address without the slashes at its end. -/
  asked : ∃ base, NodeConfig.Trimmed url base ∧
    r.requests = [⟨q.method, base ++ q.path, q.body?⟩]
  /-- There is no other address of that kind. -/
  address : ∀ base, NodeConfig.Trimmed url base →
    r.requests = [⟨q.method, base ++ q.path, q.body?⟩]
  /-- The message is understood as the table says, and as nothing else. -/
  answered : ∀ result, r.value = result ↔ Answers q message result
  failed : ∀ reason, r.value = .error (.http reason) ↔ message = .failed reason
  refused : ∀ status explanation, r.value = .error (.status status explanation) ↔
    ∃ text, message = .received status text ∧ ¬ (200 ≤ status ∧ status ≤ 299) ∧
      (status = 404 → q.unknown = none) ∧ Explains text explanation
  /-- There is an answer only in a success that holds it, or if the node knows nothing and that is
  one. -/
  succeeded : ∀ answer, r.value = .ok answer ↔
    (∃ text, message = .received 404 text ∧ q.unknown = some answer) ∨
      ∃ status text body, message = .received status text ∧ 200 ≤ status ∧ status ≤ 299 ∧
        Sent text body ∧ q.Holds body answer
  /-- A success that does not hold it fails for what the body lacks. -/
  spoiled : ∀ status text body, message = .received status text → 200 ≤ status → status ≤ 299 →
    Sent text body → ∀ e, r.value = .error e ↔ q.Lacks body e

/-- **What a node replies is never taken for something else.** -/
theorem understood {α : Type} (q : Question α) (url : String) (message : Http.Message)
    (closing : Reply) (rest : List Reply) : Understood q url message
      ((Http.through (NodeConfig.ofUrl url).url q.query.exchange).run closing
        (Http.decode message :: rest)) := by
  obtain ⟨hrequests, hvalue⟩ :=
    q.query.run_through (NodeConfig.ofUrl url).url closing (Http.decode message :: rest)
  rw [List.headD_cons] at hvalue
  rw [Question.request_query] at hrequests
  have hasked : ((Http.through (NodeConfig.ofUrl url).url q.query.exchange).run closing
      (Http.decode message :: rest)).requests =
        [⟨q.method, NodeConfig.withoutSlashes url ++ q.path, q.body?⟩] := hrequests
  constructor
  case asked => exact ⟨_, NodeConfig.trimmed_withoutSlashes url, hasked⟩
  case address =>
    intro base hbase
    rw [← NodeConfig.withoutSlashes_eq_iff.mpr hbase]
    exact hasked
  case answered =>
    intro result
    rw [hvalue, Question.answers_iff]
  case failed =>
    intro reason
    rw [hvalue, Question.answers_iff, Question.answers_http_iff]
  case refused =>
    intro status explanation
    rw [hvalue, Question.answers_iff, Question.answers_status_iff]
  case succeeded =>
    intro answer
    rw [hvalue, Question.answers_iff, Question.answers_ok_iff]
  case spoiled =>
    rintro status text body rfl hlow hhigh hsent e
    rw [hvalue, Question.answers_iff, Question.answers_error_iff ⟨hlow, hhigh⟩ hsent]

end Node

end Wallet
