import Wallet.Command.Program
import Wallet.Proofs.Command.Task
import Wallet.Proofs.Transaction.Runs
import Wallet.Proofs.Transaction.Text

/-!
# Submitting transactions

Three commands make a transaction, sign it and deliver it. `Prepared` says which transaction a
command line asks for, in terms of making, signing and sponsoring alone. Everything up to delivery
asks nothing and gives just that transaction (`gives_ready`), so that a failure on the way leaves
no trace on the network; delivery posts its document once and then at most asks about the id that
came back (`Delivers`).

What is posted can be taken back: the text is read as the transaction that was prepared, whose
parties, fee and version are those that were asked for (`Faithful`).
-/

namespace Wallet.Command

/-! ## §1. What a command line asks for -/

/-- The node to talk to: the one that was named, or the public one of the chain. -/
def Settings.node? (settings : Settings) : Option NodeConfig :=
  match settings.nodeUrl with
  | some url => some (.ofUrl url)
  | none => NodeConfig.ofChain? settings.chainId

/-- The account that signs on a chain. -/
def SignerArguments.account (signer : SignerArguments) (profile : Profile) : Account :=
  (profile.withKeyType signer.keyType).fromPhrase signer.seed signer.nonce

/-- Who signs and what becomes of the transaction, for the commands that make one. -/
def Action.submission? : Action → Option (SignerArguments × SubmitArguments)
  | .anchor _ signer arguments => some (signer, arguments)
  | .transfer _ _ _ signer arguments => some (signer, arguments)
  | .lease _ _ signer arguments => some (signer, arguments)
  | _ => none

/-- The body that a command asks for. -/
inductive Asks (around : Surroundings) : Action → Body → Prop where
  | anchorHash {text : String} {hash : Bytes} {signer : SignerArguments}
      {arguments : SubmitArguments} :
      Hex.decode (String.ofList (Session.withoutHexMarker text.toList)) = .ok hash →
        Asks around (.anchor (.hash text) signer arguments) (.anchor hash)
  | anchorFile {path : String} {content : Bytes} {signer : SignerArguments}
      {arguments : SubmitArguments} :
      around.readFile path = .ok content →
        Asks around (.anchor (.file path) signer arguments) (.anchor (Hash.sha256 content).list)
  | transfer {text attachment : String} {recipient : Address} {amount : Int64} {body : Body}
      {signer : SignerArguments} {arguments : SubmitArguments} :
      Address.ofText text = .ok recipient →
        Body.newTransfer recipient amount (Bytes.ofText attachment) = .ok body →
          Asks around (.transfer text amount attachment signer arguments) body
  | lease {text : String} {recipient : Address} {amount : Int64} {body : Body}
      {signer : SignerArguments} {arguments : SubmitArguments} :
      Address.ofText text = .ok recipient → Body.newLease recipient amount = .ok body →
        Asks around (.lease text amount signer arguments) body

/-- The version that a number asks for, if there is a number. -/
def Requested : Option UInt8 → Option Version → Prop
  | some number, version => ∃ v, Version.ofNumber? number = some v ∧ version = some v
  | none, version => version = none

/-- What the arguments say about a sponsor has been done. -/
def Sponsored (profile : Profile) : Option String → (signed tx : Transaction) → Prop
  | some seed, signed, tx => signed.sponsor (profile.fromPhrase seed 0) = .ok tx
  | none, signed, tx => tx = signed

/-- The transaction that a command asks for: made, signed and perhaps sponsored. -/
structure PreparedOn (around : Surroundings) (profile : Profile) (body : Body)
    (signer : SignerArguments) (arguments : SubmitArguments) (tx : Transaction) : Prop where
  signed : ∃ version draft signed, Requested arguments.version version ∧
    Transaction.create body ⟨version, arguments.fee, none⟩ = .ok draft ∧
    draft.sign (signer.account profile) around.now = .ok signed ∧
    Sponsored profile arguments.sponsorSeed signed tx

/-- The transaction that a command asks for on the chain of its settings. -/
def Prepared (around : Surroundings) (settings : Settings) (action : Action)
    (signer : SignerArguments) (arguments : SubmitArguments) (tx : Transaction) : Prop :=
  ∃ profile body, Profile.ofChain settings.chainId = .ok profile ∧ Asks around action body ∧
    PreparedOn around profile body signer arguments tx

/-! ## §2. Everything up to delivery -/

/-- The body that a command asks for, or why there is none. -/
def requestedBody (around : Surroundings) : Action → Task Body
  | .anchor source _ _ => do return .anchor (← Session.anchorBytes around source)
  | .transfer address amount attachment _ _ => do
    let recipient ← Session.recipient address
    Task.expect "invalid transfer" TransactionError.message
      (Body.newTransfer recipient amount (Bytes.ofText attachment))
  | .lease address amount _ _ => do
    let recipient ← Session.recipient address
    Task.expect "invalid lease" TransactionError.message (Body.newLease recipient amount)
  | _ => Task.fail ""

/-- What a command does before it delivers a transaction. -/
def ready (around : Surroundings) (settings : Settings) (action : Action)
    (signer : SignerArguments) (arguments : SubmitArguments) : Task (Session × Transaction) := do
  Task.report [.initialized settings.logFormat, .starting settings.chainId]
  let session ← Session.start settings
  let body ← requestedBody around action
  let tx ← session.prepare around body signer arguments
  return (session, tx)

/-- Running such a command is getting ready and then delivering. -/
theorem perform_eq {around : Surroundings} {settings : Settings} {action : Action}
    {signer : SignerArguments} {arguments : SubmitArguments}
    (hsubmits : action.submission? = some (signer, arguments)) :
    perform around settings action = ready around settings action signer arguments >>= fun p =>
      p.1.deliver p.2.toJson arguments.delivery := by
  cases action <;> cases hsubmits <;>
    simp only [perform, ready, Session.run, requestedBody, Session.submit, bind_assoc, pure_bind]

/-- A session is on the chain of its settings and talks to the node that they lead to. -/
theorem gives_start (settings : Settings) :
    Task.Gives (Session.start settings) fun session =>
      Profile.ofChain settings.chainId = .ok session.profile ∧ session.node? = settings.node? := by
  have hnode : Task.Gives (Session.start settings) fun session => ∃ profile,
      Profile.ofChain settings.chainId = .ok profile ∧ session = ⟨profile, settings.node?⟩ := by
    refine (Task.gives_expect _ _ _).bind fun profile _ => ?_
    rw [Settings.node?]
    cases settings.nodeUrl with
    | none => exact Task.gives_pure _
    | some url => exact Task.gives_pure _
  refine hnode.congr fun session => ?_
  constructor
  · rintro ⟨profile, hprofile, rfl⟩
    exact ⟨hprofile, rfl⟩
  · rintro ⟨hprofile, hnode⟩
    exact ⟨session.profile, hprofile, by rw [← hnode]⟩

theorem gives_introduce (account : Account) :
    Task.Gives (Session.introduce account) (· = account) :=
  ((Task.gives_report _).bind fun _ _ => Task.gives_pure account).congr fun a => by simp

theorem gives_requestedVersion (number : Option UInt8) :
    Task.Gives (Session.requestedVersion number) (Requested number) := by
  cases number with
  | none => exact Task.gives_pure none
  | some number => exact (Task.gives_demand _ _).bind fun v _ => Task.gives_pure (some v)

theorem gives_build (body : Body) (options : Options) :
    Task.Gives (Session.build body options) fun tx => Transaction.create body options = .ok tx := by
  unfold Session.build
  split
  · next tx htx => exact (Task.gives_pure tx).congr fun a => by simp [htx, eq_comm]
  · next e he => exact (Task.gives_fail _).congr fun a => by simp [he]

theorem gives_sign (around : Surroundings) (tx : Transaction) (account : Account) :
    Task.Gives (Session.sign around tx account) fun signed =>
      tx.sign account around.now = .ok signed := by
  refine ((Task.gives_expect _ _ _).bind fun signed _ =>
    (Task.gives_report _).bind fun _ _ => Task.gives_pure signed).congr fun a => ?_
  simp

theorem gives_sponsor (session : Session) (tx : Transaction) (seed : String) :
    Task.Gives (session.sponsor tx seed) fun sponsored =>
      tx.sponsor (session.profile.fromPhrase seed 0) = .ok sponsored := by
  refine ((gives_introduce _).bind fun account _ => (Task.gives_expect _ _ _).bind fun tx' _ =>
    (Task.gives_report _).bind fun _ _ => Task.gives_pure tx').congr fun a => ?_
  simp

theorem gives_prepare (session : Session) (around : Surroundings) (body : Body)
    (signer : SignerArguments) (arguments : SubmitArguments) :
    Task.Gives (session.prepare around body signer arguments)
      (PreparedOn around session.profile body signer arguments) := by
  have hsponsored (signed : Transaction) :
      Task.Gives (match arguments.sponsorSeed with
        | some seed => session.sponsor signed seed
        | none => return signed) (Sponsored session.profile arguments.sponsorSeed signed) := by
    cases arguments.sponsorSeed with
    | none => exact Task.gives_pure signed
    | some seed => exact gives_sponsor session signed seed
  refine ((gives_requestedVersion _).bind fun version _ => (gives_introduce _).bind fun sender _ =>
    (gives_build body ⟨version, arguments.fee, none⟩).bind fun draft _ =>
      (gives_sign around draft sender).bind fun signed _ => hsponsored signed).congr fun tx => ?_
  constructor
  · rintro ⟨version, hversion, sender, rfl, draft, hdraft, signed, hsigned, htx⟩
    exact ⟨version, draft, signed, hversion, hdraft, hsigned, htx⟩
  · rintro ⟨version, draft, signed, hversion, hdraft, hsigned, htx⟩
    exact ⟨version, hversion, _, rfl, draft, hdraft, signed, hsigned, htx⟩

theorem gives_readFile (around : Surroundings) (path : String) :
    Task.Gives (Session.readFile around path) fun content => around.readFile path = .ok content :=
  Task.gives_expect _ _ _

theorem gives_requestedBody (around : Surroundings) (action : Action) :
    Task.Gives (requestedBody around action) (Asks around action) := by
  cases action with
  | anchor source signer arguments =>
    cases source with
    | hash text =>
      refine ((Task.gives_expect _ _ _).bind fun hash _ =>
        Task.gives_pure (Body.anchor hash)).congr fun body => ?_
      constructor
      · rintro ⟨hash, hhash, rfl⟩
        exact .anchorHash hhash
      · rintro (⟨hhash⟩)
        exact ⟨_, hhash, rfl⟩
    | file path =>
      refine (((gives_readFile around path).bind fun content _ =>
        Task.gives_pure (Hash.sha256 content).list).bind fun hash _ =>
          Task.gives_pure (Body.anchor hash)).congr fun body => ?_
      constructor
      · rintro ⟨_, ⟨content, hcontent, rfl⟩, rfl⟩
        exact .anchorFile hcontent
      · rintro (_ | ⟨hcontent⟩)
        exact ⟨_, ⟨_, hcontent, rfl⟩, rfl⟩
  | transfer address amount attachment signer arguments =>
    refine ((Task.gives_expect _ _ _).bind fun recipient _ =>
      Task.gives_expect _ _ _).congr fun body => ?_
    constructor
    · rintro ⟨recipient, hrecipient, hbody⟩
      exact .transfer hrecipient hbody
    · rintro (_ | _ | ⟨hrecipient, hbody⟩)
      exact ⟨_, hrecipient, hbody⟩
  | lease address amount signer arguments =>
    refine ((Task.gives_expect _ _ _).bind fun recipient _ =>
      Task.gives_expect _ _ _).congr fun body => ?_
    constructor
    · rintro ⟨recipient, hrecipient, hbody⟩
      exact .lease hrecipient hbody
    · rintro (_ | _ | _ | ⟨hrecipient, hbody⟩)
      exact ⟨_, hrecipient, hbody⟩
  | _ => exact (Task.gives_fail _).congr fun body => ⟨False.elim, nofun⟩

/-- **Getting ready gives the transaction that was asked for and asks nothing.** -/
theorem gives_ready (around : Surroundings) (settings : Settings) (action : Action)
    (signer : SignerArguments) (arguments : SubmitArguments) :
    Task.Gives (ready around settings action signer arguments) fun p =>
      Profile.ofChain settings.chainId = .ok p.1.profile ∧ p.1.node? = settings.node? ∧
        ∃ body, Asks around action body ∧
          PreparedOn around p.1.profile body signer arguments p.2 := by
  refine ((Task.gives_report _).bind fun _ _ => (gives_start settings).bind fun session _ =>
    (gives_requestedBody around action).bind fun body _ =>
      (gives_prepare session around body signer arguments).bind fun tx _ =>
        Task.gives_pure (session, tx)).congr fun p => ?_
  constructor
  · rintro ⟨-, -, session, ⟨hprofile, hnode⟩, body, hbody, tx, htx, rfl⟩
    exact ⟨hprofile, hnode, body, hbody, htx⟩
  · rintro ⟨hprofile, hnode, body, hbody, htx⟩
    exact ⟨(), trivial, p.1, ⟨hprofile, hnode⟩, body, hbody, p.2, htx, rfl⟩

/-! ## §3. Delivery -/

/-- The one request that delivers a document. -/
def posting (config : NodeConfig) (document : Json) : Request :=
  .post (config.url ++ "/transactions/broadcast") document.compact

/-- A question about a transaction. -/
def asking (config : NodeConfig) (id : String) : Request :=
  .get (config.url ++ "/transactions/info/" ++ id)

/-- What is sent to deliver a document: it is posted once, and if that is to be confirmed, the
node is asked about the id that it gave and about nothing else. -/
def Delivers (config : NodeConfig) (document : Json) (delivery : Delivery) (first : Reply)
    (requests : List Request) : Prop :=
  ∃ later, requests = posting config document :: later ∧
    ∀ request ∈ later, delivery = .confirm ∧
      ∃ id, Node.readString "id" first = .ok id ∧ request = asking config id

theorem located_transactionInfo (config : NodeConfig) (id : String) :
    Http.located config.url (Node.transactionInfo id).request = asking config id := by
  rw [asking, String.append_assoc]
  rfl

section Deliver

variable {session : Session} (document : Json) (closing : Reply) (replies : List Reply)

/-- Posting a document is one request, and what comes of it is the id in the reply. -/
theorem runOn_broadcast (config : NodeConfig) :
    let t := Task.ask config "broadcast failed" (Node.broadcast document).exchange
    (t.runOn closing replies).requests = [posting config document] ∧
      (t.runOn closing replies).value =
        (Node.readString "id" (replies.headD closing)).mapError fun e =>
          ⟨"broadcast failed", some e.message⟩ := by
  obtain ⟨hrequests, hvalue, -⟩ := Task.runOn_ask config "broadcast failed"
    (Node.broadcast document).exchange closing replies
  obtain ⟨hquestion, hanswer, -⟩ := (Node.broadcast document).run_exchange closing replies
  rw [hquestion] at hrequests
  rw [hanswer] at hvalue
  exact ⟨hrequests, hvalue⟩

/-- Waiting asks about the transaction that was posted. -/
theorem requests_wait (config : NodeConfig) (id doing : String) :
    ∀ request ∈ ((Task.ask config doing (Node.wait config id)).runOn closing replies).requests,
      request = asking config id := by
  obtain ⟨hrequests, -⟩ := Task.runOn_ask config doing (Node.wait config id) closing replies
  intro request hrequest
  rw [hrequests] at hrequest
  obtain ⟨question, hquestion, rfl⟩ := List.mem_map.mp hrequest
  rw [Node.requests_wait config id closing replies question hquestion,
    located_transactionInfo]

/-- Without a node nothing is sent. -/
theorem requests_deliver_of_none (hnode : session.node? = none) (delivery : Delivery) :
    ((session.deliver document delivery).runOn closing replies).requests = [] := by
  cases delivery with
  | print => rfl
  | broadcast =>
    rw [Session.deliver, Session.query, Session.node, hnode]
    rfl
  | confirm =>
    rw [Session.deliver, Session.node, hnode]
    rfl

/-- With a node the document is posted first. -/
theorem delivers_deliver {config : NodeConfig} (hnode : session.node? = some config)
    {delivery : Delivery} (hdelivery : delivery ≠ .print) :
    Delivers config document delivery (replies.headD closing)
      ((session.deliver document delivery).runOn closing replies).requests := by
  obtain ⟨hrequests, hvalue⟩ := runOn_broadcast document closing replies config
  cases delivery with
  | print => exact absurd rfl hdelivery
  | broadcast =>
    have hquery : session.query "broadcast failed" (Node.broadcast document) =
        Task.ask config "broadcast failed" (Node.broadcast document).exchange := by
      rw [Session.query, Session.node, hnode]
      rfl
    refine ⟨[], ?_, by simp⟩
    rw [Session.deliver, hquery, Task.requests_bind_pure, hrequests]
  | confirm =>
    have hconfirm : session.deliver document .confirm =
        Task.ask config "broadcast failed" (Node.broadcast document).exchange >>= fun id =>
          Task.ask config s!"transaction {id} was broadcast but not confirmed"
            (Node.wait config id) := by
      rw [Session.deliver, Session.node, hnode]
      rfl
    rw [hconfirm]
    cases hid : Node.readString "id" (replies.headD closing) with
    | error e =>
      -- Nothing was posted that could be waited for.
      rw [hid] at hvalue
      refine ⟨[], ?_, by simp⟩
      rw [Task.requests_bind_of_error hvalue, hrequests]
    | ok id =>
      rw [hid] at hvalue
      rw [Task.runOn_bind_of_ok hvalue]
      -- Whatever is asked behind the posting is asked about the id in the first reply.
      refine ⟨_, congrArg (· ++ _) hrequests, ?_⟩
      intro request hrequest
      exact ⟨rfl, id, hid, requests_wait closing _ config id _ request hrequest⟩

end Deliver

/-! ## §4. What was prepared -/

/-- Bodies come about in one of the ways that all bodies do. -/
theorem Asks.made {around : Surroundings} {action : Action} {body : Body}
    (hasks : Asks around action body) : body.Made := by
  cases hasks with
  | anchorHash hhash => exact .anchor _
  | anchorFile hcontent => exact .anchor _
  | transfer hrecipient hbody => exact .transfer hbody
  | lease hrecipient hbody => exact .lease hbody

/-- No command makes a mass transfer, whose fee is computed. -/
theorem Asks.kind_ne {around : Surroundings} {action : Action} {body : Body}
    (hasks : Asks around action body) : body.kind ≠ .massTransfer := by
  cases hasks with
  | anchorHash hhash => nofun
  | anchorFile hcontent => nofun
  | transfer hrecipient hbody =>
    rw [(Body.newTransfer_eq_ok hbody).1]
    nofun
  | lease hrecipient hbody =>
    rw [(Body.newLease_eq_ok hbody).1]
    nofun

/-- The version that is used is the one of the number, or the default of the kind. -/
theorem Requested.number {number : Option UInt8} {version : Option Version} {kind : Kind}
    {resolved : Version} (hrequested : Requested number version)
    (hresolved : Options.resolveVersion version kind = .ok resolved) :
    resolved.number = number.getD kind.defaultVersion.number := by
  cases number with
  | none =>
    obtain rfl : version = none := hrequested
    cases hresolved
    rfl
  | some number =>
    obtain ⟨v, hv, rfl⟩ := hrequested
    have hnumber : v.number = number := by simpa using List.find?_some hv
    simp only [Options.resolveVersion] at hresolved
    split at hresolved
    · cases hresolved
      exact hnumber
    · cases hresolved

/-- A transaction that its sender has signed, and after it perhaps a sponsor, over one message. -/
inductive SignedBy (sender : Account) (message : Bytes) : Option Account → Transaction → Prop where
  | alone {tx : Transaction} {proof : Signature} (encode : tx.encode = .ok message)
      (sign : sender.sign message = .ok proof)
      (signing : tx.signing = .signed sender.signer proof []) : SignedBy sender message none tx
  | sponsored {tx : Transaction} {proof sponsorProof : Signature} {sponsor : Account}
      (encode : tx.encode = .ok message) (sign : sender.sign message = .ok proof)
      (sponsors : sponsor.sign message = .ok sponsorProof)
      (signing : tx.signing =
        .sponsored sender.signer proof [] sponsor.signer sponsorProof) :
      SignedBy sender message (some sponsor) tx

section SignedBy

variable {sender : Account} {sponsor? : Option Account} {message : Bytes} {tx : Transaction}

theorem signedBy_of_sign {draft : Transaction} {now : UInt64}
    (hunsigned : draft.signing = .unsigned) (hsign : draft.sign sender now = .ok tx) :
    ∃ message, SignedBy sender message none tx := by
  obtain ⟨message, proof, hencode, hproof, rfl⟩ := Transaction.encode_of_first hunsigned hsign
  exact ⟨message, .alone hencode hproof rfl⟩

/-- A sponsor signs the same bytes. -/
theorem SignedBy.sponsor {signed : Transaction} {sponsor : Account}
    (hsigned : SignedBy sender message none signed) (hsponsor : signed.sponsor sponsor = .ok tx) :
    SignedBy sender message (some sponsor) tx := by
  cases hsigned with
  | @alone _ proof hencode hproof hsigning =>
    cases Transaction.sponsor_eq_ok hsponsor with
    | @sponsor _ pair _ _ _ _ hsigned hpair hmessage =>
      -- What the sponsor signs is what the sender has signed.
      obtain ⟨rfl, rfl, rfl⟩ := Signing.signed.inj (hsigning.symm.trans hsigned)
      obtain rfl := Except.ok.inj (hencode.symm.trans hmessage)
      have hsender := Transaction.sender?_of_signed hsigning
      have hsponsorProof : sponsor.sign message = .ok (pair.sign message) :=
        Transaction.account_sign_eq_ok.mpr ⟨pair, hpair, rfl⟩
      refine .sponsored ?_ hproof hsponsorProof rfl
      have hsame : (Signing.sponsored sender.signer proof [] sponsor.signer
          (pair.sign message)).sender? = signed.sender? := hsender.symm
      exact (Transaction.encode_eq_of_sender_eq hsame).trans hencode

theorem SignedBy.signing_name (hsigned : SignedBy sender message sponsor? tx) :
    tx.signing.name = if sponsor?.isSome then "FullySigned" else "SenderSigned" := by
  cases hsigned with
  | alone hencode hproof hsigning =>
    rw [hsigning]
    rfl
  | sponsored hencode hproof hsponsor hsigning =>
    rw [hsigning]
    rfl

theorem SignedBy.parties (hsigned : SignedBy sender message sponsor? tx) :
    tx.sender? = some sender.signer ∧ tx.sponsor? = sponsor?.map Account.signer := by
  cases hsigned with
  | alone hencode hproof hsigning =>
    rw [Transaction.sender?, Transaction.sponsor?, hsigning]
    exact ⟨rfl, rfl⟩
  | sponsored hencode hproof hsponsor hsigning =>
    rw [Transaction.sender?, Transaction.sponsor?, hsigning]
    exact ⟨rfl, rfl⟩

theorem SignedBy.encode_eq (hsigned : SignedBy sender message sponsor? tx) :
    tx.encode = .ok message := by
  cases hsigned with
  | alone hencode => exact hencode
  | sponsored hencode => exact hencode

/-- What they have signed verifies, if their key pairs verify what they sign. -/
theorem SignedBy.verify (hsigned : SignedBy sender message sponsor? tx)
    (hscheme : ∀ a, a = sender ∨ sponsor? = some a → a.Verifies message) :
    tx.verify = .ok true := by
  have hsender := hscheme sender (.inl rfl)
  cases hsigned with
  | alone hencode hproof hsigning =>
    exact (Transaction.verify_of_signed hsigning hencode hproof hsender).2
  | @sponsored _ _ _ sponsor hencode hproof hsponsorProof hsigning =>
    have hsponsor := hscheme sponsor (.inr rfl)
    exact (Transaction.verify_of_sponsored hsigning hencode hproof hsponsorProof hsender
      hsponsor).2

end SignedBy

/-- The account that sponsors on a chain, if there is to be one. -/
def SubmitArguments.sponsor? (arguments : SubmitArguments) (profile : Profile) : Option Account :=
  arguments.sponsorSeed.map fun seed => profile.fromPhrase seed 0

section Prepared

variable {around : Surroundings} {profile : Profile} {body : Body} {signer : SignerArguments}
  {arguments : SubmitArguments} {tx : Transaction}
  (hprepared : PreparedOn around profile body signer arguments tx)

include hprepared

/-- What was prepared is signed by the account of the arguments, and by the sponsor if there is one.
-/
theorem PreparedOn.signedBy : ∃ message,
    SignedBy (signer.account profile) message (arguments.sponsor? profile) tx := by
  obtain ⟨version, draft, signed, -, hcreate, hsign, hsponsored⟩ := hprepared.signed
  obtain ⟨-, -, hunsigned, -⟩ := Transaction.create_eq_ok hcreate
  obtain ⟨message, hsigned⟩ := signedBy_of_sign hunsigned hsign
  refine ⟨message, ?_⟩
  rw [SubmitArguments.sponsor?]
  cases hseed : arguments.sponsorSeed with
  | none =>
    rw [hseed] at hsponsored
    obtain rfl : tx = signed := hsponsored
    exact hsigned
  | some seed =>
    rw [hseed] at hsponsored
    exact hsigned.sponsor hsponsored

/-- What was made of the arguments is what was signed. -/
theorem PreparedOn.made : ∃ version draft, Requested arguments.version version ∧
    Transaction.create body ⟨version, arguments.fee, none⟩ = .ok draft ∧
    ∃ acts, draft.run acts = .ok tx := by
  obtain ⟨version, draft, signed, hversion, hcreate, hsign, hsponsored⟩ := hprepared.signed
  refine ⟨version, draft, hversion, hcreate, ?_⟩
  have hact : draft.act (.sign (signer.account profile) around.now) = .ok signed := hsign
  cases hseed : arguments.sponsorSeed with
  | none =>
    rw [hseed] at hsponsored
    obtain rfl : tx = signed := hsponsored
    exact ⟨[.sign (signer.account profile) around.now], by
      rw [Transaction.run_cons, hact]
      rfl⟩
  | some seed =>
    rw [hseed] at hsponsored
    have hlast : signed.act (.sponsor (profile.fromPhrase seed 0)) = .ok tx := hsponsored
    exact ⟨[.sign (signer.account profile) around.now, .sponsor (profile.fromPhrase seed 0)], by
      rw [Transaction.run_cons, hact, ok_bind, Transaction.run_cons, hlast]
      rfl⟩

end Prepared

/-- An account that has a part in a transaction, as the one that signs or the one that sponsors. -/
def Party (profile : Profile) (signer : SignerArguments) (arguments : SubmitArguments)
    (a : Account) : Prop :=
  a = signer.account profile ∨ arguments.sponsor? profile = some a

/-- What is sent or shown, taken back: the transaction that the arguments ask for, on the chain of
a profile. For the proofs it is assumed of the schemes that the key pairs of the parties verify what
they sign. -/
structure Faithful (profile : Profile) (signer : SignerArguments) (arguments : SubmitArguments)
    (tx : Transaction) : Prop where
  /-- The text that is posted is read as the transaction, and so is the text that is shown. -/
  read : Transaction.ofText tx.toJson.compact = .ok tx ∧
    Transaction.ofText (tx.toJson.pretty ++ "\n") = .ok tx
  signing : tx.signing.name =
    if arguments.sponsorSeed.isSome then "FullySigned" else "SenderSigned"
  sender : tx.sender? = some (signer.account profile).signer
  sponsor : tx.sponsor? = (arguments.sponsor? profile).map Account.signer
  version : tx.version.number = arguments.version.getD tx.kind.defaultVersion.number
  fee : tx.fee = arguments.fee.getD tx.kind.defaultFee
  verify : ∀ message, tx.encode = .ok message →
    (∀ a, Party profile signer arguments a → a.Verifies message) → tx.verify = .ok true

/-- What was prepared is what was asked for, and it can be taken back. -/
theorem PreparedOn.faithful {around : Surroundings} {profile : Profile} {action : Action}
    {body : Body} {signer : SignerArguments} {arguments : SubmitArguments} {tx : Transaction}
    (hprepared : PreparedOn around profile body signer arguments tx)
    (hasks : Asks around action body) : tx.body = body ∧ Faithful profile signer arguments tx := by
  obtain ⟨version, draft, hversion, hcreate, acts, hrun⟩ := hprepared.made
  obtain ⟨message, hsigned⟩ := hprepared.signedBy
  obtain ⟨hresolved, hfee⟩ := Transaction.create_resolves hcreate
  obtain ⟨hdraft, -⟩ := Transaction.create_eq_ok hcreate
  obtain ⟨hbody, hversionEq, hfeeEq⟩ := Transaction.run_keeps hrun
  obtain ⟨hsender, hsponsor⟩ := hsigned.parties
  have hkind : tx.kind = body.kind := by rw [Transaction.kind, hbody, hdraft]
  refine ⟨hbody.trans hdraft, ?_⟩
  constructor
  case read =>
    -- It was made and signed here, so it is reachable and read back from its document.
    have hreach : tx.Reachable :=
      (Transaction.Reachable.create hasks.made hcreate).run hrun
    exact Transaction.ofText_of_ofJson (Transaction.ofJson_eq_ok_iff.mpr
      ⟨_, Json.asObject?_ofFields _, hreach.read_fields⟩)
  case signing => simpa [SubmitArguments.sponsor?] using hsigned.signing_name
  case sender => exact hsender
  case sponsor => exact hsponsor
  case version => rw [hversionEq, hkind, hversion.number hresolved]
  case fee =>
    rw [hfeeEq, hkind]
    exact (Except.ok.inj ((Body.fee_of_kind_ne hasks.kind_ne arguments.fee).symm.trans hfee)).symm
  case verify =>
    intro message' hmessage hscheme
    obtain rfl := Except.ok.inj (hsigned.encode_eq.symm.trans hmessage)
    exact hsigned.verify hscheme

/-! ## §5. The whole run -/

/-- The requests of a command line are those of its command, and so is the ending. -/
theorem run_program (around : Surroundings) {env : Environment} {words : List String}
    {settings : Settings} {action : Action} (hintent : readIntent env words = .run settings action)
    (closing : Reply) (replies : List Reply) :
    ((program around env words).exchange.run closing replies).requests =
        ((perform around settings action).runOn closing replies).requests ∧
      ((program around env words).exchange.run closing replies).value =
        conclude ((perform around settings action).runOn closing replies).value := by
  have hexchange : (program around env words).exchange =
      (ExceptT.run (perform around settings action) >>= fun result => pure (conclude result)) := by
    rw [program, hintent]
  rw [hexchange, Exchange.run_bind]
  exact ⟨List.append_nil _, rfl⟩

/-- **Submitting is safe from end to end.** Nothing is sent unless the transaction is ready, is to
be sent, and there is a node; otherwise it is posted once and at most asked for afterwards. What
is posted or shown is read as the transaction that the command line asks for (`Faithful`). -/
theorem run_submission {around : Surroundings} {env : Environment} {words : List String}
    {settings : Settings} {action : Action} {signer : SignerArguments}
    {arguments : SubmitArguments} (hintent : readIntent env words = .run settings action)
    (hsubmits : action.submission? = some (signer, arguments))
    (closing : Reply) (replies : List Reply) :
    let r := (program around env words).exchange.run closing replies
    ((∀ tx, ¬ Prepared around settings action signer arguments tx) ∨
        arguments.delivery = .print ∨ settings.node? = none → r.requests = []) ∧
      ∀ tx, Prepared around settings action signer arguments tx →
        (∃ profile, Profile.ofChain settings.chainId = .ok profile ∧
          Asks around action tx.body ∧ Faithful profile signer arguments tx) ∧
        (arguments.delivery = .print → r.value = ⟨0, tx.toJson.pretty ++ "\n", ""⟩) ∧
        ∀ config, settings.node? = some config → arguments.delivery ≠ .print →
          Delivers config tx.toJson arguments.delivery (replies.headD closing) r.requests := by
  intro r
  obtain ⟨hrequests, hvalue⟩ := run_program around hintent closing replies
  rw [perform_eq hsubmits] at hrequests hvalue
  -- Either there is just one thing to deliver, or getting ready fails.
  rcases (gives_ready around settings action signer arguments).run_bind
    (fun p => p.1.deliver p.2.toJson arguments.delivery) closing replies with
    ⟨⟨session, tx⟩, hready, hrun, hend⟩ | ⟨hnone, hrun⟩
  · obtain ⟨hprofile, hnode, body, hasks, hprepared⟩ := (hready (session, tx)).mpr rfl
    rw [hrun] at hrequests
    rw [hend] at hvalue
    constructor
    · -- It is ready, so it is kept back only on request or for want of a node.
      rintro (hnot | hprint | hnoNode)
      · exact absurd ⟨session.profile, body, hprofile, hasks, hprepared⟩ (hnot tx)
      · rw [show r.requests = _ from hrequests, hprint]
        rfl
      · exact hrequests.trans
          (requests_deliver_of_none _ closing replies (hnode.trans hnoNode) arguments.delivery)
    · rintro tx' ⟨profile, body', hprofile', hasks', hprepared'⟩
      -- What is asked for is what was made ready.
      obtain ⟨rfl, rfl⟩ := Prod.mk.inj ((hready (⟨profile, settings.node?⟩, tx')).mp
        ⟨hprofile', rfl, body', hasks', hprepared'⟩)
      obtain ⟨hbody, hfaithful⟩ := hprepared'.faithful hasks'
      refine ⟨⟨profile, hprofile', hbody ▸ hasks', hfaithful⟩, ?_, ?_⟩
      · intro hprint
        rw [show r.value = _ from hvalue, hprint]
        rfl
      · intro config hconfig hdelivery
        have hnode : (⟨profile, settings.node?⟩ : Session).node? = some config := hconfig
        have hdelivers := delivers_deliver tx'.toJson closing replies hnode hdelivery
        rw [← hrequests] at hdelivers
        exact hdelivers
  · constructor
    · exact fun _ => hrequests.trans hrun
    · rintro tx' ⟨profile, body', hprofile', hasks', hprepared'⟩
      exact absurd ⟨hprofile', rfl, body', hasks', hprepared'⟩
        (hnone (⟨profile, settings.node?⟩, tx'))

/-! ### An example

A hash is anchored, sponsored, posted to a node and waited for. -/

namespace Example

def around : Surroundings :=
  ⟨fun _ => .error "", 1000, Vector.replicate 5 0⟩

def words : List String :=
  ["anchor", "0x0102", "--seed", "sender", "--sponsor-seed", "sponsor", "--broadcast", "--wait",
    "--node-url", "http://node/"]

def settings : Settings :=
  ⟨some "http://node/", 'L', .pretty, false⟩

def signer : SignerArguments :=
  ⟨"sender", 0, .ed25519⟩

def arguments : SubmitArguments :=
  ⟨some "sponsor", none, none, .confirm⟩

def action : Action :=
  .anchor (.hash "0x0102") signer arguments

def config : NodeConfig :=
  ⟨"http://node", 1000, 180000⟩

/-- The node takes the transaction and gives it an id. -/
def reply : Reply :=
  .answered ⟨200, .object [("id", .string "id")]⟩

theorem readIntent_words : readIntent (fun _ => none) words = .run settings action := by
  rfl

theorem prepared : ∃ tx, Prepared around settings action signer arguments tx := by
  obtain ⟨draft, signed, tx, hcreate, hsign, hsponsor⟩ : ∃ draft signed tx,
      Transaction.create (.anchor [1, 2]) ⟨none, none, none⟩ = .ok draft ∧
      draft.sign (signer.account .standard) 1000 = .ok signed ∧
      signed.sponsor (Profile.standard.fromPhrase "sponsor" 0) = .ok tx := ⟨_, _, _, rfl, rfl, rfl⟩
  have hhash : Hex.decode (String.ofList (Session.withoutHexMarker "0x0102".toList)) =
      .ok [1, 2] := by rfl
  exact ⟨tx, .standard, .anchor [1, 2], rfl, .anchorHash hhash,
    ⟨none, draft, signed, rfl, hcreate, hsign, hsponsor⟩⟩

end Example

theorem run_submission_example : ∃ tx,
    Prepared Example.around Example.settings Example.action Example.signer Example.arguments tx ∧
      tx.signing.name = "FullySigned" ∧ Transaction.ofText tx.toJson.compact = .ok tx ∧
      Delivers Example.config tx.toJson .confirm Example.reply
        ((program Example.around (fun _ => none) Example.words).exchange.run (.failed "")
          [Example.reply]).requests := by
  obtain ⟨tx, hprepared⟩ := Example.prepared
  obtain ⟨-, hall⟩ := @run_submission Example.around _ _ _ _ _ _ Example.readIntent_words rfl
    (.failed "") [Example.reply]
  obtain ⟨⟨profile, -, -, hfaithful⟩, -, hdelivers⟩ := hall tx hprepared
  obtain ⟨hposted, -⟩ := hfaithful.read
  exact ⟨tx, hprepared, hfaithful.signing, hposted, hdelivers Example.config rfl nofun⟩

end Wallet.Command
