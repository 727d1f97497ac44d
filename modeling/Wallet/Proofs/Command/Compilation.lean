import Wallet.Proofs.Command.Submission
import Wallet.Proofs.Node.Question
import Wallet.Proofs.Transaction.Dependence

/-!
# Compiled scripts

A node compiles a script and sends it as text. The text is read in three places: by the client of
the node, by the function that makes a body of it, and where it stands in the document of a
transaction. It is written in two, by the command that has a script compiled and into documents.

A document is read by making a body of its text. The client reads on its own, and the command
writes on its own. Still they accept the same texts, read the same bytes and give the same error
(`GivesScript.readScript`, `ofFields_insertField_script`). The command shows a script as documents
give it, character for character and without escapes (`pretty_scriptJson`), so what it shows
stands for the script that was compiled wherever it is taken (`Script.StandsFor`). `scripts_agree`
puts this together for a whole run of the command.
-/

namespace Wallet

/-! ## §1. Making a body of a text -/

namespace Body

variable {text : String} {script : Bytes}

theorem newSetScript_eq_setScript_iff :
    newSetScript text = .ok (.setScript script) ↔ Script.ofText text = .ok script := by
  rw [newSetScript_eq_ok_iff]
  constructor
  · rintro ⟨script', heq, hread⟩
    cases heq
    exact hread
  · exact fun hread => ⟨script, rfl, hread⟩

theorem newSetScript_eq_error_iff {e : TransactionError} :
    newSetScript text = .error e ↔ Script.ofText text = .error e := by
  unfold newSetScript
  cases Script.ofText text <;> simp

/-- What is behind the marker, or the whole text if there is none, has to spell the script. -/
theorem newSetScript_eq_ok_iff_spells :
    newSetScript text = .ok (.setScript script) ↔
      ∃ base, (text = base ∨ text = "base64:" ++ base) ∧ Base64.Spells base script := by
  have hspells (base : String) : Base64.Spells base script ↔ base = Base64.encode script := by
    rw [← Base64.decode_eq_ok_iff_spells, Base64.decode_eq_ok_iff]
  simp only [newSetScript_eq_setScript_iff, Script.ofText_eq_ok_iff, hspells]
  constructor
  · rintro (hplain | hmarked)
    · exact ⟨_, .inl hplain, rfl⟩
    · exact ⟨_, .inr hmarked, rfl⟩
  · rintro ⟨base, hplain | hmarked, rfl⟩
    · exact .inl hplain
    · exact .inr hmarked

/-- Only the base64 can be at fault. -/
theorem newSetScript_eq_error_iff_decode {e : TransactionError} :
    newSetScript text = .error e ↔
      ∃ fault, Base64.decode (Script.withoutMarker text) = .error fault ∧
        e = .decode (.base64 fault) := by
  rw [newSetScript_eq_error_iff, Script.ofText]
  cases Base64.decode (Script.withoutMarker text) with
  | ok script => simp
  | error fault => simp [eq_comm]

end Body

/-! ## §2. What a node sends -/

namespace NodeError

variable {α : Type} {x : Except TransactionError α}

theorem liftTransaction_eq_ok_iff {a : α} : liftTransaction x = .ok a ↔ x = .ok a := by
  cases x <;> simp [liftTransaction]

theorem liftTransaction_eq_error_iff {e : NodeError} :
    liftTransaction x = .error e ↔ ∃ cause, x = .error cause ∧ e = .transaction cause := by
  cases x <;> simp [liftTransaction, eq_comm]

end NodeError

namespace Node

/-- A message that gives a text as a script: a success with that text in its field. -/
inductive GivesScript (text : String) : Http.Message → Prop where
  | success {status : Nat} {reply : String} {body : Json} (status_eq : 200 ≤ status ∧ status ≤ 299)
      (sent : Sent reply body) (script : body.get? "script" = some (.string text)) :
      GivesScript text (.received status reply)

/-- The client reads the text as it is read anywhere else. -/
theorem GivesScript.readScript {text : String} {message : Http.Message}
    (hgives : GivesScript text message) :
    readScript (Http.decode message) = NodeError.liftTransaction (Script.ofText text) := by
  obtain ⟨hstatus, hsent, hscript⟩ := hgives
  refine readScript_of_field ?_ hscript
  rw [Http.decode, sent_iff.mp hsent, readBody, if_pos (isSuccess_iff.mpr hstatus)]

end Node

/-! ## §3. Documents -/

namespace Transaction

variable {tx : Transaction} {script : Bytes} {fields : Fields} {text : String}

/-- A document gives the script with the marker. -/
theorem get?_script (hbody : tx.body = .setScript script) :
    tx.toJson.get? "script" = some (.string (Script.toText script)) := by
  have hmem : ("script", Json.string (Script.toText script)) ∈ tx.fields := by
    simp [Transaction.fields, hbody, bodyFields]
  have hget : tx.toJson.get? "script" = Json.field? (Json.collected tx.fields) "script" := rfl
  rw [hget, field?_collected_fields, Json.field?_eq_some tx.nodup_names_fields hmem]

/-- The body of a document is what is made of the text that it gives. -/
theorem readBody_of_script (hfield : optional fields "script" = some (.string text)) :
    readBody fields .setScript = Body.newSetScript text := by
  rw [readBody, stringField_of_optional hfield, ok_bind]

/-- The parts of a transaction besides its body are read from the envelope alone. -/
theorem Read.withBody {f g : Fields} {body : Body} (hread : Read f tx)
    (hagree : Agree g f envelopeNames) (hbody : readBody g tx.kind = .ok body)
    (hfits : body.fits tx.version = true) : Read g { tx with body } := by
  have hkind : body.kind = tx.kind := (readBody_eq_ok hbody).1
  have hsigner (role : Role) (chain : Option Char) :
      readSigner g role chain = readSigner f role chain := by
    refine readSigner_congr (hagree.mono fun name hname => ?_)
    cases role <;> simp [envelopeNames, hname]
  constructor
  case kind =>
    rw [readKind_congr (hagree "type" (by decide)), hread.kind]
    exact congrArg _ hkind.symm
  case version => exact (readVersion_congr (hagree "version" (by decide))).trans hread.version
  case supported =>
    show body.kind.supports tx.version = true
    rw [hkind, hread.supported]
  case body =>
    show readBody g body.kind = .ok body
    rw [hkind, hbody]
  case fits => exact hfits
  case fee => exact (unsignedField_congr (hagree "fee" (by decide))).trans hread.fee
  case timestamp =>
    exact (optionalUnsigned_congr (hagree "timestamp" (by decide))).trans hread.timestamp
  case sender => exact (hsigner .sender none).trans hread.sender
  case sponsor => exact (hsigner .sponsor tx.chainId?).trans hread.sponsor
  case proofs => exact (readProofs_congr (hagree "proofs" (by decide))).trans hread.proofs

/-- A body that cannot be read is reported before anything behind it. -/
theorem Read.ofFields_eq_error {f g : Fields} {e : TransactionError} (hread : Read f tx)
    (hagree : Agree g f envelopeNames) (hbody : readBody g tx.kind = .error e) :
    ofFields g = .error e := by
  have hkind : readKind g = .ok tx.kind :=
    (readKind_congr (hagree "type" (by decide))).trans hread.kind
  have hversion : readVersion g = .ok tx.version :=
    (readVersion_congr (hagree "version" (by decide))).trans hread.version
  simp only [ofFields, hkind, hversion, Body.checkVersion_eq_ok_iff.mpr hread.supported, hbody,
    ok_bind, error_bind]

/-- A text in place of the script of a document changes the body, if a body can be made of it, and
nothing else. If not, the document is refused for what is wrong with the text. -/
theorem ofFields_insertField_script (hread : Read fields tx) (hkind : tx.kind = .setScript)
    (text : String) :
    ofFields (Json.insertField "script" (.string text) fields) =
      (Body.newSetScript text).map fun body => { tx with body } := by
  -- The script is no field of the envelope.
  have hagree : Agree (Json.insertField "script" (.string text) fields) fields envelopeNames := by
    intro name hname
    have hne : "script" ≠ name := fun heq => absurd (heq ▸ hname) (by decide)
    exact optional_insertField_of_ne hne _
  have hbody : readBody (Json.insertField "script" (.string text) fields) tx.kind =
      Body.newSetScript text := by
    rw [hkind]
    exact readBody_of_script (optional_insertField_self (Json.isNull_string text))
  cases hmade : Body.newSetScript text with
  | error e => exact hread.ofFields_eq_error hagree (hbody.trans hmade)
  | ok body =>
    -- A script fits every layout.
    obtain ⟨script, rfl, -⟩ := Body.newSetScript_eq_ok_iff.mp hmade
    exact ofFields_eq_ok_iff.mpr (hread.withBody hagree (hbody.trans hmade) rfl)

end Transaction

/-! ## §4. What is shown -/

namespace Script

theorem escape_symbol_all : ∀ n : Fin 64,
    Json.escape (Char.ofNat (Base64.symbol n).toNat) = [Char.ofNat (Base64.symbol n).toNat] := by
  decide +kernel

/-- No character of the text of a script is escaped. -/
theorem escape_of_mem_toText {script : Bytes} :
    ∀ c ∈ (toText script).toList, Json.escape c = [c] := by
  have hmarker : ∀ c ∈ marker.toList, Json.escape c = [c] := by simp [marker, Json.escape]
  intro c hc
  rw [toText, String.toList_append] at hc
  rcases List.mem_append.mp hc with hmark | hbase
  · exact hmarker c hmark
  · rw [Base64.encode, String.toList_ofList] at hbase
    obtain ⟨byte, hbyte, rfl⟩ := List.mem_map.mp hbase
    rcases Base64.eq_symbol_of_mem_encodeBytes script byte hbyte with rfl | ⟨n, hn, rfl⟩
    · decide
    · exact escape_symbol_all ⟨n, hn⟩

/-- The text of a script needs no escapes. -/
theorem quote_toText (script : Bytes) :
    Json.quote (toText script) = '"' :: ((toText script).toList ++ ['"']) := by
  -- A text of such characters is quoted as it is.
  have hself : (toText script).toList.flatMap Json.escape =
      (toText script).toList.flatMap fun c => [c] :=
    List.flatMap_congr escape_of_mem_toText
  rw [Json.quote, hself, List.flatMap_singleton']

end Script

namespace Command

/-- How a text and a size are shown. -/
def shownText (text : String) (size : Nat) : String :=
  "\x7b\n  \"script\": \"" ++ text ++ "\",\n  \"size\": " ++ toString size ++ "\n\x7d\n"

theorem toList_shownText (text : String) (size : Nat) :
    (shownText text size).toList =
      '\x7b' :: (Json.newline 1 ++ (Json.quote "script" ++ [':', ' ', '"'])) ++ text.toList ++
        ('"' :: ',' :: (Json.newline 1 ++ (Json.quote "size" ++ [':', ' ']))) ++
        (toString size).toList ++ (Json.newline 0 ++ ['\x7d', '\n']) := by
  have hopen : "\x7b\n  \"script\": \"".toList =
      '\x7b' :: (Json.newline 1 ++ (Json.quote "script" ++ [':', ' ', '"'])) := by decide
  have hmiddle : "\",\n  \"size\": ".toList =
      '"' :: ',' :: (Json.newline 1 ++ (Json.quote "size" ++ [':', ' '])) := by decide
  have hclose : "\n\x7d\n".toList = Json.newline 0 ++ ['\x7d', '\n'] := by decide
  unfold shownText
  rw [String.toList_append, String.toList_append, String.toList_append, String.toList_append,
    hopen, hmiddle, hclose]

/-- The fields stand in the order of their names already. -/
theorem scriptJson_eq (script : Bytes) : Session.scriptJson script =
    .object [("script", .string (Script.toText script)), ("size", .natural script.length)] := by
  have hsize : ¬ "size" < "script" := by decide
  have hscript : "size" ≠ "script" := by decide
  rw [Session.scriptJson, Json.ofFields, List.foldl_cons, List.foldl_cons, List.foldl_nil]
  simp only [Json.insertField, if_neg hsize, if_neg hscript, Script.toText]

/-- What is shown of a script is the text that documents give, and the number of its bytes. -/
theorem pretty_scriptJson (script : Bytes) :
    (Session.scriptJson script).pretty ++ "\n" =
      shownText (Script.toText script) script.length := by
  have hlength : (Json.Number.integer script.length).chars = (toString script.length).toList := rfl
  apply String.toList_inj.mp
  rw [toList_shownText, String.toList_append, scriptJson_eq, Json.pretty, String.toList_ofList]
  simp [Json.prettyChars, Json.prettyFields, Json.block, Json.separated, Script.quote_toText,
    Json.natural, hlength]

/-! ## §5. The command -/

/-- A file that is to be compiled holds this source, and this is the node to ask. -/
structure Sourced (around : Surroundings) (settings : Settings) (file : String)
    (p : NodeConfig × String) : Prop where
  chain : ∃ profile, Profile.ofChain settings.chainId = .ok profile
  node : settings.node? = some p.1
  text : ∃ content, around.readFile file = .ok content ∧
    String.fromUTF8? (ByteArray.mk content.toArray) = some p.2

/-- A command line that has a source compiled by a node. -/
def Compiles (around : Surroundings) (env : Environment) (words : List String)
    (config : NodeConfig) (source : String) : Prop :=
  ∃ settings file, readIntent env words = .run settings (.compile file) ∧
    Sourced around settings file (config, source)

/-- What the command does before it asks. -/
def source (around : Surroundings) (settings : Settings) (file : String) :
    Task (NodeConfig × String) := do
  Task.report [.initialized settings.logFormat, .starting settings.chainId]
  let session ← Session.start settings
  let text ← Session.readText around file
  let config ← session.node
  return (config, text)

theorem perform_compile (around : Surroundings) (settings : Settings) (file : String) :
    perform around settings (.compile file) = source around settings file >>= fun p =>
      Task.ask p.1 "compilation failed" (Node.compileScript p.2).exchange >>= fun script =>
        pure (Session.scriptJson script) := by
  simp only [perform, source, Session.run, Session.query, bind_assoc, pure_bind]

theorem gives_readText (around : Surroundings) (path : String) :
    Task.Gives (Session.readText around path) fun text => ∃ content,
      around.readFile path = .ok content ∧
        String.fromUTF8? (ByteArray.mk content.toArray) = some text := by
  refine (gives_readFile around path).bind fun content _ =>
    (Task.gives_expect _ _ _).congr fun text => ?_
  cases String.fromUTF8? (ByteArray.mk content.toArray) <;> simp

/-- Without asking anything, the command finds the source of the file and the node of the settings. -/
theorem gives_source (around : Surroundings) (settings : Settings) (file : String) :
    Task.Gives (source around settings file) (Sourced around settings file) := by
  refine ((Task.gives_report _).bind fun _ _ => (gives_start settings).bind fun session _ =>
    (gives_readText around file).bind fun text _ =>
      (Task.gives_demand _ session.node?).bind fun config _ =>
        Task.gives_pure (config, text)).congr fun p => ?_
  constructor
  · rintro ⟨-, -, session, ⟨hchain, hnode⟩, text, htext, config, hconfig, rfl⟩
    exact ⟨⟨_, hchain⟩, hnode.symm.trans hconfig, htext⟩
  · rintro ⟨⟨profile, hchain⟩, hnode, htext⟩
    exact ⟨(), trivial, ⟨profile, settings.node?⟩, ⟨hchain, rfl⟩, p.2, htext, p.1, hnode, rfl⟩

/-- The one request that has a source compiled. -/
def compiling (config : NodeConfig) (source : String) : Request :=
  .post (config.url ++ "/utils/script/compile") source

/-- **A source is sent to the node once**, and what is shown is what the client reads in the
reply. -/
theorem run_compile {around : Surroundings} {env : Environment} {words : List String}
    {config : NodeConfig} {source : String} (hcompiles : Compiles around env words config source)
    (closing reply : Reply) (rest : List Reply) :
    let r := (program around env words).exchange.run closing (reply :: rest)
    r.requests = [compiling config source] ∧
      r.value = conclude (((Node.readScript reply).mapError fun e =>
        ⟨"compilation failed", some e.message⟩).map Session.scriptJson) := by
  intro r
  obtain ⟨settings, file, hintent, hsourced⟩ := hcompiles
  obtain ⟨hrequests, hvalue⟩ := run_program around hintent closing (reply :: rest)
  rw [perform_compile] at hrequests hvalue
  obtain ⟨hasked, hanswer, -⟩ := Task.runOn_ask config "compilation failed"
    (Node.compileScript source).exchange closing (reply :: rest)
  obtain ⟨hquestion, hread, -⟩ :=
    (Node.compileScript source).run_exchange closing (reply :: rest)
  rcases (gives_source around settings file).run_bind _ closing (reply :: rest) with
    ⟨p, hunique, hrun, hend⟩ | ⟨hnone, -⟩
  · -- There is just one source and one node.
    obtain rfl := (hunique (config, source)).mp hsourced
    constructor
    · rw [show r.requests = _ from hrequests, hrun, Task.requests_bind_pure, hasked, hquestion]
      rfl
    · rw [show r.value = _ from hvalue, hend, Task.value_bind_pure, hanswer, hread]
      rfl
  · exact absurd hsourced (hnone _)

end Command

/-! ## §6. One text for all -/

/-- A text that stands for a script wherever the text of a script is written or read. -/
structure Script.StandsFor (text : String) (script : Bytes) : Prop where
  marked : text = "base64:" ++ Base64.encode script
  /-- Whoever sets the script gives this text in the document. -/
  written : ∀ tx : Transaction, tx.body = .setScript script →
    tx.toJson.get? "script" = some (.string text)
  made : Body.newSetScript text = .ok (.setScript script)
  /-- What is drafted of the script is read back from its own document. -/
  drafted : ∀ (options : Options) (tx : Transaction),
    Transaction.create (.setScript script) options = .ok tx →
      Transaction.ofJson tx.toJson = .ok tx
  /-- In place of the script of a document it changes the script to this one and nothing else. -/
  replaced : ∀ (fields : Transaction.Fields) (tx : Transaction),
    Transaction.ofJson (.object fields) = .ok tx → tx.kind = .setScript →
      Transaction.ofJson (.object (Json.insertField "script" (.string text) fields)) =
        .ok { tx with body := .setScript script }
  /-- No document that gives the text is read as one of another script. -/
  read : ∀ (fields : Transaction.Fields) (tx : Transaction),
    Transaction.ofJson (.object fields) = .ok tx → tx.kind = .setScript →
      Transaction.optional fields "script" = some (.string text) → tx.body = .setScript script

namespace Transaction

theorem ofJson_insertField_script {fields : Fields} {tx : Transaction}
    (hread : ofJson (.object fields) = .ok tx) (hkind : tx.kind = .setScript) (text : String) :
    ofJson (.object (Json.insertField "script" (.string text) fields)) =
      (Body.newSetScript text).map fun body => { tx with body } := by
  obtain ⟨fields', hobject, hfields⟩ := ofJson_eq_ok_iff.mp hread
  obtain rfl : fields = fields' := Option.some.inj hobject
  exact ofFields_insertField_script hfields hkind text

end Transaction

/-- The text with the marker stands for the script. -/
theorem Script.standsFor_toText (script : Bytes) : StandsFor (toText script) script := by
  have hmade : Body.newSetScript (toText script) = .ok (.setScript script) :=
    Body.newSetScript_eq_setScript_iff.mpr (ofText_toText script)
  constructor
  case marked => rfl
  case written => exact fun tx hbody => Transaction.get?_script hbody
  case made => exact hmade
  case drafted =>
    intro options tx hcreate
    have hreach : tx.Reachable := .create (.setScript script) hcreate
    exact Transaction.ofJson_eq_ok_iff.mpr ⟨_, Json.asObject?_ofFields _, hreach.read_fields⟩
  case replaced =>
    intro fields tx hread hkind
    rw [Transaction.ofJson_insertField_script hread hkind, hmade]
    rfl
  case read =>
    intro fields tx hread hkind hfield
    obtain ⟨fields', hobject, hfields⟩ := Transaction.ofJson_eq_ok_iff.mp hread
    obtain rfl : fields = fields' := Option.some.inj hobject
    have hbody := hfields.body
    rw [hkind, Transaction.readBody_of_script hfield, hmade] at hbody
    exact (Except.ok.inj hbody).symm

namespace Command

/-- What the client of a node comes to when it has a source compiled and this message comes back. -/
def clientRun (url source : String) (message : Http.Message) (closing : Reply)
    (rest : List Reply) : Except NodeError Bytes :=
  ((Http.through (NodeConfig.ofUrl url).url (Node.compileScript source).exchange).run closing
    (Http.decode message :: rest)).value

/-- What the command comes to when this message comes back. -/
def commandRun (around : Surroundings) (env : Environment) (words : List String)
    (message : Http.Message) (closing : Reply) (rest : List Reply) : Exchange.Run Ending :=
  (program around env words).exchange.run closing (Http.decode message :: rest)

/-- All that reads or writes the text of a script makes the same of a text that a node gives. -/
structure ScriptsAgree (text : String) (message : Http.Message) : Prop where
  /-- The client reads a script exactly if a body can be made of the text, of this script. -/
  client : ∀ url source closing rest script,
    clientRun url source message closing rest = .ok script ↔
      Body.newSetScript text = .ok (.setScript script)
  /-- It fails exactly if no body can be made of the text, and with the same error. -/
  clientFails : ∀ url source closing rest e,
    clientRun url source message closing rest = .error e ↔
      ∃ cause, Body.newSetScript text = .error cause ∧ e = .transaction cause
  /-- A document of a script that gives this text instead is read, or refused, accordingly. -/
  document : ∀ (fields : Transaction.Fields) (tx : Transaction),
    Transaction.ofJson (.object fields) = .ok tx → tx.kind = .setScript →
      Transaction.ofJson (.object (Json.insertField "script" (.string text) fields)) =
        (Body.newSetScript text).map fun body => { tx with body }
  /-- All this is decided by the numeral behind the marker, which may be missing. -/
  accepted : ∀ script, Body.newSetScript text = .ok (.setScript script) ↔
    ∃ base, (text = base ∨ text = "base64:" ++ base) ∧ Base64.Spells base script
  refused : ∀ cause, Body.newSetScript text = .error cause ↔
    ∃ fault, Base64.decode (Script.withoutMarker text) = .error fault ∧
      cause = .decode (.base64 fault)
  /-- The command shows a text that stands for the script, and the number of its bytes. -/
  shown : ∀ script, Body.newSetScript text = .ok (.setScript script) →
    ∃ shown, Script.StandsFor shown script ∧
      ∀ around env words config source closing rest, Compiles around env words config source →
        (commandRun around env words message closing rest).requests =
            [compiling config source] ∧
          (commandRun around env words message closing rest).value =
            ⟨0, shownText shown script.length, ""⟩
  /-- Without a script it shows the error. -/
  failed : ∀ cause, Body.newSetScript text = .error cause →
    ∀ around env words config source closing rest, Compiles around env words config source →
      (commandRun around env words message closing rest).requests = [compiling config source] ∧
        (commandRun around env words message closing rest).value =
          ⟨1, "", Failure.text ⟨"compilation failed", some cause.message⟩ ++ "\n"⟩

/-- **The text of a script is the same to all that read or write it**, from the reply of the node
to the document of a transaction. -/
theorem scripts_agree {text : String} {message : Http.Message}
    (hgives : Node.GivesScript text message) : ScriptsAgree text message := by
  -- The client sees the one reply and reads it.
  have hclient (url source : String) (closing : Reply) (rest : List Reply) :
      clientRun url source message closing rest =
        NodeError.liftTransaction (Script.ofText text) := by
    rw [clientRun, (Query.run_through _ _ closing _).2]
    exact hgives.readScript
  constructor
  case client =>
    intro url source closing rest script
    rw [hclient, NodeError.liftTransaction_eq_ok_iff, Body.newSetScript_eq_setScript_iff]
  case clientFails =>
    intro url source closing rest e
    simp only [hclient, NodeError.liftTransaction_eq_error_iff, Body.newSetScript_eq_error_iff]
  case document =>
    exact fun fields tx hread hkind => Transaction.ofJson_insertField_script hread hkind text
  case accepted => exact fun script => Body.newSetScript_eq_ok_iff_spells
  case refused => exact fun cause => Body.newSetScript_eq_error_iff_decode
  case shown =>
    intro script hmade
    refine ⟨Script.toText script, Script.standsFor_toText script, ?_⟩
    intro around env words config source closing rest hcompiles
    -- The command reads what the client reads, and shows the text of it.
    obtain ⟨hrequests, hvalue⟩ := run_compile hcompiles closing (Http.decode message) rest
    refine ⟨hrequests, hvalue.trans ?_⟩
    rw [hgives.readScript, Body.newSetScript_eq_setScript_iff.mp hmade, ← pretty_scriptJson]
    rfl
  case failed =>
    intro cause hrefused around env words config source closing rest hcompiles
    obtain ⟨hrequests, hvalue⟩ := run_compile hcompiles closing (Http.decode message) rest
    refine ⟨hrequests, hvalue.trans ?_⟩
    rw [hgives.readScript, Body.newSetScript_eq_error_iff.mp hrefused]
    rfl

namespace Example

def compileWords : List String :=
  ["compile", "script.ride", "--node-url", "http://node/"]

/-- The file holds the word "true". -/
def folder : Surroundings :=
  { around with readFile := fun _ => .ok [116, 114, 117, 101] }

def compiled : Json :=
  .ofFields [("script", .string "AQI="), ("complexity", .natural 1)]

theorem compiles_words : Compiles folder (fun _ => none) compileWords config "true" := by
  refine ⟨settings, "script.ride", rfl, ?_⟩
  constructor
  case chain => exact ⟨.standard, rfl⟩
  case node => rfl
  case text => exact ⟨_, rfl, by rfl⟩

theorem gives_compiled : Node.GivesScript "AQI=" (.received 200 compiled.compact) := by
  have hplain : Json.Plain Json.depthLimit compiled := by
    refine Json.plain_ofFields fun field hfield => ?_
    rcases List.mem_pair.mp hfield with rfl | rfl
    · exact Json.plain_string _ _
    · exact Transaction.plain_natural (by decide)
  constructor
  case status_eq => decide
  case sent => exact .json (Json.parse_compact hplain)
  case script => rfl

end Example

theorem scripts_agree_example :
    Node.GivesScript "AQI=" (.received 200 Example.compiled.compact) ∧
      Compiles Example.folder (fun _ => none) Example.compileWords Example.config "true" ∧
      Script.StandsFor "base64:AQI=" [1, 2] ∧
      (∃ tx, Transaction.create (.setScript [1, 2]) .none = .ok tx ∧
        Transaction.ofJson tx.toJson = .ok tx) ∧
      (commandRun Example.folder (fun _ => none) Example.compileWords
        (.received 200 Example.compiled.compact) (.failed "") []).value =
          ⟨0, shownText "base64:AQI=" 2, ""⟩ := by
  obtain ⟨-, -, -, -, -, hshown, -⟩ := scripts_agree Example.gives_compiled
  have hmade : Body.newSetScript "AQI=" = .ok (.setScript [1, 2]) := by rfl
  obtain ⟨shown, hstands, hrun⟩ := hshown [1, 2] hmade
  have htext : shown = "base64:AQI=" := hstands.marked.trans (by rfl)
  subst htext
  obtain ⟨-, hvalue⟩ := hrun _ _ _ _ _ (.failed "") [] Example.compiles_words
  have hcreate : Transaction.create (.setScript [1, 2]) .none = .ok _ := rfl
  exact ⟨Example.gives_compiled, Example.compiles_words, hstands,
    ⟨_, hcreate, hstands.drafted .none _ hcreate⟩, hvalue⟩

end Command

end Wallet
