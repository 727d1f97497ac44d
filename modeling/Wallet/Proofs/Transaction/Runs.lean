import Wallet.Proofs.Transaction.Reachable

/-!
# One message for all

Whoever signs a transaction after its sender signs the same bytes as the sender. A run that the
sender has started can be carried on by any accounts that hold a secret and closed by a sponsor;
nothing but the list of proofs changes on the way (`Progress`), and after every step the proofs
of sender and sponsor verify.

Of the schemes it is assumed that the key pairs of sender and sponsor verify what they sign
(`Account.Verifies`), and this only for the bytes of the transaction.
-/

namespace Wallet

/-- The signature that the key pair of an account makes over a message verifies under the public
key of that key pair. -/
def Account.Verifies (a : Account) (message : Bytes) : Prop :=
  ∀ pair, a.keyPair = some pair → pair.publicKey.verify message (pair.sign message) = true

/-- What such an account signs verifies under its public key. -/
theorem Account.Verifies.verify_sign {a : Account} {message : Bytes} {proof : Signature}
    (hverifies : a.Verifies message) (hproof : a.sign message = .ok proof) :
    a.publicKey.verify message proof = true := by
  obtain ⟨pair, hpair, rfl⟩ := Transaction.account_sign_eq_ok.mp hproof
  rw [← a.publicKey_eq pair hpair]
  exact hverifies pair hpair

namespace Transaction

/-! ## §1. Verifying -/

/-- The parties whose proofs are looked at are right if they made their proofs themselves. -/
theorem verify_of_signed {tx : Transaction} {message : Bytes} {sender : Account}
    {proof : Signature} {cosigned : List Signature}
    (hsigned : tx.signing = .signed sender.signer proof cosigned)
    (hencode : tx.encode = .ok message) (hproof : sender.sign message = .ok proof)
    (hsender : sender.Verifies message) : tx.verifySender = .ok true ∧ tx.verify = .ok true := by
  have hvalid := hsender.verify_sign hproof
  constructor
  · simp [verifySender, hsigned, hencode, Account.signer, hvalid]
  · simp [verify, hsigned, hencode, Account.signer, verifyAll, hvalid, Except.isOk, Except.toBool]

/-- With a sponsor, the first and the last proof are looked at, and both are right. -/
theorem verify_of_sponsored {tx : Transaction} {message : Bytes} {sender sponsor : Account}
    {proof sponsorProof : Signature} {cosigned : List Signature}
    (hsigned : tx.signing =
      .sponsored sender.signer proof cosigned sponsor.signer sponsorProof)
    (hencode : tx.encode = .ok message) (hproof : sender.sign message = .ok proof)
    (hsponsorProof : sponsor.sign message = .ok sponsorProof)
    (hsender : sender.Verifies message) (hsponsor : sponsor.Verifies message) :
    tx.verifySender = .ok true ∧ tx.verify = .ok true := by
  have hvalid := hsender.verify_sign hproof
  have hsponsorValid := hsponsor.verify_sign hsponsorProof
  constructor
  · simp [verifySender, hsigned, hencode, Account.signer, hvalid]
  · simp [verify, hsigned, hencode, Account.signer, verifyAll, hvalid, hsponsorValid,
      Except.isOk, Except.toBool]

/-! ## §2. Single steps -/

theorem sign_of_canSign {account : Account} (hcan : account.canSign = true) (message : Bytes) :
    ∃ pair, account.keyPair = some pair ∧ account.sign message = .ok (pair.sign message) := by
  obtain ⟨pair, hpair⟩ := Option.isSome_iff_exists.mp hcan
  exact ⟨pair, hpair, account_sign_eq_ok.mpr ⟨pair, hpair, rfl⟩⟩

/-- The sender's signature fixes the message. -/
theorem encode_of_first {draft signed : Transaction} {sender : Account} {now : UInt64}
    (hunsigned : draft.signing = .unsigned) (hsign : draft.sign sender now = .ok signed) :
    ∃ message proof, signed.encode = .ok message ∧ sender.sign message = .ok proof ∧
      signed = { draft with
        timestamp := some (draft.timestamp.getD now)
        signing := .signed sender.signer proof [] } := by
  cases sign_eq_ok hsign with
  | first _ hpair hmessage =>
    exact ⟨_, _, hmessage, account_sign_eq_ok.mpr ⟨_, hpair, rfl⟩, rfl⟩
  | cosign hsigned =>
    rw [hunsigned] at hsigned
    cases hsigned

section Signed

variable {tx : Transaction} {message : Bytes} {sender : Signer} {proof : Signature}
  {cosigned : List Signature} (hsigned : tx.signing = .signed sender proof cosigned)
  (hencode : tx.encode = .ok message)

include hsigned hencode

theorem act_cosign {account : Account} (hcan : account.canSign = true) (now : UInt64) :
    ∃ added, account.sign message = .ok added ∧ tx.act (.sign account now) =
      .ok { tx with signing := .signed sender proof (cosigned ++ [added]) } := by
  obtain ⟨pair, hpair, hadded⟩ := sign_of_canSign hcan message
  exact ⟨pair.sign message, hadded, (Signs.cosign hsigned hpair hencode).act_eq_ok⟩

theorem act_sponsor {account : Account} (hcan : account.canSign = true) :
    ∃ added, account.sign message = .ok added ∧ tx.act (.sponsor account) =
      .ok { tx with signing := .sponsored sender proof cosigned account.signer added } := by
  obtain ⟨pair, hpair, hadded⟩ := sign_of_canSign hcan message
  exact ⟨pair.sign message, hadded, (Signs.sponsor hsigned hpair hencode).act_eq_ok⟩

end Signed

/-! ## §3. Runs -/

/-- The acts of co-signers, each at a time of its own. -/
def cosignActs (cosigners : List (Account × UInt64)) : List Act :=
  cosigners.map fun c => .sign c.1 c.2

/-- The acts that carry a run on after its sender: co-signers in order and then the sponsor. -/
def laterActs (cosigners : List (Account × UInt64)) (sponsor : Option Account) : List Act :=
  cosignActs cosigners ++ sponsor.toList.map .sponsor

theorem length_laterActs (cosigners : List (Account × UInt64)) (sponsor : Option Account) :
    (laterActs cosigners sponsor).length = cosigners.length + sponsor.toList.length := by
  simp [laterActs, cosignActs]

/-- As long as the sponsor is not reached, only co-signers act. -/
theorem take_laterActs {cosigners : List (Account × UInt64)} {k : Nat}
    (hk : k ≤ cosigners.length) (sponsor : Option Account) :
    (laterActs cosigners sponsor).take k = cosignActs (cosigners.take k) := by
  have hle : k ≤ (cosignActs cosigners).length := by simpa [cosignActs] using hk
  rw [laterActs, List.take_append_of_le_length hle, cosignActs, cosignActs, List.map_take]

theorem take_signers {cosigners : List (Account × UInt64)} {k : Nat} (hk : k ≤ cosigners.length)
    (sender : Account) (sponsor : Option Account) :
    (sender :: cosigners.map Prod.fst ++ sponsor.toList).take (k + 1) =
      sender :: (cosigners.take k).map Prod.fst := by
  have hle : k ≤ (cosigners.map Prod.fst).length := by simpa using hk
  rw [List.cons_append, List.take_succ_cons, List.take_append_of_le_length hle, List.map_take]

theorem run_cons (tx : Transaction) (a : Act) (acts : List Act) :
    tx.run (a :: acts) = tx.act a >>= fun next => next.run acts := by
  rw [run, List.foldlM_cons]
  rfl

theorem run_append (tx : Transaction) (acts later : List Act) :
    tx.run (acts ++ later) = tx.run acts >>= fun next => next.run later := by
  rw [run, List.foldlM_append]
  rfl

/-- Any number of co-signers succeed one after the other and add their proofs in that order. -/
theorem run_cosign {tx : Transaction} {message : Bytes} {sender : Signer} {proof : Signature}
    {cosigned : List Signature} (hsigned : tx.signing = .signed sender proof cosigned)
    (hencode : tx.encode = .ok message) (cosigners : List (Account × UInt64))
    (hcan : ∀ c ∈ cosigners, c.1.canSign = true) :
    ∃ added, added.map .ok = cosigners.map (fun c => c.1.sign message) ∧
      tx.run (cosignActs cosigners) =
        .ok { tx with signing := .signed sender proof (cosigned ++ added) } := by
  -- Each co-signer hands on a signed transaction with the same bytes and one more proof.
  induction cosigners generalizing tx cosigned with
  | nil =>
    refine ⟨[], rfl, ?_⟩
    rw [List.append_nil, ← hsigned]
    rfl
  | cons c rest ih =>
    obtain ⟨first, hfirst, hact⟩ := act_cosign hsigned hencode (hcan c (by simp)) c.2
    -- The bytes depend on the sender, who has not changed.
    have hnext : ({ tx with signing := .signed sender proof (cosigned ++ [first]) } :
        Transaction).encode = .ok message := by
      have hsame : (Signing.signed sender proof (cosigned ++ [first])).sender? = tx.sender? :=
        (sender?_of_signed hsigned).symm
      rw [encode_eq_of_sender_eq hsame, hencode]
    obtain ⟨added, hadded, hrun⟩ :=
      ih rfl hnext fun d hd => hcan d (List.mem_cons_of_mem _ hd)
    refine ⟨first :: added, ?_, ?_⟩
    · rw [List.map_cons, List.map_cons, hfirst, hadded]
    · rw [cosignActs, List.map_cons, run_cons, hact, ok_bind, ← cosignActs, hrun,
        List.append_assoc, List.singleton_append]

/-- Where a run stands once `signers` have signed, the sender `sender` at the time `now` first
and then the others: nothing but the proofs has changed since, and the proofs are those of the
signers, in their order and over one message. -/
structure Progress (draft : Transaction) (sender : Account) (now : UInt64) (message : Bytes)
    (signers : List Account) (tx : Transaction) : Prop where
  kind : tx.kind = draft.kind
  body : tx.body = draft.body
  version : tx.version = draft.version
  fee : tx.fee = draft.fee
  timestamp : tx.timestamp = some (draft.timestamp.getD now)
  sender : tx.sender? = some sender.signer
  encode : tx.encode = .ok message
  id : tx.id = .ok (Base58.encode (Hash.blake2b256 message).list)
  proofs : tx.proofs.map .ok = signers.map fun a => a.sign message
  verifySender : tx.verifySender = .ok true
  verify : tx.verify = .ok true

theorem id_of_encode {tx : Transaction} {message : Bytes} (hencode : tx.encode = .ok message) :
    tx.id = .ok (Base58.encode (Hash.blake2b256 message).list) := by
  rw [id, hencode]
  rfl

theorem proofs_of_signed {sender : Account} {message : Bytes} {proof : Signature}
    {cosigners : List (Account × UInt64)} {added : List Signature}
    (hproof : sender.sign message = .ok proof)
    (hadded : added.map .ok = cosigners.map fun c => c.1.sign message) :
    (proof :: added).map .ok = (sender :: cosigners.map Prod.fst).map fun a => a.sign message := by
  rw [List.map_cons, hadded, List.map_cons, List.map_map, ← hproof]
  rfl

section Progress

variable {draft : Transaction} {sender : Account} {now : UInt64} {message : Bytes}
  {proof : Signature} {cosigners : List (Account × UInt64)} {added : List Signature}
  (hencode : ({ draft with
    timestamp := some (draft.timestamp.getD now)
    signing := .signed sender.signer proof [] } : Transaction).encode = .ok message)
  (hproof : sender.sign message = .ok proof)
  (hadded : added.map .ok = cosigners.map fun c => c.1.sign message)
  (hsender : sender.Verifies message)

include hencode

/-- What has been signed since does not change the bytes. -/
theorem encode_later {tx : Transaction} (signing : Signing)
    (hsender : signing.sender? = some sender.signer)
    (htx : tx = { draft with
      timestamp := some (draft.timestamp.getD now)
      signing := signing }) : tx.encode = .ok message := by
  have hsigned : tx.sender? = some sender.signer := by rw [htx]; exact hsender
  rw [← hencode, encode_of_sender hsigned, htx]
  rfl

include hproof hadded hsender

/-- Before the sponsor, the state of a run is determined by the proofs that were added. -/
theorem progress_of_signed {tx : Transaction}
    (htx : tx = { draft with
      timestamp := some (draft.timestamp.getD now)
      signing := .signed sender.signer proof added }) :
    Progress draft sender now message (sender :: cosigners.map Prod.fst) tx := by
  have hmessage : tx.encode = .ok message := encode_later hencode _ rfl htx
  obtain ⟨hverifySender, hverify⟩ := verify_of_signed (by rw [htx]) hmessage hproof hsender
  have hproofs : tx.proofs.map .ok = (sender :: cosigners.map Prod.fst).map fun a =>
      a.sign message := by
    have hlist : tx.proofs = proof :: added := by rw [htx]; rfl
    rw [hlist, proofs_of_signed hproof hadded]
  subst htx
  exact ⟨rfl, rfl, rfl, rfl, rfl, rfl, hmessage, id_of_encode hmessage, hproofs, hverifySender,
    hverify⟩

theorem progress_of_sponsored {tx : Transaction} {sponsor : Account} {sponsorProof : Signature}
    (hsponsorProof : sponsor.sign message = .ok sponsorProof)
    (hsponsor : sponsor.Verifies message)
    (htx : tx = { draft with
      timestamp := some (draft.timestamp.getD now)
      signing := .sponsored sender.signer proof added sponsor.signer sponsorProof }) :
    Progress draft sender now message (sender :: cosigners.map Prod.fst ++ [sponsor]) tx := by
  have hmessage : tx.encode = .ok message := encode_later hencode _ rfl htx
  obtain ⟨hverifySender, hverify⟩ :=
    verify_of_sponsored (by rw [htx]) hmessage hproof hsponsorProof hsender hsponsor
  have hproofs : tx.proofs.map .ok = (sender :: cosigners.map Prod.fst ++ [sponsor]).map fun a =>
      a.sign message := by
    -- The sponsor's proof is the last of the list.
    have hlist : tx.proofs = (proof :: added) ++ [sponsorProof] := by rw [htx]; rfl
    rw [hlist, List.map_append, List.map_append, proofs_of_signed hproof hadded,
      List.map_singleton, List.map_singleton, hsponsorProof]
  subst htx
  exact ⟨rfl, rfl, rfl, rfl, rfl, rfl, hmessage, id_of_encode hmessage, hproofs, hverifySender,
    hverify⟩

end Progress

/-- **A run that its sender has started signs one message.** After `k` further steps nothing but
the proofs has changed, and these are the first `k + 1` signers' over the bytes of the
transaction, the sponsor's last. -/
theorem progress_of_run {body : Body} {options : Options} {draft signed : Transaction}
    {sender : Account} {now : UInt64} (hcreate : create body options = .ok draft)
    (hsign : draft.sign sender now = .ok signed) (cosigners : List (Account × UInt64))
    (sponsor : Option Account) (hcosigners : ∀ c ∈ cosigners, c.1.canSign = true)
    (hsponsor : ∀ a ∈ sponsor, a.canSign = true)
    (hscheme : ∀ message, signed.encode = .ok message →
      ∀ a, a = sender ∨ a ∈ sponsor → a.Verifies message) :
    ∃ message, signed.encode = .ok message ∧
      ∀ k ≤ (laterActs cosigners sponsor).length,
        ∃ tx, signed.run ((laterActs cosigners sponsor).take k) = .ok tx ∧
          Progress draft sender now message
            ((sender :: cosigners.map Prod.fst ++ sponsor.toList).take (k + 1)) tx := by
  -- A draft has not been signed, so the sender's step is the one that fixes the message.
  obtain ⟨rfl, -, hunsigned, -, -⟩ := create_eq_ok hcreate
  obtain ⟨message, proof, hencode, hproof, rfl⟩ := encode_of_first hunsigned hsign
  refine ⟨message, hencode, ?_⟩
  have hsender := hscheme message hencode sender (.inl rfl)
  intro k hk
  by_cases hcosign : k ≤ cosigners.length
  · -- The sponsor has not signed yet.
    obtain ⟨added, hadded, hrun⟩ := run_cosign rfl hencode (cosigners.take k)
      fun c hc => hcosigners c (List.mem_of_mem_take hc)
    rw [take_laterActs hcosign, take_signers hcosign]
    exact ⟨_, hrun, progress_of_signed hencode hproof hadded hsender rfl⟩
  · rw [length_laterActs] at hk
    cases sponsor with
    | none => exact absurd hk hcosign
    | some last =>
      -- Everyone has signed.
      have hlength : k = cosigners.length + 1 := Nat.le_antisymm hk (Nat.lt_of_not_le hcosign)
      obtain ⟨added, hadded, hrun⟩ := run_cosign rfl hencode cosigners hcosigners
      have hmessage := encode_later hencode (.signed sender.signer proof added) rfl rfl
      obtain ⟨lastProof, hlastProof, hact⟩ := act_sponsor rfl hmessage (hsponsor last rfl)
      have hacts : (laterActs cosigners (some last)).take k =
          cosignActs cosigners ++ [.sponsor last] :=
        List.take_of_length_le (by simp [laterActs, cosignActs, hlength])
      have hsigners : (sender :: cosigners.map Prod.fst ++ (some last).toList).take (k + 1) =
          sender :: cosigners.map Prod.fst ++ [last] :=
        List.take_of_length_le (by simp [hlength])
      have hlast := hscheme message hencode last (.inr rfl)
      rw [hacts, hsigners, run_append, hrun, ok_bind, run_cons, List.nil_append, hact, ok_bind]
      exact ⟨_, rfl, progress_of_sponsored hencode hproof hadded hsender hlastProof hlast rfl⟩

/-! ### The example -/

/-- What everyone signs in the example. -/
def Example.message : Bytes :=
  match Layout.encode draft.body .v3
      ⟨sender.address.chainByte, 1000, sender.publicKey, draft.fee⟩ with
  | .ok bytes => bytes
  | .error _ => []

theorem Example.verifies {a : Account} (ha : a = sender ∨ a ∈ some sponsor) :
    a.Verifies message := by
  intro pair hpair
  rcases ha with rfl | hsponsor
  · cases hpair
    decide +kernel
  · cases hsponsor
    cases hpair
    decide +kernel

theorem progress_of_run_example : ∃ signed, Example.draft.sign Example.sender 1000 = .ok signed ∧
    ∀ k ≤ 2, ∃ tx, signed.run ((laterActs [(Example.cosigner, 1001)] Example.sponsor).take k) =
      .ok tx ∧ Progress Example.draft Example.sender 1000 Example.message
        ([Example.sender, Example.cosigner, Example.sponsor].take (k + 1)) tx := by
  obtain ⟨signed, hsign, hencode⟩ : ∃ signed, Example.draft.sign Example.sender 1000 = .ok signed ∧
      signed.encode = .ok Example.message := ⟨_, rfl, rfl⟩
  have hcreate : create Example.draft.body .none = .ok Example.draft := rfl
  obtain ⟨message, hmessage, hrun⟩ := progress_of_run hcreate hsign [(Example.cosigner, 1001)]
    (some Example.sponsor) (by simp; rfl) (by simp; rfl) fun message hmessage a ha => by
      rw [hencode] at hmessage
      cases hmessage
      exact Example.verifies ha
  rw [hencode] at hmessage
  cases hmessage
  exact ⟨signed, hsign, hrun⟩

end Transaction

end Wallet
