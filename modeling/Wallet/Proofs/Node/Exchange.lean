import Wallet.Node.Http
import Wallet.Node.Wait

/-!
# What is asked, and when

The requests of a chain of computations are those of its links, one after the other, and each link
sees the replies that the ones before it left over (`run_bind`). A computation that only notes
events is `Silent`: it asks nothing and comes to the same value on any replies.

Sending requests to a node puts the address of the node in front of every path and changes nothing
else. Waiting for a transaction asks about that transaction and about nothing else, however often
(`requests_wait`).
-/

namespace Wallet

namespace Exchange

variable {α β : Type}

/-! ## §1. Chains -/

/-- A request gets the next reply, and the rest of the computation those behind it. -/
theorem run_ask (closing : Reply) (request : Request) (next : Reply → Exchange α)
    (replies : List Reply) :
    run closing (.ask request next) replies =
      (run closing (next (replies.headD closing)) replies.tail).addRequest request := by
  cases replies <;> rfl

/-- A run and then another one. -/
def Run.andThen (r : Run α) (next : Run β) : Run β :=
  ⟨next.value, r.requests ++ next.requests, r.elapsed + next.elapsed, r.events ++ next.events,
    next.unread⟩

theorem run_andThen (closing : Reply) (f : α → Exchange β) (x : Exchange α)
    (replies : List Reply) :
    run closing (x.andThen f) replies =
      (run closing x replies).andThen
        (run closing (f (run closing x replies).value) (run closing x replies).unread) := by
  induction x generalizing replies with
  | done value => simp [andThen, run, Run.andThen]
  | ask request next ih => simp [andThen, run_ask, Run.andThen, Run.addRequest, ih]
  | pause millis next ih => simp [andThen, run, Run.andThen, Run.addPause, ih, Nat.add_assoc]
  | note event next ih => simp [andThen, run, Run.andThen, Run.addEvent, ih]

/-- A chain asks what its links ask, in their order. -/
theorem run_bind (closing : Reply) (x : Exchange α) (f : α → Exchange β)
    (replies : List Reply) :
    run closing (x >>= f) replies =
      (run closing x replies).andThen
        (run closing (f (run closing x replies).value) (run closing x replies).unread) :=
  run_andThen closing f x replies

/-! ## §2. Computations that ask nothing -/

/-- A computation that notes some events and comes to a value. -/
def Silent (x : Exchange α) (a : α) : Prop :=
  ∃ events, x = noteAll events (.done a)

theorem silent_pure (a : α) : Silent (pure a) a :=
  ⟨[], rfl⟩

theorem silent_report (events : List Log.Event) : Silent (report events) () :=
  ⟨events, rfl⟩

theorem andThen_noteAll (events : List Log.Event) (x : Exchange α) (f : α → Exchange β) :
    (noteAll events x).andThen f = noteAll events (x.andThen f) := by
  induction events with
  | nil => rfl
  | cons event rest ih =>
    rw [noteAll, List.foldr_cons, andThen, ← noteAll, ih]
    rfl

theorem Silent.bind {x : Exchange α} {a : α} {f : α → Exchange β} {b : β} (hx : Silent x a)
    (hf : Silent (f a) b) : Silent (x >>= f) b := by
  obtain ⟨events, rfl⟩ := hx
  obtain ⟨more, hmore⟩ := hf
  refine ⟨events ++ more, ?_⟩
  have hbind : (noteAll events (.done a) >>= f) = noteAll events (f a) :=
    andThen_noteAll events (.done a) f
  rw [hbind, hmore, noteAll, noteAll, noteAll, List.foldr_append]

/-- Notes are the only thing that such a computation leaves behind. -/
theorem run_noteAll (closing : Reply) (events : List Log.Event) (x : Exchange α)
    (replies : List Reply) :
    run closing (noteAll events x) replies =
      { run closing x replies with events := events ++ (run closing x replies).events } := by
  induction events with
  | nil => rfl
  | cons event rest ih =>
    rw [noteAll, List.foldr_cons, run, ← noteAll, ih]
    rfl

/-- What a silent computation leaves to the rest of a chain: its value and all replies. -/
theorem Silent.run_eq {x : Exchange α} {a : α} (hx : Silent x a) (closing : Reply)
    (replies : List Reply) :
    (run closing x replies).value = a ∧ (run closing x replies).requests = [] ∧
      (run closing x replies).unread = replies := by
  obtain ⟨events, rfl⟩ := hx
  rw [run_noteAll]
  exact ⟨rfl, rfl, rfl⟩

/-- Behind a silent computation a chain asks what it asks anyway. -/
theorem Silent.run_bind {x : Exchange α} {a : α} (hx : Silent x a) (f : α → Exchange β)
    (closing : Reply) (replies : List Reply) :
    (run closing (x >>= f) replies).value = (run closing (f a) replies).value ∧
      (run closing (x >>= f) replies).requests = (run closing (f a) replies).requests := by
  obtain ⟨hvalue, hrequests, hunread⟩ := hx.run_eq closing replies
  rw [Exchange.run_bind, hvalue, hunread]
  exact ⟨rfl, by rw [Run.andThen, hrequests]; rfl⟩

end Exchange

/-! ## §3. Through a connection -/

namespace Http

/-- A request to a node, with the whole address. -/
def located (url : String) (request : Request) : Request :=
  { request with target := url ++ request.target }

/-- A connection changes the place of each request and nothing else. -/
theorem run_through {α : Type} (url : String) (closing : Reply) (x : Exchange α)
    (replies : List Reply) :
    ((through url x).run closing replies).requests =
        (x.run closing replies).requests.map (located url) ∧
      ((through url x).run closing replies).value = (x.run closing replies).value ∧
      ((through url x).run closing replies).unread = (x.run closing replies).unread := by
  -- Both runs see the same replies, so they go the same way at every request.
  induction x generalizing replies with
  | done value => exact ⟨rfl, rfl, rfl⟩
  | ask request next ih =>
    obtain ⟨hrequests, hvalue, hunread⟩ := ih (replies.headD closing) replies.tail
    rw [through, Exchange.run, Exchange.run_ask, Exchange.run_ask]
    exact ⟨congrArg (located url request :: ·) hrequests, hvalue, hunread⟩
  | pause millis next ih => exact ih replies
  | note event next ih => exact ih replies

end Http

/-! ## §4. Questions -/

/-- A question is one request, and its answer a reading of the next reply. -/
theorem Query.run_exchange {α : Type} (q : Query α) (closing : Reply) (replies : List Reply) :
    (q.exchange.run closing replies).requests = [q.request] ∧
      (q.exchange.run closing replies).value = q.read (replies.headD closing) ∧
      (q.exchange.run closing replies).unread = replies.tail := by
  simp [Query.exchange, Exchange.run, Exchange.run_ask, Exchange.Run.addRequest,
    Exchange.run_noteAll]

/-- The same through a connection. -/
theorem Query.run_through {α : Type} (q : Query α) (url : String) (closing : Reply)
    (replies : List Reply) :
    ((Http.through url q.exchange).run closing replies).requests = [Http.located url q.request] ∧
      ((Http.through url q.exchange).run closing replies).value =
        q.read (replies.headD closing) := by
  obtain ⟨hrequests, hvalue, -⟩ := q.run_exchange closing replies
  obtain ⟨hplaced, hsame, -⟩ := Http.run_through url closing q.exchange replies
  rw [hplaced, hrequests, hsame, hvalue]
  exact ⟨rfl, rfl⟩

namespace Node

theorem isSuccess_iff {status : Nat} : isSuccess status = true ↔ 200 ≤ status ∧ status ≤ 299 := by
  rw [isSuccess, decide_eq_true_iff]
  omega

/-- Every status but "not known" is read as it is for any other question. -/
theorem readKnown_answered {status : Nat} (hknown : status ≠ 404) (body : Json) :
    readKnown (.answered ⟨status, body⟩) =
      if isSuccess status then .ok (some body) else .error (.status status (refusal body)) := by
  have hread : readKnown (.answered ⟨status, body⟩) =
      (readBody (.answered ⟨status, body⟩) >>= fun known => pure (some known)) := by
    unfold readKnown
    split
    · next heq =>
      cases heq
      exact absurd rfl hknown
    · rfl
  rw [hread, readBody]
  cases isSuccess status <;> rfl

/-- Giving up asks nothing. -/
theorem requests_giveUp (id : String) (timeout left : Nat) (closing : Reply)
    (replies : List Reply) : ((giveUp id timeout left).run closing replies).requests = [] := rfl

/-- Asking repeatedly asks the same every time. -/
theorem requests_poll (id : String) (interval timeout polls left : Nat) (closing : Reply)
    (replies : List Reply) :
    ∀ request ∈ ((poll id interval timeout polls left).run closing replies).requests,
      request = (transactionInfo id).request := by
  -- Each round asks once and leaves the rest to the next.
  induction polls generalizing left replies with
  | zero => simp [poll, requests_giveUp]
  | succ polls ih =>
    rw [poll, Exchange.run_ask]
    intro request hrequest
    rcases List.mem_cons.mp hrequest with rfl | hlater
    · rfl
    · -- Behind the first question there is nothing, giving up, or asking again.
      split at hlater
      · cases hlater
      · split at hlater
        · exact ih _ _ request hlater
        · cases hlater

/-- Waiting for a transaction asks about that transaction only. -/
theorem requests_wait (config : NodeConfig) (id : String) (closing : Reply)
    (replies : List Reply) :
    ∀ request ∈ ((wait config id).run closing replies).requests,
      request = (transactionInfo id).request :=
  requests_poll id _ _ _ _ closing replies

end Node

end Wallet
