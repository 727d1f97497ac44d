import Mathlib.Data.Nat.Find
import Wallet.Proofs.Json.Fields
import Wallet.Proofs.Node.Exchange

/-!
# The first decisive reply

`timed` puts a time to every request of a run, on the clock that moves only in pauses. `Decides`
lists the replies that settle what became of a transaction, and what each of them settles it to.

Waiting for a transaction is then one step repeated: a decisive reply ends it, and after any other
reply another interval is left before the deadline or not (`seen_waiting_now`,
`seen_waiting_later`, `seen_waiting_last`). By induction on the replies that decide nothing,
waiting asks at the start and after every interval, reports the first decisive reply, and gives up
exactly if there is none by the deadline (`wait_awaits`).
-/

namespace Wallet

namespace Exchange

/-! ## §1. The time of a request -/

/-- The requests of a run, each with the time at which it is made, where `now` is the time at the
start. -/
def timed {α : Type} (closing : Reply) (now : Nat) :
    Exchange α → List Reply → List (Nat × Request)
  | .done _, _ => []
  | .ask request next, replies =>
    (now, request) :: timed closing now (next (replies.headD closing)) replies.tail
  | .pause millis next, replies => timed closing (now + millis) next replies
  | .note _ next, replies => timed closing now next replies

/-- Only the times are added. -/
theorem map_snd_timed {α : Type} (closing : Reply) (now : Nat) (x : Exchange α)
    (replies : List Reply) :
    (timed closing now x replies).map Prod.snd = (run closing x replies).requests := by
  induction x generalizing now replies with
  | done value => rfl
  | ask request next ih =>
    rw [timed, run_ask, List.map_cons, ih]
    rfl
  | pause millis next ih => exact ih (now + millis) replies
  | note event next ih => exact ih now replies

end Exchange

namespace Node

/-! ## §2. Decisive replies -/

/-- What a reply about a transaction settles: a connection that fails and a refusal other than
"not known" are errors, and a success counts if it names the transaction. Nothing else settles
anything. -/
inductive Decides (id : String) : Reply → Except NodeError Json → Prop where
  | failed (reason : String) : Decides id (.failed reason) (.error (.http reason))
  | refused {status : Nat} {body : Json} (known : status ≠ 404)
      (refuses : status < 200 ∨ 299 < status) :
      Decides id (.answered ⟨status, body⟩) (.error (.status status (refusal body)))
  | found {status : Nat} {body : Json} (success : 200 ≤ status ∧ status ≤ 299)
      (about : body.get? "id" = some (.string id)) :
      Decides id (.answered ⟨status, body⟩) (.ok body)

/-- A reply that settles something. -/
def Decisive (id : String) (reply : Reply) : Prop :=
  ∃ result, Decides id reply result

theorem isAbout_iff {id : String} {info : Json} :
    isAbout id info = true ↔ info.get? "id" = some (.string id) := by
  have hstring : (info.get? "id").bind Json.asString? = some id ↔
      info.get? "id" = some (.string id) := by
    constructor
    · intro hbind
      obtain ⟨value, hvalue, htext⟩ := Option.bind_eq_some_iff.mp hbind
      rw [hvalue, Json.eq_string_of_asString? htext]
    · intro hvalue
      rw [hvalue]
      rfl
  rw [isAbout, decide_eq_true_iff, hstring]

/-- What is settled in the loop is what the reply decides. -/
theorem settles_eq_some_iff {id : String} {reply : Reply} {result : Except NodeError Json} :
    settles id (readKnown reply) = some result ↔ Decides id reply result := by
  constructor
  · intro hsettles
    cases reply with
    | failed reason =>
      cases hsettles
      exact .failed reason
    | answered response =>
      obtain ⟨status, body⟩ := response
      by_cases hknown : status = 404
      · subst hknown
        cases hsettles
      · rw [readKnown_answered hknown] at hsettles
        by_cases hsuccess : isSuccess status = true
        · rw [if_pos hsuccess] at hsettles
          -- A success settles something only if it is about the transaction.
          by_cases habout : isAbout id body = true
          · rw [settles, if_pos habout] at hsettles
            cases hsettles
            exact .found (isSuccess_iff.mp hsuccess) (isAbout_iff.mp habout)
          · rw [settles, if_neg habout] at hsettles
            cases hsettles
        · rw [if_neg hsuccess] at hsettles
          cases hsettles
          refine .refused hknown ?_
          rw [isSuccess_iff] at hsuccess
          omega
  · intro hdecides
    cases hdecides with
    | failed reason => rfl
    | @refused status body hknown hrefuses =>
      have hsuccess : ¬ isSuccess status = true := by
        rw [isSuccess_iff]
        omega
      rw [readKnown_answered hknown, if_neg hsuccess]
      rfl
    | @found status body hsuccess habout =>
      have hknown : status ≠ 404 := by omega
      rw [readKnown_answered hknown, if_pos (isSuccess_iff.mpr hsuccess), settles,
        if_pos (isAbout_iff.mpr habout)]

/-- What is settled to be the transaction names it. -/
theorem Decides.about {id : String} {reply : Reply} {info : Json}
    (hdecides : Decides id reply (.ok info)) : info.get? "id" = some (.string id) := by
  cases hdecides with
  | found hsuccess habout => exact habout

/-- A reply that decides nothing settles nothing, so the loop goes on. -/
theorem settles_of_not_decisive {id : String} {reply : Reply} (hopen : ¬ Decisive id reply) :
    settles id (readKnown reply) = none := by
  cases hsettles : settles id (readKnown reply) with
  | none => rfl
  | some result => exact absurd ⟨result, settles_eq_some_iff.mp hsettles⟩ hopen

/-- No reply stands for a transaction that did not show up in time. -/
theorem Decides.ne_timeout {id : String} {reply : Reply} {result : Except NodeError Json}
    (hdecides : Decides id reply result) (other : String) (waited : Nat) :
    result ≠ .error (.timeout other waited) := by
  cases hdecides <;> simp

/-! ## §3. One step of waiting -/

/-- Ask as often as the waiting time that is left allows. -/
def waiting (id : String) (interval timeout left : Nat) : Exchange (Except NodeError Json) :=
  poll id interval timeout (left / interval + 1) left

/-- At the start all of the waiting time is left. -/
theorem wait_eq_waiting {config : NodeConfig} (hinterval : 0 < config.pollInterval)
    (id : String) :
    wait config id = waiting id config.pollInterval config.timeout config.timeout := by
  rw [wait, waiting, pollLimit, if_neg (Nat.ne_of_gt hinterval)]

/-- The question that is asked over and over. -/
def question (id : String) : Request :=
  .get s!"/transactions/info/{id}"

/-- The reply to question `k`, counted from zero. -/
def replyTo (closing : Reply) (replies : List Reply) (k : Nat) : Reply :=
  replies.getD k closing

theorem headD_eq_replyTo (closing : Reply) (replies : List Reply) :
    replies.headD closing = replyTo closing replies 0 := by
  cases replies <;> rfl

theorem replyTo_tail (closing : Reply) (replies : List Reply) (k : Nat) :
    replyTo closing replies.tail k = replyTo closing replies (k + 1) := by
  cases replies <;> rfl

/-- What is seen of waiting: what it comes to, how long it takes, and what is asked when. -/
structure Seen where
  value : Except NodeError Json
  elapsed : Nat
  asked : List (Nat × Request)

/-- What is seen of a run that starts at the time `now`. -/
def seen (closing : Reply) (now : Nat) (x : Exchange (Except NodeError Json))
    (replies : List Reply) : Seen :=
  ⟨(x.run closing replies).value, (x.run closing replies).elapsed, x.timed closing now replies⟩

/-- What is seen if an interval passes after a question at the time `now`. -/
def Seen.behind (rest : Seen) (id : String) (interval now : Nat) : Seen :=
  ⟨rest.value, interval + rest.elapsed, (now, question id) :: rest.asked⟩

section Step

variable {id : String} {interval timeout left now : Nat} {closing : Reply}
  {replies : List Reply}

/-- A decisive reply ends the waiting at once. -/
theorem seen_waiting_now {result : Except NodeError Json}
    (hdecides : Decides id (replyTo closing replies 0) result) :
    seen closing now (waiting id interval timeout left) replies =
      ⟨result, 0, [(now, question id)]⟩ := by
  have hsettles := settles_eq_some_iff.mpr hdecides
  rw [seen, waiting, poll, Exchange.run_ask, Exchange.timed, headD_eq_replyTo, hsettles]
  rfl

/-- After any other reply the same is done again one interval later, if the deadline allows. -/
theorem seen_waiting_later (hopen : ¬ Decisive id (replyTo closing replies 0))
    (hinterval : 0 < interval) (hleft : interval ≤ left) :
    seen closing now (waiting id interval timeout left) replies =
      (seen closing (now + interval) (waiting id interval timeout (left - interval))
        replies.tail).behind id interval now := by
  -- One interval less leaves one question less.
  have hpolls : left / interval = (left - interval) / interval + 1 :=
    Nat.div_eq_sub_div hinterval hleft
  rw [seen, waiting, poll, Exchange.run_ask, Exchange.timed, headD_eq_replyTo,
    settles_of_not_decisive hopen, hpolls]
  simp only [if_pos hleft]
  rfl

/-- If not, what is left of the waiting time passes. -/
theorem seen_waiting_last (hopen : ¬ Decisive id (replyTo closing replies 0))
    (hleft : left < interval) :
    seen closing now (waiting id interval timeout left) replies =
      ⟨.error (.timeout id timeout), left, [(now, question id)]⟩ := by
  rw [seen, waiting, poll, Exchange.run_ask, Exchange.timed, headD_eq_replyTo,
    settles_of_not_decisive hopen]
  simp only [if_neg (Nat.not_le.mpr hleft)]
  rfl

end Step

/-! ## §4. Waiting -/

/-- A question at the time `now` and after each of the next `n` intervals. -/
def schedule (id : String) (interval now n : Nat) : List (Nat × Request) :=
  (List.range (n + 1)).map fun k => (now + k * interval, question id)

theorem schedule_zero (id : String) (interval now : Nat) :
    schedule id interval now 0 = [(now, question id)] := by
  simp [schedule]

theorem schedule_succ (id : String) (interval now n : Nat) :
    schedule id interval now (n + 1) =
      (now, question id) :: schedule id interval (now + interval) n := by
  have hlater (k : Nat) : now + (k + 1) * interval = now + interval + k * interval := by
    rw [Nat.succ_mul]
    omega
  rw [schedule, List.range_succ_eq_map, List.map_cons, List.map_map, Nat.zero_mul, schedule]
  simp only [Function.comp_def, hlater, Nat.add_zero]

section Waiting

variable {id : String} {interval timeout left now : Nat} {closing : Reply}
  {replies : List Reply} (hinterval : 0 < interval)

include hinterval

/-- The first decisive reply is what waiting comes to, and nothing is asked after it. -/
theorem seen_waiting_of_decides {k : Nat} {result : Except NodeError Json}
    (hleft : k * interval ≤ left) (hdecides : Decides id (replyTo closing replies k) result)
    (hopen : ∀ j < k, ¬ Decisive id (replyTo closing replies j)) :
    seen closing now (waiting id interval timeout left) replies =
      ⟨result, k * interval, schedule id interval now k⟩ := by
  -- The deadline and the clock both move on by one interval with every reply.
  induction k generalizing left now replies with
  | zero => rw [seen_waiting_now hdecides, Nat.zero_mul, schedule_zero]
  | succ k ih =>
    rw [Nat.succ_mul] at hleft
    -- Behind the first reply the decisive one is one place nearer.
    rw [← replyTo_tail] at hdecides
    have hnext : ∀ j < k, ¬ Decisive id (replyTo closing replies.tail j) := by
      intro j hj
      rw [replyTo_tail]
      exact hopen (j + 1) (Nat.succ_lt_succ hj)
    have hlater : interval ≤ left := Nat.le_trans (Nat.le_add_left ..) hleft
    rw [seen_waiting_later (hopen 0 (Nat.succ_pos k)) hinterval hlater,
      ih (Nat.le_sub_of_add_le hleft) hdecides hnext, Seen.behind, schedule_succ, Nat.succ_mul,
      Nat.add_comm interval]

/-- Without a decisive reply by the deadline all the waiting time passes. -/
theorem seen_waiting_of_undecided
    (hopen : ∀ k, k * interval ≤ left → ¬ Decisive id (replyTo closing replies k)) :
    seen closing now (waiting id interval timeout left) replies =
      ⟨.error (.timeout id timeout), left, schedule id interval now (left / interval)⟩ := by
  -- Each question takes one interval off what is left.
  induction hpolls : left / interval generalizing left now replies with
  | zero =>
    have hlast : left < interval := Nat.lt_of_div_eq_zero hinterval hpolls
    rw [seen_waiting_last (hopen 0 (by omega)) hlast, schedule_zero]
  | succ n ih =>
    have hlater : interval ≤ left := by
      rcases Nat.lt_or_ge left interval with hlast | hlater
      · rw [Nat.div_eq_of_lt hlast] at hpolls
        cases hpolls
      · exact hlater
    have hfewer : (left - interval) / interval = n := by
      rw [Nat.div_eq_sub_div hinterval hlater] at hpolls
      exact Nat.succ.inj hpolls
    have hnext : ∀ k, k * interval ≤ left - interval →
        ¬ Decisive id (replyTo closing replies.tail k) := by
      intro k hk
      rw [replyTo_tail]
      refine hopen (k + 1) ?_
      rw [Nat.succ_mul]
      omega
    rw [seen_waiting_later (hopen 0 (by omega)) hinterval hlater, ih hnext hfewer, Seen.behind,
      schedule_succ, Nat.add_sub_of_le hlater]

end Waiting

/-- Either some reply by the deadline is the first decisive one, or none is decisive. -/
theorem exists_first_or_none (id : String) (interval timeout : Nat) (reply : Nat → Reply) :
    (∃ k result, k * interval ≤ timeout ∧ Decides id (reply k) result ∧
        ∀ j < k, ¬ Decisive id (reply j)) ∨
      ∀ k, k * interval ≤ timeout → ¬ Decisive id (reply k) := by
  classical
  by_cases hsome : ∃ k, k * interval ≤ timeout ∧ Decisive id (reply k)
  · left
    obtain ⟨hk, result, hresult⟩ := Nat.find_spec hsome
    refine ⟨Nat.find hsome, result, hk, hresult, fun j hj hdecisive => ?_⟩
    -- An earlier reply is earlier than the deadline too.
    have hearlier : j * interval ≤ timeout :=
      Nat.le_trans (Nat.mul_le_mul_right interval (Nat.le_of_lt hj)) hk
    exact Nat.find_min hsome hj ⟨hearlier, hdecisive⟩
  · right
    exact fun k hk hdecisive => hsome ⟨k, hk, hdecisive⟩

/-- What waiting for a transaction comes to, and what is asked when, on a clock that starts at
zero. Only the replies to questions up to the deadline matter, so a list of replies with one more
for all later questions stands for any sequence of them. -/
structure Awaits (config : NodeConfig) (id : String) (closing : Reply) (replies : List Reply) :
    Prop where
  /-- One question at the start and after each interval, at least one and none after the
  deadline. -/
  asks : ∃ n, n * config.pollInterval ≤ config.timeout ∧
    (wait config id).timed closing 0 replies = schedule id config.pollInterval 0 n
  /-- These are the requests of the run. -/
  requests : ((wait config id).timed closing 0 replies).map Prod.snd =
    ((wait config id).run closing replies).requests
  /-- The first decisive reply is reported, and nothing is asked after it. -/
  decided : ∀ k result, k * config.pollInterval ≤ config.timeout →
    Decides id (replyTo closing replies k) result →
    (∀ j < k, ¬ Decisive id (replyTo closing replies j)) →
      ((wait config id).run closing replies).value = result ∧
        ((wait config id).run closing replies).elapsed = k * config.pollInterval ∧
        (wait config id).timed closing 0 replies = schedule id config.pollInterval 0 k
  /-- Without one, every question up to the deadline is asked and the transaction given up. -/
  undecided : (∀ k, k * config.pollInterval ≤ config.timeout →
      ¬ Decisive id (replyTo closing replies k)) →
    ((wait config id).run closing replies).value = .error (.timeout id config.timeout) ∧
      ((wait config id).run closing replies).elapsed = config.timeout ∧
      (wait config id).timed closing 0 replies =
        schedule id config.pollInterval 0 (config.timeout / config.pollInterval)
  /-- It is given up in no other case. -/
  timeout_iff :
    ((wait config id).run closing replies).value = .error (.timeout id config.timeout) ↔
      ∀ k, k * config.pollInterval ≤ config.timeout →
        ¬ Decisive id (replyTo closing replies k)
  /-- What is reported as the transaction carries its id. -/
  about : ∀ info, ((wait config id).run closing replies).value = .ok info →
    info.get? "id" = some (.string id)

/-- **Waiting reports the first decisive reply**, and gives up exactly if there is none by the
deadline. -/
theorem wait_awaits {config : NodeConfig} (hinterval : 0 < config.pollInterval) (id : String)
    (closing : Reply) (replies : List Reply) : Awaits config id closing replies := by
  have hwait := wait_eq_waiting hinterval id
  have hdecided : ∀ k result, k * config.pollInterval ≤ config.timeout →
      Decides id (replyTo closing replies k) result →
      (∀ j < k, ¬ Decisive id (replyTo closing replies j)) →
        ((wait config id).run closing replies).value = result ∧
          ((wait config id).run closing replies).elapsed = k * config.pollInterval ∧
          (wait config id).timed closing 0 replies = schedule id config.pollInterval 0 k := by
    intro k result hk hresult hopen
    rw [hwait]
    exact Seen.mk.inj (seen_waiting_of_decides hinterval hk hresult hopen)
  have hundecided (hopen : ∀ k, k * config.pollInterval ≤ config.timeout →
      ¬ Decisive id (replyTo closing replies k)) :
      ((wait config id).run closing replies).value = .error (.timeout id config.timeout) ∧
        ((wait config id).run closing replies).elapsed = config.timeout ∧
        (wait config id).timed closing 0 replies =
          schedule id config.pollInterval 0 (config.timeout / config.pollInterval) := by
    rw [hwait]
    exact Seen.mk.inj (seen_waiting_of_undecided hinterval hopen)
  -- All that is said of a run follows from how it ends.
  rcases exists_first_or_none id config.pollInterval config.timeout
    (replyTo closing replies) with ⟨k, result, hk, hresult, hopen⟩ | hopen
  · obtain ⟨hvalue, -, hasked⟩ := hdecided k result hk hresult hopen
    refine ⟨⟨k, hk, hasked⟩, Exchange.map_snd_timed .., hdecided, hundecided, ?_, ?_⟩
    · rw [hvalue]
      exact ⟨fun htimeout => absurd htimeout (hresult.ne_timeout id config.timeout),
        fun hnone => absurd ⟨result, hresult⟩ (hnone k hk)⟩
    · intro info hinfo
      rw [hvalue] at hinfo
      subst hinfo
      exact hresult.about
  · obtain ⟨hvalue, -, hasked⟩ := hundecided hopen
    refine ⟨⟨_, Nat.div_mul_le_self .., hasked⟩, Exchange.map_snd_timed .., hdecided, hundecided,
      ?_, ?_⟩
    · exact ⟨fun _ => hopen, fun _ => hvalue⟩
    · intro info hinfo
      rw [hvalue] at hinfo
      cases hinfo

/-! ### An example

A node that first does not know the transaction, then tells of another one, and tells of the right
one just at the deadline. -/

namespace Example

def config : NodeConfig :=
  ⟨"http://node.test", 1000, 2000⟩

def info : Json :=
  .ofFields [("id", .string "7Kd"), ("height", .natural 12)]

def replies : List Reply :=
  [.answered ⟨404, .string "unknown"⟩, .answered ⟨200, .ofFields [("id", .string "8Le")]⟩,
    .answered ⟨200, info⟩]

end Example

/-- The node of the example is asked three times and believed the third time. -/
theorem wait_awaits_example : 0 < Example.config.pollInterval ∧
    Awaits Example.config "7Kd" (.failed "closed") Example.replies ∧
    ((wait Example.config "7Kd").run (.failed "closed") Example.replies).value =
      .ok Example.info ∧
    ((wait Example.config "7Kd").run (.failed "closed") Example.replies).elapsed = 2000 :=
  ⟨by decide, wait_awaits (by decide) "7Kd" (.failed "closed") Example.replies, rfl, rfl⟩

end Node

end Wallet
