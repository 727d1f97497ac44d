import Wallet.Command.Session
import Wallet.Proofs.Node.Exchange

/-!
# Tasks that ask nothing

Most of what a command does needs no node: reading arguments, making keys, signing. `Gives t P`
says that the task `t` asks nothing and succeeds with just the values that satisfy `P`; there is
one lemma of that form for each step of a command, and `Gives.bind` puts steps together.

A chain that starts with such a task asks what the rest asks, or nothing if the task fails
(`Gives.run_bind`).
-/

namespace Wallet

/-! ## §1. Laws of chains -/

namespace Exchange

theorem andThen_done {α : Type} (x : Exchange α) : x.andThen .done = x := by
  induction x with
  | done value => rfl
  | ask request next ih => simp [andThen, ih]
  | pause millis next ih => simp [andThen, ih]
  | note event next ih => simp [andThen, ih]

theorem andThen_assoc {α β γ : Type} (x : Exchange α) (f : α → Exchange β) (g : β → Exchange γ) :
    (x.andThen f).andThen g = x.andThen fun a => (f a).andThen g := by
  induction x with
  | done value => rfl
  | ask request next ih => simp [andThen, ih]
  | pause millis next ih => simp [andThen, ih]
  | note event next ih => simp [andThen, ih]

instance : LawfulMonad Exchange :=
  LawfulMonad.mk' Exchange andThen_done (fun _ _ => rfl) andThen_assoc

end Exchange

namespace Command

/-! ## §2. Runs of tasks -/

namespace Task

variable {α β : Type}

/-- Run a task on a list of replies. -/
def runOn (t : Task α) (closing : Reply) (replies : List Reply) :
    Exchange.Run (Except Failure α) :=
  Exchange.run closing (ExceptT.run t) replies

theorem runOn_pure (a : α) (closing : Reply) (replies : List Reply) :
    (pure a : Task α).runOn closing replies = ⟨.ok a, [], 0, [], replies⟩ := rfl

/-- A chain goes on with what its first task comes to, on the replies that are left. -/
theorem runOn_bind (t : Task α) (f : α → Task β) (closing : Reply) (replies : List Reply) :
    (t >>= f).runOn closing replies =
      (t.runOn closing replies).andThen (Exchange.run closing
        (ExceptT.bindCont f (t.runOn closing replies).value) (t.runOn closing replies).unread) :=
  Exchange.run_bind closing (ExceptT.run t) (ExceptT.bindCont f) replies

theorem runOn_bind_of_ok {t : Task α} {f : α → Task β} {closing : Reply} {replies : List Reply}
    {a : α} (ht : (t.runOn closing replies).value = .ok a) :
    (t >>= f).runOn closing replies =
      (t.runOn closing replies).andThen ((f a).runOn closing (t.runOn closing replies).unread) := by
  rw [runOn_bind, ht]
  rfl

/-- A chain ends with the first task that fails. -/
theorem requests_bind_of_error {t : Task α} {f : α → Task β} {closing : Reply}
    {replies : List Reply} {e : Failure} (ht : (t.runOn closing replies).value = .error e) :
    ((t >>= f).runOn closing replies).requests = (t.runOn closing replies).requests := by
  rw [runOn_bind, ht]
  exact List.append_nil _

/-- Making something of a value asks nothing more. -/
theorem requests_bind_pure (t : Task α) (f : α → β) (closing : Reply) (replies : List Reply) :
    ((t >>= fun a => pure (f a)).runOn closing replies).requests =
      (t.runOn closing replies).requests := by
  cases hvalue : (t.runOn closing replies).value with
  | error e => exact requests_bind_of_error hvalue
  | ok a =>
    rw [runOn_bind_of_ok hvalue, runOn_pure]
    exact List.append_nil _

theorem value_bind_pure (t : Task α) (f : α → β) (closing : Reply) (replies : List Reply) :
    ((t >>= fun a => pure (f a)).runOn closing replies).value =
      (t.runOn closing replies).value.map f := by
  rw [runOn_bind]
  cases hvalue : (t.runOn closing replies).value with
  | error e => rfl
  | ok a => rfl

/-- A task that asks nothing and succeeds with just the values that satisfy `P`. -/
def Gives (t : Task α) (P : α → Prop) : Prop :=
  ∃ result : Except Failure α, Exchange.Silent (ExceptT.run t) result ∧
    ∀ a, result = .ok a ↔ P a

theorem gives_pure (a : α) : Gives (pure a) (· = a) :=
  ⟨.ok a, Exchange.silent_pure _, fun b => by simp [eq_comm]⟩

theorem gives_fail (message : String) : Gives (fail message : Task α) fun _ => False :=
  ⟨.error ⟨message, none⟩, Exchange.silent_pure _, fun b => by simp⟩

theorem gives_expect {ε : Type} (doing : String) (message : ε → String) (x : Except ε α) :
    Gives (expect doing message x) fun a => x = .ok a := by
  cases x with
  | error e => exact ⟨.error ⟨doing, some (message e)⟩, Exchange.silent_pure _, fun b => by simp⟩
  | ok a => exact ⟨.ok a, Exchange.silent_pure _, fun b => by simp⟩

theorem gives_demand (message : String) (value : Option α) :
    Gives (demand message value) fun a => value = some a := by
  cases value with
  | none => exact ⟨.error ⟨message, none⟩, Exchange.silent_pure _, fun b => by simp⟩
  | some a => exact ⟨.ok a, Exchange.silent_pure _, fun b => by simp⟩

theorem gives_report (events : List Log.Event) : Gives (report events) fun _ => True :=
  ⟨.ok (), (Exchange.silent_report events).bind (Exchange.silent_pure _), fun _ => by simp⟩

/-- A chain gives what its last step gives on what the steps before it gave. -/
theorem Gives.bind {t : Task α} {P : α → Prop} {f : α → Task β} {Q : α → β → Prop}
    (ht : Gives t P) (hf : ∀ a, P a → Gives (f a) (Q a)) :
    Gives (t >>= f) fun b => ∃ a, P a ∧ Q a b := by
  obtain ⟨result, hsilent, hP⟩ := ht
  -- If the first step fails the rest is not looked at, and no value satisfies its condition.
  cases result with
  | error e =>
    refine ⟨.error e, hsilent.bind (Exchange.silent_pure _), fun b => ?_⟩
    simp [← hP]
  | ok a =>
    have ha := (hP a).mp rfl
    obtain ⟨next, hnext, hQ⟩ := hf a ha
    refine ⟨next, hsilent.bind hnext, fun b => ?_⟩
    rw [hQ]
    constructor
    · exact fun hb => ⟨a, ha, hb⟩
    · rintro ⟨a', ha', hb⟩
      cases (hP a').mpr ha'
      exact hb

/-- The same in other words. -/
theorem Gives.congr {t : Task α} {P Q : α → Prop} (ht : Gives t P) (hPQ : ∀ a, P a ↔ Q a) :
    Gives t Q := by
  obtain ⟨result, hsilent, hP⟩ := ht
  exact ⟨result, hsilent, fun a => (hP a).trans (hPQ a)⟩

/-- A chain asks what the rest asks of the value that its first task gives, and nothing if there
is no such value. -/
theorem Gives.run_bind {t : Task α} {P : α → Prop} (ht : Gives t P) (f : α → Task β)
    (closing : Reply) (replies : List Reply) :
    (∃ a, (∀ b, P b ↔ b = a) ∧
      ((t >>= f).runOn closing replies).requests = ((f a).runOn closing replies).requests ∧
      ((t >>= f).runOn closing replies).value = ((f a).runOn closing replies).value) ∨
    ((∀ a, ¬ P a) ∧ ((t >>= f).runOn closing replies).requests = []) := by
  obtain ⟨result, hsilent, hP⟩ := ht
  obtain ⟨hvalue, hrequests⟩ := hsilent.run_bind (ExceptT.bindCont f) closing replies
  cases result with
  | error e => exact .inr ⟨fun a ha => (by cases (hP a).mpr ha), hrequests⟩
  | ok a =>
    refine .inl ⟨a, fun b => ?_, hrequests, hvalue⟩
    rw [← hP]
    simp [eq_comm]

theorem runOn_lift (x : Exchange α) (closing : Reply) (replies : List Reply) :
    runOn (ExceptT.lift x) closing replies =
      (x.run closing replies).andThen
        ⟨.ok (x.run closing replies).value, [], 0, [], (x.run closing replies).unread⟩ :=
  Exchange.run_bind closing x (fun a => pure (Except.ok a : Except Failure α)) replies

theorem runOn_expect {ε : Type} (doing : String) (message : ε → String) (x : Except ε α)
    (closing : Reply) (replies : List Reply) :
    (expect doing message x).runOn closing replies =
      ⟨x.mapError fun e => ⟨doing, some (message e)⟩, [], 0, [], replies⟩ := by
  cases x <;> rfl

/-- Asking a node is asking through its connection, and fails if the node does not help. -/
theorem runOn_ask (config : NodeConfig) (doing : String) (x : Exchange (Except NodeError α))
    (closing : Reply) (replies : List Reply) :
    ((ask config doing x).runOn closing replies).requests =
        (x.run closing replies).requests.map (Http.located config.url) ∧
      ((ask config doing x).runOn closing replies).value =
        (x.run closing replies).value.mapError (fun e => ⟨doing, some e.message⟩) ∧
      ((ask config doing x).runOn closing replies).unread = (x.run closing replies).unread := by
  obtain ⟨hrequests, hvalue, hunread⟩ := Http.run_through config.url closing x replies
  have hlift := runOn_lift (Http.through config.url x) closing replies
  rw [ask, runOn_bind_of_ok (by rw [hlift]; rfl), runOn_expect, hlift]
  simp [Exchange.Run.andThen, hrequests, hvalue, hunread]

end Task

end Command

end Wallet
