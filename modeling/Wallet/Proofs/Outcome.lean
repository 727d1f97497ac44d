import Mathlib.Data.List.Forall2

/-!
# Computations that can fail

A chain of computations succeeds exactly if each of its links does. `bind_eq_ok` takes such a
chain apart one link at a time, so that no proof has to open the functions of the library by
cases on every error. Where all errors matter, `outcome_iff` says what has to be shown of them.
-/

namespace Wallet

variable {ε α β : Type}

@[simp] theorem ok_bind (a : α) (f : α → Except ε β) : (Except.ok a >>= f) = f a := rfl

@[simp] theorem error_bind (e : ε) (f : α → Except ε β) :
    (Except.error e >>= f) = .error e := rfl

@[simp] theorem pure_eq_ok (a : α) : (pure a : Except ε α) = .ok a := rfl

/-- A chain succeeds exactly if its first link does and then the rest. -/
theorem bind_eq_ok {x : Except ε α} {f : α → Except ε β} {b : β} :
    (x >>= f) = .ok b ↔ ∃ a, x = .ok a ∧ f a = .ok b := by
  cases x with
  | error e => simp
  | ok a => simp

/-- A check in front of a chain has to pass. -/
theorem check_bind_eq_ok {check : Except ε Unit} {f : Unit → Except ε β} {b : β} :
    (check >>= f) = .ok b ↔ check = .ok () ∧ f () = .ok b := by
  cases check with
  | error e => simp
  | ok u => simp

/-- A last link that cannot fail leaves the errors as they are. -/
theorem bind_ok_eq_error {x : Except ε α} {f : α → β} {e : ε} :
    (x >>= fun a => .ok (f a)) = .error e ↔ x = .error e := by
  cases x with
  | error e => simp
  | ok a => simp

/-- A chain that ends with a test answers what the test is about. -/
theorem bind_bool_eq_ok {x : Except ε α} {test : α → Bool} {holds : α → Prop} {answer : Bool}
    (htest : ∀ a, holds a ↔ test a = true) :
    (x >>= fun a => .ok (test a)) = .ok answer ↔ ∃ a, x = .ok a ∧ (answer = true ↔ holds a) := by
  simp only [bind_eq_ok, Except.ok.injEq, htest, ← Bool.eq_iff_iff, eq_comm (b := answer)]

/-- Computations that succeed and fail alike are the same. -/
theorem ext_outcome {x y : Except ε α} (hok : ∀ a, x = .ok a ↔ y = .ok a)
    (herror : ∀ e, x = .error e ↔ y = .error e) : x = y := by
  cases x with
  | ok a => exact ((hok a).mp rfl).symm
  | error e => exact ((herror e).mp rfl).symm

/-- Conditions of which one always holds, and each of which forces an outcome, are what the
outcomes mean. -/
theorem outcome_iff {x : Except ε α} {succeeds : Prop} {fails : ε → Prop}
    (htotal : succeeds ∨ ∃ e, fails e) (hok : succeeds → ∃ a, x = .ok a)
    (herror : ∀ e, fails e → x = .error e) :
    ((∃ a, x = .ok a) ↔ succeeds) ∧ ∀ e, x = .error e ↔ fails e := by
  refine ⟨⟨?_, hok⟩, fun e => ⟨?_, herror e⟩⟩
  · -- The computation succeeded, so none of the failures can have been the case.
    rintro ⟨a, rfl⟩
    rcases htotal with hsucceeds | ⟨e, hfails⟩
    · exact hsucceeds
    · cases herror e hfails
  · -- It failed, and two different failures cannot both have been the case.
    rintro rfl
    rcases htotal with hsucceeds | ⟨e', hfails⟩
    · obtain ⟨a, ha⟩ := hok hsucceeds
      cases ha
    · cases herror e' hfails
      exact hfails

/-- A list is read back if every member is. -/
theorem mapM_map_eq_ok {read : β → Except ε α} {write : α → β} {list : List α}
    (hread : ∀ a ∈ list, read (write a) = .ok a) :
    (list.map write).mapM read = .ok list := by
  induction list with
  | nil => rfl
  | cons a rest ih =>
    rw [List.map_cons, List.mapM_cons, hread a (by simp),
      ih fun b hb => hread b (List.mem_cons_of_mem _ hb)]
    rfl

/-- A list that was read was read member by member. -/
theorem forall₂_of_mapM {read : β → Except ε α} {items : List β} {list : List α}
    (hread : items.mapM read = .ok list) :
    List.Forall₂ (fun item a => read item = .ok a) items list := by
  -- Each member is read before the rest.
  induction items generalizing list with
  | nil =>
    cases hread
    exact .nil
  | cons item rest ih =>
    rw [List.mapM_cons] at hread
    obtain ⟨a, ha, hread⟩ := bind_eq_ok.mp hread
    obtain ⟨others, hothers, hlist⟩ := bind_eq_ok.mp hread
    cases hlist
    exact .cons ha (ih hothers)

end Wallet
