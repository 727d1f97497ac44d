import Wallet.Json.Value

/-!
# Looking up the fields of an object

An object built by `ofFields` keeps its fields in the order of their names, but nothing that is
read off it depends on that order: looking a name up gives the value it was listed with, provided
that the names are distinct (`field?_collected`).

The second part says that numbers are read as they were written, as long as they fit, and the
third that what was read as a number, a string or a list was just that.
-/

namespace Wallet.Json

/-! ## §1. Look-up -/

@[simp] theorem field?_nil (name : String) : field? [] name = none := rfl

theorem field?_cons (name : String) (field : String × Json) (fields : List (String × Json)) :
    field? (field :: fields) name =
      if field.1 = name then some field.2 else field? fields name := by
  by_cases hname : field.1 = name <;> simp [field?, hname]

theorem field?_append (f g : List (String × Json)) (name : String) :
    field? (f ++ g) name = (field? f name).or (field? g name) := by
  simp [field?, List.find?_append, Option.map_or]

/-- Giving a field a value changes what that field holds and nothing else. -/
theorem field?_insertField (name other : String) (value : Json)
    (fields : List (String × Json)) :
    field? (insertField name value fields) other =
      if name = other then some value else field? fields other := by
  induction fields with
  | nil => simp [insertField, field?_cons]
  | cons field rest ih =>
    obtain ⟨key, kept⟩ := field
    -- The name goes in front of a later one, replaces itself, or goes further down.
    rw [insertField]
    split
    · rw [field?_cons]
    · split
      · next hkey =>
        subst hkey
        by_cases hname : name = other <;> simp [field?_cons, hname]
      · next hkey =>
        rw [field?_cons, field?_cons, ih]
        by_cases hname : name = other
        · subst hname
          simp [Ne.symm hkey]
        · simp [hname]

/-- Of the values given to a name, the last counts. -/
theorem field?_foldl_insertField (fields done : List (String × Json)) (name : String) :
    field? (fields.foldl (fun done field => insertField field.1 field.2 done) done) name =
      (field? fields.reverse name).or (field? done name) := by
  -- What a field is given later stands in front of the rest in the reversed list.
  induction fields generalizing done with
  | nil => simp
  | cons field rest ih =>
    rw [List.foldl_cons, ih, field?_insertField, List.reverse_cons]
    simp only [field?, List.find?_append, List.find?_singleton, Option.map_or, Option.or_assoc]
    by_cases hname : field.1 = name <;> simp [hname]

theorem field?_eq_none {fields : List (String × Json)} {name : String}
    (hname : name ∉ fields.map Prod.fst) : field? fields name = none := by
  induction fields with
  | nil => rfl
  | cons field rest ih =>
    simp only [List.map_cons, List.mem_cons, not_or] at hname
    rw [field?_cons, if_neg (Ne.symm hname.1), ih hname.2]

/-- If names are distinct, a field holds what it is listed with. -/
theorem field?_eq_some {fields : List (String × Json)} {name : String} {value : Json}
    (hnodup : (fields.map Prod.fst).Nodup) (hmem : (name, value) ∈ fields) :
    field? fields name = some value := by
  induction fields with
  | nil => simp at hmem
  | cons field rest ih =>
    simp only [List.map_cons, List.nodup_cons] at hnodup
    rw [field?_cons]
    rcases List.mem_cons.mp hmem with hhere | hthere
    · rw [← hhere, if_pos rfl]
    · -- The name occurs once, so the field in front has another.
      have hne : field.1 ≠ name := by
        rintro rfl
        exact hnodup.1 (List.mem_map.mpr ⟨_, hthere, rfl⟩)
      rw [if_neg hne, ih hnodup.2 hthere]

theorem mem_of_field?_eq_some {fields : List (String × Json)} {name : String} {value : Json}
    (hfield : field? fields name = some value) : (name, value) ∈ fields := by
  obtain ⟨field, hfind, rfl⟩ := Option.map_eq_some_iff.mp hfield
  have hname : field.1 = name := by simpa using List.find?_some hfind
  rw [← hname]
  exact List.mem_of_find?_eq_some hfind

/-- With distinct names, the order does not matter. -/
theorem field?_reverse {fields : List (String × Json)} (hnodup : (fields.map Prod.fst).Nodup)
    (name : String) : field? fields.reverse name = field? fields name := by
  cases hfield : field? fields name with
  | none =>
    have hname : name ∉ fields.map Prod.fst := by
      intro hmem
      obtain ⟨field, hfield', rfl⟩ := List.mem_map.mp hmem
      simp [field?_eq_some hnodup hfield'] at hfield
    exact field?_eq_none (by simpa using hname)
  | some value =>
    refine field?_eq_some ?_ ?_
    · rw [List.map_reverse]
      exact List.pairwise_reverse.mpr (hnodup.imp Ne.symm)
    · exact List.mem_reverse.mpr (mem_of_field?_eq_some hfield)

/-- The fields of an object built by `ofFields`. -/
def collected (fields : List (String × Json)) : List (String × Json) :=
  fields.foldl (fun done field => insertField field.1 field.2 done) []

@[simp] theorem asObject?_ofFields (fields : List (String × Json)) :
    (ofFields fields).asObject? = some (collected fields) := rfl

/-- Sorting the fields of an object does not change what they hold. -/
theorem field?_collected {fields : List (String × Json)}
    (hnodup : (fields.map Prod.fst).Nodup) (name : String) :
    field? (collected fields) name = field? fields name := by
  rw [collected, field?_foldl_insertField, field?_reverse hnodup]
  simp

/-! ## §2. Numbers -/

@[simp] theorem asUnsigned?_natural (n : UInt64) : (natural n.toNat).asUnsigned? = some n := by
  have hn := n.toNat_lt
  simp [natural, asUnsigned?, UInt64.size]
  omega

theorem asSigned?_integer {i : Int} (hlow : Int64.minValue.toInt ≤ i)
    (hhigh : i ≤ Int64.maxValue.toInt) : (integer i).asSigned? = some (Int64.ofInt i) := by
  rw [integer, asSigned?, if_pos ⟨hlow, hhigh⟩]

/-- A number that fits 64 bits keeps its value. -/
theorem toInt_ofInt {i : Int} (hlow : Int64.minValue.toInt ≤ i)
    (hhigh : i ≤ Int64.maxValue.toInt) : (Int64.ofInt i).toInt = i :=
  Int64.toInt_ofInt_of_le hlow (Int.lt_add_one_of_le hhigh)

@[simp] theorem isNull_natural (n : Nat) : (natural n).isNull = false := by
  simp [natural, isNull]

@[simp] theorem isNull_integer (i : Int) : (integer i).isNull = false := by
  simp [integer, isNull]

@[simp] theorem isNull_string (s : String) : (string s).isNull = false := by
  simp [isNull]

@[simp] theorem isNull_array (items : List Json) : (array items).isNull = false := by
  simp [isNull]

/-! ## §3. What was read as a number, a string or a list -/

section Read

variable {v : Json}

theorem eq_natural_of_asUnsigned? {n : UInt64} (hread : v.asUnsigned? = some n) :
    v = natural n.toNat := by
  unfold asUnsigned? at hread
  split at hread
  · next i =>
    split at hread
    · next hrange =>
      cases hread
      -- The number fits, so nothing of it is cut off.
      have hlt : i.toNat < UInt64.size := by omega
      rw [UInt64.toNat_ofNat_of_lt' hlt, natural, Int.toNat_of_nonneg hrange.1]
    · cases hread
  · cases hread

theorem eq_integer_of_asSigned? {n : Int64} (hread : v.asSigned? = some n) :
    v = integer n.toInt := by
  unfold asSigned? at hread
  split at hread
  · split at hread
    · next hrange =>
      cases hread
      rw [toInt_ofInt hrange.1 hrange.2, integer]
    · cases hread
  · cases hread

theorem eq_string_of_asString? {text : String} (hread : v.asString? = some text) :
    v = string text := by
  cases v with
  | string s => rw [Option.some.inj hread]
  | _ => cases hread

theorem eq_array_of_asArray? {items : List Json} (hread : v.asArray? = some items) :
    v = array items := by
  cases v with
  | array list => rw [Option.some.inj hread]
  | _ => cases hread

theorem eq_object_of_asObject? {fields : List (String × Json)}
    (hread : v.asObject? = some fields) : v = object fields := by
  cases v with
  | object list => rw [Option.some.inj hread]
  | _ => cases hread

end Read

end Wallet.Json
