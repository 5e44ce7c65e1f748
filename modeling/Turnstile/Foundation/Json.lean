import Mathlib.Data.Int.Notation
import Mathlib.Data.List.Basic
import Mathlib.Tactic.Common

/-!
# JSON values

What `json.loads` returns, as Python reads and writes it.  A dictionary is the list of its
fields in the order of their insertion.
-/

namespace Turnstile

/-- A value that `json.loads` returns. -/
inductive Json (Number : Type) where
  | null
  | bool (value : Bool)
  | number (value : Number)
  | text (value : String)
  | array (items : List (Json Number))
  | object (fields : List (String × Json Number))

/-- A number of a JSON text: an `int`, or a float `F`. -/
inductive Numeral (F : Type) where
  | int (value : ℤ)
  | float (value : F)

namespace Json

variable {Number : Type}

/-- `fields.get(key)`, with null for a missing key: of equal keys the last one counts. -/
def get (fields : List (String × Json Number)) (key : String) : Json Number :=
  ((fields.reverse.find? fun field => field.1 = key).map (·.2)).getD .null

/-- `value is not None`. -/
def present : Json Number → Bool
  | .null => false
  | _ => true

/-- `isinstance(value, dict)`. -/
def fields? : Json Number → Option (List (String × Json Number))
  | .object fields => some fields
  | _ => none

/-- `key in fields`. -/
def hasKey (fields : List (String × Json Number)) (key : String) : Bool :=
  fields.any fun field => field.1 = key

/-- `fields.get(key, default)`. -/
def getD (fields : List (String × Json Number)) (key : String) (default : Json Number) :
    Json Number :=
  if hasKey fields key then get fields key else default

/-- `fields[key] = value`. -/
def set (fields : List (String × Json Number)) (key : String) (value : Json Number) :
    List (String × Json Number) :=
  if hasKey fields key then fields.map fun field => if field.1 = key then (key, value) else field
  else fields ++ [(key, value)]

/-- What a loop over a value goes through; a value of another type raises `TypeError`. -/
def items? : Json Number → Option (List (Json Number))
  | .array items => some items
  | .object fields => some (fields.map fun field => .text field.1)
  | .text value => some (value.toList.map fun c => .text (String.singleton c))
  | _ => none

/-! ## Updates -/

theorem hasKey_set_self (fields : List (String × Json Number)) (key : String)
    (value : Json Number) : hasKey (set fields key value) key = true := by
  unfold set
  split
  next h =>
    obtain ⟨field, hfield, hkey⟩ := List.any_eq_true.1 h
    refine List.any_eq_true.2 ⟨(key, value), List.mem_map.2 ⟨field, hfield, ?_⟩, by simp⟩
    rw [if_pos (of_decide_eq_true hkey)]
  next => simp [hasKey]

theorem get_set_self (fields : List (String × Json Number)) (key : String) (value : Json Number) :
    get (set fields key value) key = value := by
  unfold set
  split
  next h =>
    -- The last field with the key is among those that were replaced.
    unfold get
    cases hfind :
      (fields.map fun field => if field.1 = key then (key, value) else field).reverse.find?
        (fun field => field.1 = key) with
    | none =>
        obtain ⟨field, hfield, hkey⟩ := List.any_eq_true.1 h
        have hnone := List.find?_eq_none.1 hfind (key, value)
          (List.mem_reverse.2 (List.mem_map.2 ⟨field, hfield, if_pos (of_decide_eq_true hkey)⟩))
        exact absurd hnone (by simp)
    | some found =>
        have hkey : found.1 = key := by simpa using List.find?_some hfind
        obtain ⟨field, -, hfield⟩ := List.mem_map.1
          (List.mem_reverse.1 (List.mem_of_find?_eq_some hfind))
        by_cases hreplaced : field.1 = key
        · rw [if_pos hreplaced] at hfield
          rw [← hfield]
          rfl
        · rw [if_neg hreplaced] at hfield
          rw [hfield] at hreplaced
          exact absurd hkey hreplaced
  next => simp [get]

theorem get_set_of_ne {key other : String} (h : other ≠ key) (fields : List (String × Json Number))
    (value : Json Number) : get (set fields key value) other = get fields other := by
  unfold set
  split
  next =>
    unfold get
    congr 2
    rw [← List.map_reverse, List.find?_map]
    have hpredicate : ((fun field : String × Json Number => decide (field.1 = other)) ∘
        fun field => if field.1 = key then (key, value) else field)
          = fun field => decide (field.1 = other) := by
      funext field
      dsimp only [Function.comp]
      split
      next hkey => rw [hkey]
      next => rfl
    rw [hpredicate]
    cases hfind : fields.reverse.find? fun field => decide (field.1 = other) with
    | none => rfl
    | some found =>
        have hother : found.1 = other := by simpa using List.find?_some hfind
        rw [Option.map_some, if_neg (fun hkey => h (hother.symm.trans hkey))]
  next =>
    unfold get
    rw [List.reverse_append, List.reverse_singleton, List.singleton_append, List.find?_cons_of_neg]
    simpa using Ne.symm h

/-- A key is there, with one value. -/
structure Assigned (fields : List (String × Json Number)) (key : String) (value : Json Number) :
    Prop where
  hasKey : hasKey fields key = true
  value : ∀ field ∈ fields, field.1 = key → field.2 = value

theorem assigned_set (fields : List (String × Json Number)) (key : String) (value : Json Number) :
    Assigned (set fields key value) key value := by
  refine ⟨hasKey_set_self fields key value, fun field hfield hkey => ?_⟩
  unfold set at hfield
  split at hfield
  next =>
    obtain ⟨old, -, rfl⟩ := List.mem_map.1 hfield
    by_cases hold : old.1 = key
    · rw [if_pos hold]
    · rw [if_neg hold] at hkey
      exact absurd hkey hold
  next hmissing =>
    rcases List.mem_append.1 hfield with hfield | hfield
    · exact absurd (List.any_eq_true.2 ⟨field, hfield, decide_eq_true hkey⟩) hmissing
    · rw [List.mem_singleton.1 hfield]

theorem Assigned.set_other {fields : List (String × Json Number)} {key other : String}
    {value : Json Number} (h : Assigned fields key value) (hne : key ≠ other)
    (written : Json Number) : Assigned (set fields other written) key value := by
  obtain ⟨field, hfield, hkey⟩ := List.any_eq_true.1 h.hasKey
  have hfieldKey : field.1 = key := of_decide_eq_true hkey
  unfold Json.set
  split
  next =>
    refine ⟨List.any_eq_true.2 ⟨field, List.mem_map.2 ⟨field, hfield, ?_⟩, hkey⟩,
      fun field' hfield' hkey' => ?_⟩
    · rw [if_neg fun heq => hne (hfieldKey.symm.trans heq)]
    · obtain ⟨old, hold, rfl⟩ := List.mem_map.1 hfield'
      by_cases hother : old.1 = other
      · rw [if_pos hother] at hkey'
        exact absurd hkey'.symm hne
      · rw [if_neg hother] at hkey' ⊢
        exact h.value old hold hkey'
  next =>
    refine ⟨List.any_eq_true.2 ⟨field, List.mem_append_left _ hfield, hkey⟩,
      fun field' hfield' hkey' => ?_⟩
    rcases List.mem_append.1 hfield' with hfield' | hfield'
    · exact h.value field' hfield' hkey'
    · rw [List.mem_singleton.1 hfield'] at hkey'
      exact absurd hkey'.symm hne

/-- Writing a value that is there changes nothing. -/
theorem Assigned.set_eq {fields : List (String × Json Number)} {key : String} {value : Json Number}
    (h : Assigned fields key value) : set fields key value = fields := by
  unfold Json.set
  rw [if_pos h.hasKey]
  conv_rhs => rw [← List.map_id fields]
  refine List.map_congr_left fun field hfield => ?_
  split
  next hkey => rw [← hkey, ← h.value field hfield hkey, id]
  next => rfl

end Json

end Turnstile

