import Parlando.Data.Json

namespace Parlando

namespace Value

/-- The members of an object as an ordered map holds them. -/
def Ordered (members : List (String × Value)) : Prop :=
  members.Pairwise fun member other => member.1 < other.1

theorem Ordered.insertMember {key : String} {value : Value} {members : List (String × Value)}
    (ordered : Ordered members) : Ordered (insertMember key value members) := by
  induction members with
  | nil => exact List.pairwise_singleton _ _
  | cons first members ih =>
    obtain ⟨other, child⟩ := first
    obtain ⟨below, rest⟩ := List.pairwise_cons.mp ordered
    rw [Value.insertMember]
    split
    · rename_i same
      subst same
      exact List.pairwise_cons.mpr ⟨below, rest⟩
    · rename_i differ
      split
      · rename_i before
        refine List.pairwise_cons.mpr ⟨fun member mem => ?_, ordered⟩
        rcases List.mem_cons.mp mem with here | later
        · exact here ▸ before
        · exact String.lt_trans before (below member later)
      · rename_i after
        refine List.pairwise_cons.mpr ⟨fun member mem => ?_, ih rest⟩
        rcases mem_insertMember mem with here | later
        · subst here
          exact String.not_le.mp fun le => differ (String.le_antisymm le (String.not_lt.mp after))
        · exact below member later

theorem ordered_sortMembers (members : List (String × Value)) : Ordered (sortMembers members) := by
  induction members with
  | nil => exact List.Pairwise.nil
  | cons member members ih => exact ih.insertMember

theorem sortMembers_of_ordered {members : List (String × Value)} (ordered : Ordered members) :
    sortMembers members = members := by
  induction members with
  | nil => rfl
  | cons member members ih =>
    obtain ⟨key, value⟩ := member
    obtain ⟨below, rest⟩ := List.pairwise_cons.mp ordered
    change insertMember key value (sortMembers members) = _
    rw [ih rest]
    cases members with
    | nil => rfl
    | cons next members =>
      obtain ⟨other, child⟩ := next
      have before : key < other := below _ List.mem_cons_self
      have differ : key ≠ other := fun same => String.lt_irrefl other (same ▸ before)
      rw [insertMember, if_neg differ, if_pos before]

mutual

/-- Recursively sorts JSON object keys while preserving array order. -/
def canonicalValue : Value → Value
  | .object members => .object (sortMembers (canonicalMembers members))
  | .array items => .array (canonicalItems items)
  | value => value

def canonicalMembers : List (String × Value) → List (String × Value)
  | [] => []
  | (key, value) :: members => (key, canonicalValue value) :: canonicalMembers members

def canonicalItems : List Value → List Value
  | [] => []
  | value :: items => canonicalValue value :: canonicalItems items

end

theorem canonicalMembers_eq (members : List (String × Value)) :
    canonicalMembers members = members.map fun member => (member.1, canonicalValue member.2) := by
  induction members with
  | nil => rfl
  | cons member members ih => rw [canonicalMembers, ih, List.map_cons]

theorem sortMembers_canonicalMembers (members : List (String × Value)) :
    sortMembers (canonicalMembers members) = canonicalMembers (sortMembers members) := by
  rw [canonicalMembers_eq, canonicalMembers_eq]
  exact sortMembers_map (f := fun _ => canonicalValue) members

mutual

/-- The canonical form of a canonical value is the value itself. -/
theorem canonicalValue_idem (value : Value) :
    canonicalValue (canonicalValue value) = canonicalValue value := by
  cases value with
  | object members =>
    rw [canonicalValue, canonicalValue, ← sortMembers_canonicalMembers (canonicalMembers members),
      canonicalMembers_idem members, sortMembers_of_ordered (ordered_sortMembers _)]
  | array items => rw [canonicalValue, canonicalValue, canonicalItems_idem items]
  | null | bool _ | int _ | float _ | string _ => simp [canonicalValue]

theorem canonicalMembers_idem (members : List (String × Value)) :
    canonicalMembers (canonicalMembers members) = canonicalMembers members := by
  cases members with
  | nil => rfl
  | cons member members =>
    obtain ⟨key, value⟩ := member
    rw [canonicalMembers, canonicalMembers, canonicalValue_idem value,
      canonicalMembers_idem members]

theorem canonicalItems_idem (items : List Value) :
    canonicalItems (canonicalItems items) = canonicalItems items := by
  cases items with
  | nil => rfl
  | cons value items =>
    rw [canonicalItems, canonicalItems, canonicalValue_idem value, canonicalItems_idem items]

end

/-- Members are looked up in the canonical form as in the value. -/
theorem get?_canonicalValue (value : Value) (key : String) :
    (canonicalValue value).get? key = (value.get? key).map canonicalValue := by
  cases value with
  | object members =>
    rw [canonicalValue, get?_object, member?_sortMembers, get?_object]
    induction members with
    | nil => rfl
    | cons member members ih =>
      obtain ⟨other, child⟩ := member
      rw [canonicalMembers, member?_cons, member?_cons, ih]
      split <;> rfl
  | array _ | null | bool _ | int _ | float _ | string _ => rfl

/-- What two objects with one canonical form have under a key has one canonical form. -/
theorem canonicalValue_member {members others : List (String × Value)} {value other : Value}
    (same : canonicalValue (json members) = canonicalValue (json others)) (key : String)
    (here : member? members key = some value) (there : member? others key = some other) :
    canonicalValue value = canonicalValue other := by
  have looked := congrArg (·.get? key) same
  simp only [get?_canonicalValue, get?_json, here, there, Option.map_some] at looked
  exact Option.some.inj looked

end Value

/-- A value as a program holds it that keeps the members of objects in key order. -/
structure JsonValue where
  value : Value
  ordered : value.canonicalValue = value
  deriving DecidableEq

namespace JsonValue

def of (value : Value) : JsonValue := ⟨value.canonicalValue, value.canonicalValue_idem⟩

theorem eq_of_canonical {json other : JsonValue}
    (same : json.value.canonicalValue = other.value.canonicalValue) : json = other := by
  obtain ⟨value, ordered⟩ := json
  obtain ⟨value', ordered'⟩ := other
  obtain rfl : value = value' := ordered.symm.trans (same.trans ordered')
  rfl

end JsonValue

end Parlando
