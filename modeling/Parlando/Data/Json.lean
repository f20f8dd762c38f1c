import Parlando.Protocol

namespace Parlando

namespace Value

def isNull : Value → Bool
  | null => true
  | _ => false

def asObject? : Value → Option (List (String × Value))
  | object members => some members
  | _ => none

def asBool? : Value → Option Bool
  | bool value => some value
  | _ => none

def insertMember (key : String) (value : Value) : List (String × Value) → List (String × Value)
  | [] => [(key, value)]
  | (other, child) :: members =>
    if key = other then (key, value) :: members
    else if key < other then (key, value) :: (other, child) :: members
    else (other, child) :: insertMember key value members

def member? (members : List (String × Value)) (key : String) : Option Value :=
  (members.find? fun member => member.1 == key).map Prod.snd

theorem member?_cons (key key' : String) (value : Value) (members : List (String × Value)) :
    member? ((key, value) :: members) key' =
      if key = key' then some value else member? members key' := by
  rw [member?, List.find?_cons]
  split
  · rename_i same
    rw [if_pos (by simpa using same)]
    rfl
  · rename_i other
    rw [if_neg (by simpa using other)]
    rfl

theorem member?_insertMember (key key' : String) (value : Value)
    (members : List (String × Value)) :
    member? (insertMember key value members) key' =
      if key = key' then some value else member? members key' := by
  induction members with
  | nil => exact member?_cons key key' value []
  | cons member members ih =>
    obtain ⟨other, child⟩ := member
    rw [insertMember]
    split
    · rename_i same
      subst same
      rw [member?_cons, member?_cons]
      split <;> rfl
    · rename_i differ
      split
      · rw [member?_cons]
      · rw [member?_cons, member?_cons, ih]
        split
        · rename_i here
          rw [if_neg fun same => differ (same.trans here.symm)]
        · rfl

/-- Members in key order; their keys are distinct. -/
def sortMembers (members : List (String × Value)) : List (String × Value) :=
  members.foldr (fun member sorted => insertMember member.1 member.2 sorted) []

theorem member?_sortMembers (members : List (String × Value)) (key : String) :
    member? (sortMembers members) key = member? members key := by
  induction members with
  | nil => rfl
  | cons member members ih =>
    obtain ⟨other, child⟩ := member
    change member? (insertMember other child (sortMembers members)) key = _
    rw [member?_insertMember, member?_cons, ih]

def json (members : List (String × Value)) : Value := .object (sortMembers members)

theorem get?_object (members : List (String × Value)) (key : String) :
    (Value.object members).get? key = member? members key := rfl

theorem get?_json (members : List (String × Value)) (key : String) :
    (json members).get? key = member? members key :=
  member?_sortMembers members key

/-- The member under a key, `null` where there is none. -/
def index (value : Value) (key : String) : Value := (value.get? key).getD .null

theorem mem_insertMember {key : String} {value : Value} {members : List (String × Value)}
    {member : String × Value} (mem : member ∈ insertMember key value members) :
    member = (key, value) ∨ member ∈ members := by
  induction members with
  | nil => exact .inl (List.mem_singleton.mp mem)
  | cons first members ih =>
    obtain ⟨other, child⟩ := first
    rw [insertMember] at mem
    split at mem
    · exact (List.mem_cons.mp mem).imp_right (List.mem_cons_of_mem _)
    · split at mem
      · exact List.mem_cons.mp mem
      · rcases List.mem_cons.mp mem with here | later
        · exact .inr (here ▸ List.mem_cons_self ..)
        · exact (ih later).imp_right (List.mem_cons_of_mem _)

theorem mem_sortMembers {members : List (String × Value)} {member : String × Value}
    (mem : member ∈ sortMembers members) : member ∈ members := by
  induction members with
  | nil => exact mem
  | cons first members ih =>
    rcases mem_insertMember mem with here | later
    · exact here ▸ List.mem_cons_self ..
    · exact List.mem_cons_of_mem _ (ih later)

theorem insertMember_map {f : String → Value → Value} (key : String) (value : Value)
    (sorted : List (String × Value)) :
    insertMember key (f key value) (sorted.map fun member => (member.1, f member.1 member.2)) =
      (insertMember key value sorted).map fun member => (member.1, f member.1 member.2) := by
  induction sorted with
  | nil => rfl
  | cons first sorted ih =>
    obtain ⟨other, child⟩ := first
    rw [List.map_cons, insertMember, insertMember]
    split
    · rfl
    · split
      · rfl
      · rw [ih, List.map_cons]

/-- A change of the values alone commutes with the order of the keys. -/
theorem sortMembers_map {f : String → Value → Value} (members : List (String × Value)) :
    sortMembers (members.map fun member => (member.1, f member.1 member.2)) =
      (sortMembers members).map fun member => (member.1, f member.1 member.2) := by
  induction members with
  | nil => rfl
  | cons member members ih =>
    obtain ⟨key, child⟩ := member
    change insertMember key (f key child) (sortMembers (members.map _)) = _
    rw [ih, insertMember_map]
    rfl

theorem member?_map (f : String → Value → Value) (members : List (String × Value)) (key : String) :
    member? (members.map fun member => (member.1, f member.1 member.2)) key =
      (member? members key).map (f key) := by
  induction members with
  | nil => rfl
  | cons member members ih =>
    obtain ⟨other, child⟩ := member
    rw [List.map_cons, member?_cons, member?_cons, ih]
    by_cases here : other = key
    · rw [if_pos here, if_pos here, here]
      rfl
    · rw [if_neg here, if_neg here]

def rows (value : Value) (table : String) : List Value :=
  ((value.get? table).bind asArray?).getD []

def filterItems (keep : Value → Bool) : Value → Value
  | array items => array (items.filter keep)
  | value => value

def retain (table : String) (keep : Value → Bool) : Value → Value
  | object members => object (members.map fun member =>
      (member.1, if member.1 = table then filterItems keep member.2 else member.2))
  | value => value

theorem get?_retain (table table' : String) (keep : Value → Bool) (value : Value) :
    (retain table keep value).get? table' =
      if table' = table then (value.get? table').map (filterItems keep)
      else value.get? table' := by
  cases value with
  | object members =>
    rw [retain, get?_object, get?_object]
    induction members with
    | nil =>
      split <;> rfl
    | cons member members ih =>
      obtain ⟨key, child⟩ := member
      rw [List.map_cons, member?_cons, member?_cons, ih]
      by_cases here : key = table'
      · subst here
        by_cases same : key = table
        · simp [same]
        · simp [same]
      · simp [here]
  | null | bool _ | int _ | float _ | string _ | array _ =>
    change none = ite _ (Option.map _ none) none
    split <;> rfl

theorem rows_retain (table table' : String) (keep : Value → Bool) (value : Value) :
    (retain table keep value).rows table' =
      if table' = table then (value.rows table').filter keep else value.rows table' := by
  rw [rows, get?_retain]
  split
  · rw [rows]
    cases value.get? table' with
    | none => rfl
    | some child => cases child <;> rfl
  · rfl

mutual

/-- Whether two values are the same. -/
def same : Value → Value → Bool
  | null, null => true
  | bool value, bool other => value == other
  | int value, int other => value == other
  | float value, float other => value == other
  | string value, string other => value == other
  | array items, array others => sameItems items others
  | object members, object others => sameMembers members others
  | _, _ => false

def sameItems : List Value → List Value → Bool
  | [], [] => true
  | value :: items, other :: others => same value other && sameItems items others
  | _, _ => false

def sameMembers : List (String × Value) → List (String × Value) → Bool
  | [], [] => true
  | (key, value) :: members, (key', other) :: others =>
    key == key' && same value other && sameMembers members others
  | _, _ => false

end

mutual

theorem same_iff (value other : Value) : same value other = true ↔ value = other := by
  cases value with
  | array items =>
    cases other with
    | array others => simp [same, sameItems_iff items others]
    | _ => simp [same]
  | object members =>
    cases other with
    | object others => simp [same, sameMembers_iff members others]
    | _ => simp [same]
  | _ => cases other <;> simp [same]

theorem sameItems_iff (items others : List Value) :
    sameItems items others = true ↔ items = others := by
  cases items with
  | nil => cases others <;> simp [sameItems]
  | cons value items =>
    cases others with
    | nil => simp [sameItems]
    | cons other others => simp [sameItems, same_iff value other, sameItems_iff items others]

theorem sameMembers_iff (members others : List (String × Value)) :
    sameMembers members others = true ↔ members = others := by
  cases members with
  | nil => cases others <;> simp [sameMembers]
  | cons member members =>
    obtain ⟨key, value⟩ := member
    cases others with
    | nil => simp [sameMembers]
    | cons member others =>
      obtain ⟨key', other⟩ := member
      simp [sameMembers, same_iff value other, sameMembers_iff members others]

end

instance : DecidableEq Value := fun value other =>
  decidable_of_iff (same value other = true) (same_iff value other)

mutual

/-- Everything in the value that is neither a list nor an object has the property. -/
def Every (p : Value → Prop) : Value → Prop
  | .array items => EveryItem p items
  | .object members => EveryMember p members
  | value => p value

def EveryItem (p : Value → Prop) : List Value → Prop
  | [] => True
  | item :: items => Every p item ∧ EveryItem p items

def EveryMember (p : Value → Prop) : List (String × Value) → Prop
  | [] => True
  | (_, value) :: members => Every p value ∧ EveryMember p members

end

mutual

theorem Every.imp {p q : Value → Prop} (weaker : ∀ value, p value → q value) (value : Value)
    (every : value.Every p) : value.Every q := by
  match value with
  | .array items =>
    rw [Every] at every ⊢
    exact EveryItem.imp weaker items every
  | .object members =>
    rw [Every] at every ⊢
    exact EveryMember.imp weaker members every
  | .null | .bool _ | .int _ | .float _ | .string _ => exact weaker _ every

theorem EveryItem.imp {p q : Value → Prop} (weaker : ∀ value, p value → q value)
    (items : List Value) (every : EveryItem p items) : EveryItem q items := by
  match items with
  | [] => trivial
  | item :: items =>
    rw [EveryItem] at every ⊢
    exact ⟨Every.imp weaker item every.1, EveryItem.imp weaker items every.2⟩

theorem EveryMember.imp {p q : Value → Prop} (weaker : ∀ value, p value → q value)
    (members : List (String × Value)) (every : EveryMember p members) : EveryMember q members := by
  match members with
  | [] => trivial
  | (_, value) :: members =>
    rw [EveryMember] at every ⊢
    exact ⟨Every.imp weaker value every.1, EveryMember.imp weaker members every.2⟩

end

theorem Every.item {p : Value → Prop} {items : List Value} {item : Value}
    (every : EveryItem p items) (mem : item ∈ items) : item.Every p := by
  induction items with
  | nil => exact absurd mem List.not_mem_nil
  | cons first items ih =>
    rw [EveryItem] at every
    rcases List.mem_cons.mp mem with rfl | mem
    · exact every.1
    · exact ih every.2 mem

theorem Every.member {p : Value → Prop} {members : List (String × Value)} {key : String}
    {value : Value} (every : EveryMember p members) (found : member? members key = some value) :
    value.Every p := by
  induction members with
  | nil => cases found
  | cons member members ih =>
    obtain ⟨other, child⟩ := member
    obtain ⟨here, every⟩ := every
    rw [member?_cons] at found
    split at found
    · cases found
      exact here
    · exact ih every found

mutual

/-- The value that its text is read back as; a double may come back as a neighbour of itself. -/
def readBack (readDouble : Rat → Rat) : Value → Value
  | .float x => .float (readDouble x)
  | .array items => .array (readBackItems readDouble items)
  | .object members => .object (readBackMembers readDouble members)
  | value => value

def readBackItems (readDouble : Rat → Rat) : List Value → List Value
  | [] => []
  | item :: items => readBack readDouble item :: readBackItems readDouble items

def readBackMembers (readDouble : Rat → Rat) : List (String × Value) → List (String × Value)
  | [] => []
  | (key, value) :: members =>
    (key, readBack readDouble value) :: readBackMembers readDouble members

end

mutual

/-- The doubles of the value, in their order. -/
def doubles : Value → List Rat
  | .float x => [x]
  | .array items => itemDoubles items
  | .object members => memberDoubles members
  | _ => []

def itemDoubles : List Value → List Rat
  | [] => []
  | item :: items => doubles item ++ itemDoubles items

def memberDoubles : List (String × Value) → List Rat
  | [] => []
  | (_, value) :: members => doubles value ++ memberDoubles members

end

section

variable (f : Rat → Rat)

theorem readBackItems_eq_map (items : List Value) :
    readBackItems f items = items.map (readBack f) := by
  induction items with
  | nil => rfl
  | cons item items ih => rw [readBackItems, ih, List.map_cons]

theorem readBackMembers_eq_map (members : List (String × Value)) :
    readBackMembers f members = members.map fun member => (member.1, readBack f member.2) := by
  induction members with
  | nil => rfl
  | cons member members ih => rw [readBackMembers, ih, List.map_cons]

theorem get?_readBack (value : Value) (key : String) :
    (readBack f value).get? key = (value.get? key).map (readBack f) := by
  cases value with
  | object members =>
    rw [readBack, get?_object, get?_object, readBackMembers_eq_map]
    exact member?_map (fun _ => readBack f) members key
  | null | bool _ | int _ | float _ | string _ | array _ => rfl

theorem index_readBack (value : Value) (key : String) :
    (readBack f value).index key = readBack f (value.index key) := by
  rw [index, index, get?_readBack]
  cases value.get? key <;> rfl

theorem readBack_ofOption (value : Option Value) :
    readBack f (.ofOption value) = .ofOption (value.map (readBack f)) := by
  cases value <;> rfl

@[simp] theorem asStr?_readBack (value : Value) : (readBack f value).asStr? = value.asStr? := by
  cases value <;> rfl

@[simp] theorem asI64?_readBack (value : Value) : (readBack f value).asI64? = value.asI64? := by
  cases value <;> rfl

theorem asArray?_readBack (value : Value) :
    (readBack f value).asArray? = value.asArray?.map (List.map (readBack f)) := by
  cases value with
  | array items => exact congrArg some (readBackItems_eq_map f items)
  | null | bool _ | int _ | float _ | string _ | object _ => rfl

theorem asObject?_readBack (value : Value) :
    (readBack f value).asObject? = value.asObject?.map (readBackMembers f) := by
  cases value <;> rfl

mutual

/-- A value comes back from its text exactly if each of its doubles does. -/
theorem readBack_eq_self (value : Value) : readBack f value = value ↔ ∀ x ∈ value.doubles, f x = x := by
  match value with
  | .float x => simp [readBack, doubles]
  | .array items =>
    rw [readBack, doubles, Value.array.injEq]
    exact readBackItems_eq_self items
  | .object members =>
    rw [readBack, doubles, Value.object.injEq]
    exact readBackMembers_eq_self members
  | .null | .bool _ | .int _ | .string _ => simp [readBack, doubles]

theorem readBackItems_eq_self (items : List Value) :
    readBackItems f items = items ↔ ∀ x ∈ itemDoubles items, f x = x := by
  match items with
  | [] => simp [readBackItems, itemDoubles]
  | item :: items =>
    rw [readBackItems, itemDoubles, List.cons.injEq, readBack_eq_self item,
      readBackItems_eq_self items, List.forall_mem_append]

theorem readBackMembers_eq_self (members : List (String × Value)) :
    readBackMembers f members = members ↔ ∀ x ∈ memberDoubles members, f x = x := by
  match members with
  | [] => simp [readBackMembers, memberDoubles]
  | (key, value) :: members =>
    rw [readBackMembers, memberDoubles, List.cons.injEq, Prod.mk.injEq, readBack_eq_self value,
      readBackMembers_eq_self members, List.forall_mem_append]
    simp only [true_and]

end

end

/-- A number as `serde_json` holds one: `i64`, `u64` or a finite double. -/
def HeldNumber : Value → Prop
  | .int value => -2 ^ 63 ≤ value ∧ value < 2 ^ 64
  | .float value => IsDouble value
  | _ => True

end Value

end Parlando
