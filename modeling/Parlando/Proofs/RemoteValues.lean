import Mathlib.Tactic.NormNum
import Parlando.Data.Except
import Parlando.RemoteValues

namespace Parlando

namespace Value

mutual

/-- The value with each number as the rational it denotes. -/
def numeric : Value → Value
  | .int value => .float value
  | .array items => .array (numericItems items)
  | .object members => .object (numericMembers members)
  | value => value

def numericItems : List Value → List Value
  | [] => []
  | item :: items => numeric item :: numericItems items

def numericMembers : List (String × Value) → List (String × Value)
  | [] => []
  | (key, value) :: members => (key, numeric value) :: numericMembers members

end

end Value

namespace ProstValue

mutual

/-- The value with each null and each unset kind as the one null that the server writes. -/
def settled : ProstValue → ProstValue
  | .unset | .nullValue _ => .nullValue 0
  | .listValue values => .listValue (settledItems values)
  | .structValue fields => .structValue (settledFields fields)
  | value => value

def settledItems : List ProstValue → List ProstValue
  | [] => []
  | value :: values => settled value :: settledItems values

def settledFields : List (String × ProstValue) → List (String × ProstValue)
  | [] => []
  | (key, value) :: fields => (key, settled value) :: settledFields fields

end

mutual

/-- Every number in the value has the property. -/
def EveryNumber (p : Float64 → Prop) : ProstValue → Prop
  | .numberValue value => p value
  | .listValue values => EveryNumberItem p values
  | .structValue fields => EveryNumberField p fields
  | _ => True

def EveryNumberItem (p : Float64 → Prop) : List ProstValue → Prop
  | [] => True
  | value :: values => EveryNumber p value ∧ EveryNumberItem p values

def EveryNumberField (p : Float64 → Prop) : List (String × ProstValue) → Prop
  | [] => True
  | (_, value) :: fields => EveryNumber p value ∧ EveryNumberField p fields

end

end ProstValue

def Float64.IsFinite : Float64 → Prop
  | .finite _ => True
  | .infinity _ | .nan => False

/-- A number that comes back from JSON: no whole number from `2 ^ 53` to `2 ^ 63`, of either sign. -/
def Float64.Returns : Float64 → Prop
  | .finite value => value.den = 1 → |value| < 2 ^ 53 ∨ 2 ^ 63 < |value|
  | .infinity _ | .nan => True

theorem ofInt_minI64 : Double.ofInt (-2 ^ 63) = -2 ^ 63 := by decide +kernel

/-- The greatest `i64` has no double of its own: it is rounded up. -/
theorem ofInt_maxI64 : Double.ofInt (2 ^ 63 - 1) = 2 ^ 63 := by decide +kernel

theorem exceedsExactRange_iff {n : Int} (held : -2 ^ 63 ≤ n ∧ n < 2 ^ 64) :
    exceedsExactRange n = false ↔ n.natAbs < 2 ^ 53 := by
  unfold exceedsExactRange asI64 asU64 maxExactInteger
  split
  · rename_i integer signed
    split at signed <;> cases signed
    simp only [decide_eq_false_iff_not, not_lt]
    omega
  · rename_i signed
    split at signed <;> cases signed
    rename_i large
    rw [if_pos (by omega)]
    simp only [decide_eq_false_iff_not, not_lt]
    omega

theorem exceedsExactRange_of_lt {n : Int} (small : n.natAbs < 2 ^ 53) : exceedsExactRange n = false :=
  (exceedsExactRange_iff (by omega)).mpr small

theorem numberToJson_whole {x : Rat} (whole : x.den = 1) (low : -2 ^ 63 ≤ x) (high : x ≤ 2 ^ 63) :
    numberToJson (.finite x) = .int (castI64 x.num) := by
  rw [numberToJson, ofInt_minI64, ofInt_maxI64, if_pos]
  push_cast
  exact ⟨whole, low, high⟩

theorem numberToJson_other {x : Rat} (other : ¬(x.den = 1 ∧ -2 ^ 63 ≤ x ∧ x ≤ 2 ^ 63)) :
    numberToJson (.finite x) = .float x := by
  rw [numberToJson, ofInt_minI64, ofInt_maxI64, if_neg]
  push_cast
  exact other

/-- A whole number is its numerator. -/
theorem exists_whole {x : Rat} (whole : x.den = 1) : ∃ n : Int, x = n ∧ x.num = n :=
  ⟨x.num, (Rat.den_eq_one_iff x).mp whole |>.symm, rfl⟩

/-- A double comes back as the same number unless the cast to `i64` saturates. -/
theorem numeric_numberToJson_iff {x : Rat} :
    (numberToJson (.finite x)).numeric = .float x ↔ x ≠ 2 ^ 63 := by
  by_cases whole : x.den = 1 ∧ -2 ^ 63 ≤ x ∧ x ≤ 2 ^ 63
  · obtain ⟨whole, low, high⟩ := whole
    rw [numberToJson_whole whole low high]
    obtain ⟨n, rfl, num⟩ := exists_whole whole
    have low : -2 ^ 63 ≤ n := by exact_mod_cast low
    have high : n ≤ 2 ^ 63 := by exact_mod_cast high
    rw [num, Value.numeric, Value.float.injEq]
    have limit : ((n : Rat) ≠ 2 ^ 63) ↔ n ≠ 2 ^ 63 := not_congr (by exact_mod_cast Iff.rfl)
    rw [limit, Int.cast_inj]
    unfold castI64
    omega
  · rw [numberToJson_other whole]
    refine ⟨fun _ same => whole ?_, fun _ => rfl⟩
    subst same
    exact ⟨rfl, by norm_num, le_refl _⟩

/-- A double of a message is taken again where it is below the integers that are refused. -/
theorem returns_iff {x : Rat} :
    (∃ q, jsonToProst (numberToJson (.finite x)) = .ok q ∧
      q.settled = .numberValue (.finite x)) ↔ (Float64.finite x).Returns := by
  by_cases whole : x.den = 1 ∧ -2 ^ 63 ≤ x ∧ x ≤ 2 ^ 63
  · obtain ⟨whole, low, high⟩ := whole
    rw [numberToJson_whole whole low high]
    obtain ⟨n, rfl, num⟩ := exists_whole whole
    have low : -2 ^ 63 ≤ n := by exact_mod_cast low
    have high : n ≤ 2 ^ 63 := by exact_mod_cast high
    have held : -2 ^ 63 ≤ castI64 n ∧ castI64 n < 2 ^ 64 := by
      unfold castI64
      omega
    have returns : (Float64.finite n).Returns ↔ n.natAbs < 2 ^ 53 := by
      have size : |(n : Rat)| ≤ 2 ^ 63 := abs_le.mpr ⟨by exact_mod_cast low, by exact_mod_cast high⟩
      have cast : |(n : Rat)| < 2 ^ 53 ↔ n.natAbs < 2 ^ 53 := by
        rw [← Int.cast_abs, Int.abs_eq_natAbs]
        exact_mod_cast Iff.rfl
      rw [← cast]
      exact ⟨fun h => (h whole).resolve_right (not_lt.mpr size), fun h _ => .inl h⟩
    rw [returns, num, jsonToProst]
    constructor
    · rintro ⟨q, taken, -⟩
      split at taken
      · cases taken
      · rename_i exact'
        have small := (exceedsExactRange_iff held).mp (by simpa using exact')
        unfold castI64 at small
        omega
    · intro small
      have same : castI64 n = n := by
        unfold castI64
        omega
      rw [same, exceedsExactRange_of_lt small, Double.ofInt_of_lt (by omega)]
      exact ⟨_, rfl, rfl⟩
  · rw [numberToJson_other whole]
    refine ⟨fun _ integer => ?_, fun _ => ⟨_, rfl, rfl⟩⟩
    by_contra small
    push Not at small
    exact whole ⟨integer, abs_le.mp small.2⟩

section There

variable {v : Value} {p : ProstValue}

theorem itemsToProst_cons {item : Value} {items : List Value} {ps : List ProstValue}
    (h : itemsToProst (item :: items) = .ok ps) :
    ∃ q qs, jsonToProst item = .ok q ∧ itemsToProst items = .ok qs ∧ ps = q :: qs := by
  obtain ⟨q, head, h⟩ := Except.of_bind_ok h
  obtain ⟨qs, tail, h⟩ := Except.of_bind_ok h
  cases h
  exact ⟨q, qs, head, tail, rfl⟩

theorem membersToProst_cons {key : String} {value : Value} {members : List (String × Value)}
    {ps : List (String × ProstValue)} (h : membersToProst ((key, value) :: members) = .ok ps) :
    ∃ q qs, jsonToProst value = .ok q ∧ membersToProst members = .ok qs ∧ ps = (key, q) :: qs := by
  obtain ⟨q, head, h⟩ := Except.of_bind_ok h
  obtain ⟨qs, tail, h⟩ := Except.of_bind_ok h
  cases h
  exact ⟨q, qs, head, tail, rfl⟩

mutual

/-- What a JSON value becomes says the same unless it holds the one double that saturates. -/
theorem numeric_prostToJson_iff {v : Value} {p : ProstValue} (held : v.Every Value.HeldNumber)
    (h : jsonToProst v = .ok p) :
    (prostToJson p).numeric = v.numeric ↔ v.Every (· ≠ .float (2 ^ 63)) := by
  cases v with
  | int n =>
    rw [jsonToProst] at h
    split at h
    · cases h
    · rename_i inexact
      cases h
      have small := (exceedsExactRange_iff held).mp (by simpa using inexact)
      rw [Double.ofInt_of_lt (by omega), prostToJson]
      simp only [Value.numeric, Value.Every, ne_eq, reduceCtorEq, not_false_eq_true, iff_true]
      rw [numeric_numberToJson_iff]
      intro same
      have : n = 2 ^ 63 := by exact_mod_cast same
      omega
  | float x =>
    cases h
    simpa [Value.Every, Value.numeric, prostToJson] using numeric_numberToJson_iff (x := x)
  | array items =>
    obtain ⟨ps, items', h⟩ := Except.of_bind_ok h
    cases h
    simp only [prostToJson, Value.numeric, Value.array.injEq, Value.Every]
    exact numeric_itemsToJson_iff held items'
  | object members =>
    obtain ⟨ps, members', h⟩ := Except.of_bind_ok h
    cases h
    simp only [prostToJson, Value.numeric, Value.object.injEq, Value.Every]
    exact numeric_fieldsToJson_iff held members'
  | null | bool _ | string _ =>
    cases h
    simp [prostToJson, Value.numeric, Value.Every]

theorem numeric_itemsToJson_iff {items : List Value} {ps : List ProstValue}
    (held : Value.EveryItem Value.HeldNumber items) (h : itemsToProst items = .ok ps) :
    Value.numericItems (itemsToJson ps) = Value.numericItems items ↔
      Value.EveryItem (· ≠ .float (2 ^ 63)) items := by
  cases items with
  | nil =>
    cases h
    simp [itemsToJson, Value.EveryItem]
  | cons item items =>
    obtain ⟨q, qs, head, tail, rfl⟩ := itemsToProst_cons h
    rw [itemsToJson, Value.numericItems, Value.numericItems, List.cons.injEq, Value.EveryItem,
      numeric_prostToJson_iff held.1 head, numeric_itemsToJson_iff held.2 tail]

theorem numeric_fieldsToJson_iff {members : List (String × Value)}
    {ps : List (String × ProstValue)} (held : Value.EveryMember Value.HeldNumber members)
    (h : membersToProst members = .ok ps) :
    Value.numericMembers (fieldsToJson ps) = Value.numericMembers members ↔
      Value.EveryMember (· ≠ .float (2 ^ 63)) members := by
  cases members with
  | nil =>
    cases h
    simp [fieldsToJson, Value.EveryMember]
  | cons member members =>
    obtain ⟨key, value⟩ := member
    obtain ⟨q, qs, head, tail, rfl⟩ := membersToProst_cons h
    rw [fieldsToJson, Value.numericMembers, Value.numericMembers, List.cons.injEq,
      Value.EveryMember, Prod.mk.injEq, numeric_prostToJson_iff held.1 head,
      numeric_fieldsToJson_iff held.2 tail]
    simp

end

end There

mutual

/-- A value that a message holds is taken again and says the same where each number returns. -/
theorem jsonToProst_prostToJson_iff {p : ProstValue} (finite : p.EveryNumber Float64.IsFinite) :
    (∃ q, jsonToProst (prostToJson p) = .ok q ∧ q.settled = p.settled) ↔
      p.EveryNumber Float64.Returns := by
  cases p with
  | numberValue x =>
    cases x with
    | finite x => exact returns_iff
    | infinity | nan => cases finite
  | listValue values =>
    have items := itemsToProst_itemsToJson_iff finite
    rw [ProstValue.EveryNumber, ← items, prostToJson, ProstValue.settled]
    constructor
    · rintro ⟨q, taken, same⟩
      obtain ⟨qs, inside, h⟩ := Except.of_bind_ok taken
      cases h
      exact ⟨qs, inside, ProstValue.listValue.inj same⟩
    · rintro ⟨qs, taken, same⟩
      exact ⟨.listValue qs, by rw [jsonToProst, taken]; rfl, by rw [ProstValue.settled, same]⟩
  | structValue fields =>
    have members := membersToProst_fieldsToJson_iff finite
    rw [ProstValue.EveryNumber, ← members, prostToJson, ProstValue.settled]
    constructor
    · rintro ⟨q, taken, same⟩
      obtain ⟨qs, inside, h⟩ := Except.of_bind_ok taken
      cases h
      exact ⟨qs, inside, ProstValue.structValue.inj same⟩
    · rintro ⟨qs, taken, same⟩
      exact ⟨.structValue qs, by rw [jsonToProst, taken]; rfl, by rw [ProstValue.settled, same]⟩
  | unset | nullValue _ | boolValue _ | stringValue _ =>
    simp [prostToJson, jsonToProst, ProstValue.settled, ProstValue.EveryNumber]

theorem itemsToProst_itemsToJson_iff {ps : List ProstValue}
    (finite : ProstValue.EveryNumberItem Float64.IsFinite ps) :
    (∃ qs, itemsToProst (itemsToJson ps) = .ok qs ∧
      ProstValue.settledItems qs = ProstValue.settledItems ps) ↔
      ProstValue.EveryNumberItem Float64.Returns ps := by
  cases ps with
  | nil => simp [itemsToJson, itemsToProst, ProstValue.EveryNumberItem]
  | cons p ps =>
    rw [ProstValue.EveryNumberItem, ← jsonToProst_prostToJson_iff finite.1,
      ← itemsToProst_itemsToJson_iff finite.2, itemsToJson]
    constructor
    · rintro ⟨_, taken, same⟩
      obtain ⟨q, qs, head, tail, rfl⟩ := itemsToProst_cons taken
      obtain ⟨first, rest⟩ := List.cons.inj same
      exact ⟨⟨q, head, first⟩, qs, tail, rest⟩
    · rintro ⟨⟨q, head, first⟩, qs, tail, rest⟩
      refine ⟨q :: qs, by rw [itemsToProst, head, tail]; rfl, ?_⟩
      rw [ProstValue.settledItems, ProstValue.settledItems, first, rest]

theorem membersToProst_fieldsToJson_iff {ps : List (String × ProstValue)}
    (finite : ProstValue.EveryNumberField Float64.IsFinite ps) :
    (∃ qs, membersToProst (fieldsToJson ps) = .ok qs ∧
      ProstValue.settledFields qs = ProstValue.settledFields ps) ↔
      ProstValue.EveryNumberField Float64.Returns ps := by
  cases ps with
  | nil => simp [fieldsToJson, membersToProst, ProstValue.EveryNumberField]
  | cons field ps =>
    obtain ⟨key, p⟩ := field
    rw [ProstValue.EveryNumberField, ← jsonToProst_prostToJson_iff finite.1,
      ← membersToProst_fieldsToJson_iff finite.2, fieldsToJson]
    constructor
    · rintro ⟨_, taken, same⟩
      obtain ⟨q, qs, head, tail, rfl⟩ := membersToProst_cons taken
      obtain ⟨first, rest⟩ := List.cons.inj same
      exact ⟨⟨q, head, (Prod.mk.inj first).2⟩, qs, tail, rest⟩
    · rintro ⟨⟨q, head, first⟩, qs, tail, rest⟩
      refine ⟨(key, q) :: qs, by rw [membersToProst, head, tail]; rfl, ?_⟩
      rw [ProstValue.settledFields, ProstValue.settledFields, first, rest]

end

/-- Every number that comes from a message can be sent again where none is refused. -/
def Struct.EveryNumber (p : Float64 → Prop) (value : Struct) : Prop :=
  ProstValue.EveryNumberField p value.fields

def Struct.settled (value : Struct) : Struct := ⟨ProstValue.settledFields value.fields⟩

/--
Conversion to a message and back keeps what a JSON object says exactly where it holds no double
`2 ^ 63`, and a message of finite numbers is converted back and taken again exactly where it holds
no whole number from `2 ^ 53` to `2 ^ 63`, of either sign.
-/
theorem conversion_preserves_iff {v : Value} {s t : Struct} (held : v.Every Value.HeldNumber)
    (taken : jsonToStruct v = .ok s) (finite : t.EveryNumber Float64.IsFinite) :
    ((structToJson s).numeric = v.numeric ↔ v.Every (· ≠ .float (2 ^ 63))) ∧
    ((∃ t', jsonToStruct (structToJson t) = .ok t' ∧ t'.settled = t.settled) ↔
      t.EveryNumber Float64.Returns) := by
  constructor
  · cases v with
    | object members =>
      obtain ⟨fields, members', h⟩ := Except.of_bind_ok taken
      cases h
      rw [structToJson, Value.numeric, Value.numeric, Value.object.injEq, Value.Every]
      exact numeric_fieldsToJson_iff held members'
    | _ => cases taken
  · rw [Struct.EveryNumber, ← membersToProst_fieldsToJson_iff finite]
    constructor
    · rintro ⟨t', taken, same⟩
      obtain ⟨fields, members, h⟩ := Except.of_bind_ok taken
      cases h
      exact ⟨fields, members, congrArg Struct.fields same⟩
    · rintro ⟨fields, members, same⟩
      exact ⟨⟨fields⟩, by rw [structToJson, jsonToStruct, members]; rfl, by
        rw [Struct.settled, Struct.settled, same]⟩

/-- Small numbers and nested values go there and back. -/
theorem conversion_preserves_nested :
    (∃ s, jsonToStruct (.object [("items", .array [.null, .int 2, .float (1 / 2)])]) = .ok s ∧
      (structToJson s).numeric =
        .object [("items", .array [.null, .float 2, .float (1 / 2)])]) ∧
    ∃ t, jsonToStruct (structToJson ⟨[("score", .numberValue (.finite (1 / 2))), ("on", .unset)]⟩) =
      .ok t ∧ t.settled = ⟨[("score", .numberValue (.finite (1 / 2))), ("on", .nullValue 0)]⟩ := by
  have taken : jsonToStruct (.object [("items", .array [.null, .int 2, .float (1 / 2)])]) =
      .ok ⟨[("items", .listValue [.nullValue 0, .numberValue (.finite (Double.ofInt 2)),
        .numberValue (.finite (1 / 2))])]⟩ := rfl
  have half : IsDouble (1 / 2) := ⟨1, -1, by decide, by decide, by decide, by norm_num⟩
  obtain ⟨there, back⟩ := conversion_preserves_iff
    (t := ⟨[("score", .numberValue (.finite (1 / 2))), ("on", .unset)]⟩)
    (by simpa [Value.Every, Value.EveryMember, Value.EveryItem, Value.HeldNumber] using half) taken
    (by simp [Struct.EveryNumber, ProstValue.EveryNumberField, ProstValue.EveryNumber,
      Float64.IsFinite])
  refine ⟨⟨_, taken, there.mpr ?_⟩, back.mpr ?_⟩
  · refine ⟨⟨nofun, nofun, fun same => ?_, trivial⟩, trivial⟩
    norm_num at same
  · simp only [Struct.EveryNumber, ProstValue.EveryNumberField, ProstValue.EveryNumber,
      Float64.Returns]
    norm_num

/-- The double `2 ^ 63` changes on its way, and the double `2 ^ 53` is refused on its way back. -/
theorem conversion_loses_doubles :
    (∃ s, jsonToStruct (.object [("x", .float (2 ^ 63))]) = .ok s ∧
      (structToJson s).numeric ≠ .object [("x", .float (2 ^ 63))]) ∧
    ¬ ∃ t, jsonToStruct (structToJson ⟨[("x", .numberValue (.finite (2 ^ 53)))]⟩) = .ok t ∧
      t.settled = ⟨[("x", .numberValue (.finite (2 ^ 53)))]⟩ := by
  constructor
  · refine ⟨_, rfl, fun same => ?_⟩
    have member := Value.object.inj same
    simp only [Value.numericMembers, fieldsToJson, prostToJson, List.cons.injEq, Prod.mk.injEq,
      true_and, and_true] at member
    exact numeric_numberToJson_iff.mp member rfl
  · rintro ⟨t, taken, same⟩
    obtain ⟨fields, members, h⟩ := Except.of_bind_ok taken
    cases h
    have returns := (@membersToProst_fieldsToJson_iff [("x", .numberValue (.finite (2 ^ 53)))]
      ⟨trivial, trivial⟩).mp ⟨fields, members, congrArg Struct.fields same⟩
    have whole : ((2 : Rat) ^ 53).den = 1 := rfl
    have small := returns.1 whole
    norm_num at small

end Parlando
