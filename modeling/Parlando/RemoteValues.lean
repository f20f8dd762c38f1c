import Parlando.Data.Json

namespace Parlando

/-- A double as a protobuf message carries it. -/
inductive Float64 where
  | finite (value : Rat)
  | infinity (negative : Bool)
  | nan
  deriving DecidableEq, Repr

/-- A protobuf value: one of the kinds, or `unset`. The fields of a struct are in key order. -/
inductive ProstValue where
  | unset
  | nullValue (tag : Int)
  | boolValue (value : Bool)
  | numberValue (value : Float64)
  | stringValue (value : String)
  | listValue (values : List ProstValue)
  | structValue (fields : List (String × ProstValue))
  deriving Inhabited

structure Struct where
  fields : List (String × ProstValue)

def castI64 (n : Int) : Int := max (-2 ^ 63) (min (2 ^ 63 - 1) n)

def maxExactInteger : Int := 9007199254740991

/-- Whether an integer is refused because a double might not hold it. -/
def exceedsExactRange (n : Int) : Bool :=
  match asI64 n with
  | some integer => decide (maxExactInteger < integer.natAbs)
  | none =>
    match asU64 n with
    | some integer => decide (maxExactInteger < integer)
    | none => false

mutual

def jsonToProst : Value → Except String ProstValue
  | .null => .ok (.nullValue 0)
  | .bool value => .ok (.boolValue value)
  | .int value =>
    if exceedsExactRange value then
      .error "remote agent integer exceeds protobuf Struct exact range"
    else .ok (.numberValue (.finite (Double.ofInt value)))
  | .float value => .ok (.numberValue (.finite value))
  | .string value => .ok (.stringValue value)
  | .array values => do return .listValue (← itemsToProst values)
  | .object members => do return .structValue (← membersToProst members)

def itemsToProst : List Value → Except String (List ProstValue)
  | [] => .ok []
  | value :: values => do return (← jsonToProst value) :: (← itemsToProst values)

def membersToProst : List (String × Value) → Except String (List (String × ProstValue))
  | [] => .ok []
  | (key, value) :: members => do
    return (key, ← jsonToProst value) :: (← membersToProst members)

end

/-- Converts a JSON object into a protobuf struct. -/
def jsonToStruct : Value → Except String Struct
  | .object members => do return ⟨← membersToProst members⟩
  | _ => .error "remote agent protobuf Struct values must be JSON objects"

/-- Whole numbers between the doubles of the bounds of `i64` become integers again. -/
def numberToJson : Float64 → Value
  | .finite value =>
    if value.den = 1 ∧ (Double.ofInt (-2 ^ 63) : Rat) ≤ value ∧
        value ≤ Double.ofInt (2 ^ 63 - 1) then
      .int (castI64 value.num)
    else .float value
  | .infinity _ | .nan => .null

mutual

def prostToJson : ProstValue → Value
  | .unset | .nullValue _ => .null
  | .boolValue value => .bool value
  | .numberValue value => numberToJson value
  | .stringValue value => .string value
  | .listValue values => .array (itemsToJson values)
  | .structValue fields => .object (fieldsToJson fields)

def itemsToJson : List ProstValue → List Value
  | [] => []
  | value :: values => prostToJson value :: itemsToJson values

def fieldsToJson : List (String × ProstValue) → List (String × Value)
  | [] => []
  | (key, value) :: fields => (key, prostToJson value) :: fieldsToJson fields

end

/-- Converts a protobuf struct back to JSON. -/
def structToJson (value : Struct) : Value := .object (fieldsToJson value.fields)

end Parlando
