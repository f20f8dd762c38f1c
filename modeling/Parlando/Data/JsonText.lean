import Parlando.Protocol

namespace Parlando

namespace Value

def charBytes (c : Char) : Nat :=
  if c = '"' ∨ c = '\\' then 2
  else if c.toNat < 32 then
    if [8, 9, 10, 12, 13].contains c.toNat then 2 else 6
  else c.utf8Size

def stringBytes (text : String) : Nat := 2 + (text.toList.map charBytes).foldl (· + ·) 0

mutual

/-- The bytes of the whole text; `floatBytes` is the length of a float's digits. -/
def jsonBytes (floatBytes : Rat → Nat) : Value → Nat
  | null => 4
  | bool true => 4
  | bool false => 5
  | int value => (toString value).length
  | float value => floatBytes value
  | string value => stringBytes value
  | array items => 1 + itemBytes floatBytes items + items.isEmpty.toNat
  | object members => 1 + memberBytes floatBytes members + members.isEmpty.toNat

def itemBytes (floatBytes : Rat → Nat) : List Value → Nat
  | [] => 0
  | item :: items => jsonBytes floatBytes item + 1 + itemBytes floatBytes items

def memberBytes (floatBytes : Rat → Nat) : List (String × Value) → Nat
  | [] => 0
  | (key, value) :: members =>
    stringBytes key + 1 + jsonBytes floatBytes value + 1 + memberBytes floatBytes members

end

def arrayBytes (items : List Nat) : Nat := 1 + (items.map (· + 1)).sum + items.isEmpty.toNat

theorem itemBytes_eq_sum (floatBytes : Rat → Nat) (items : List Value) :
    itemBytes floatBytes items = ((items.map (jsonBytes floatBytes)).map (· + 1)).sum := by
  induction items with
  | nil => rfl
  | cons item items ih => rw [itemBytes, ih, List.map_cons, List.map_cons, List.sum_cons]

example : jsonBytes (fun _ => 0) (.object [("a", .int (-12)), ("b", .array [])]) = 16 := by decide

end Value

end Parlando
