import Parlando.Data.Canonical
import Mathlib.Data.Rat.Defs

namespace Parlando

def SelfDelimiting {α : Type*} (text : α → List Char) : Prop :=
  ∀ a b rest rest', text a ++ rest = text b ++ rest' → a = b ∧ rest = rest'

namespace SelfDelimiting

theorem injective {α : Type*} {text : α → List Char} (delimited : SelfDelimiting text) : Function.Injective text := by
  intro a b same
  exact (delimited a b [] [] (by rw [same])).1

end SelfDelimiting

def strokes : Nat → List Char
  | 0 => ['.']
  | n + 1 => '|' :: strokes n

theorem strokes_delimited : SelfDelimiting strokes := by
  intro n
  induction n with
  | zero =>
    intro m rest rest' same
    cases m with
    | zero => exact ⟨rfl, by simpa [strokes] using same⟩
    | succ m => simp [strokes] at same
  | succ n ih =>
    intro m rest rest' same
    cases m with
    | zero => simp [strokes] at same
    | succ m =>
      obtain ⟨rfl, rests⟩ := ih m rest rest' (by simpa [strokes] using same)
      exact ⟨rfl, rests⟩

def intStrokes : Int → List Char
  | .ofNat n => '+' :: strokes n
  | .negSucc n => '-' :: strokes n

theorem intStrokes_delimited : SelfDelimiting intStrokes := by
  intro a b rest rest' same
  cases a <;> cases b <;> simp [intStrokes] at same
  all_goals
    obtain ⟨rfl, rests⟩ := strokes_delimited _ _ _ _ same
    exact ⟨rfl, rests⟩

/-- A text behind its length. -/
def counted (text : String) : List Char := strokes text.toList.length ++ text.toList

theorem counted_delimited : SelfDelimiting counted := by
  intro a b rest rest' same
  simp only [counted, List.append_assoc] at same
  obtain ⟨length, same⟩ := strokes_delimited _ _ _ _ same
  obtain ⟨chars, rests⟩ := List.append_inj same length
  exact ⟨String.toList_inj.mp chars, rests⟩

def ratStrokes (q : Rat) : List Char := intStrokes q.num ++ strokes q.den

theorem ratStrokes_delimited : SelfDelimiting ratStrokes := by
  intro a b rest rest' same
  simp only [ratStrokes, List.append_assoc] at same
  obtain ⟨num, same⟩ := intStrokes_delimited _ _ _ _ same
  obtain ⟨den, rests⟩ := strokes_delimited _ _ _ _ same
  exact ⟨Rat.ext num den, rests⟩

namespace Value

mutual

def wire : Value → List Char
  | .null => ['n']
  | .bool value => ['b', if value then '1' else '0']
  | .int value => 'i' :: intStrokes value
  | .float value => 'q' :: ratStrokes value
  | .string value => 's' :: counted value
  | .array items => 'a' :: wireItems items
  | .object members => 'o' :: wireMembers members

def wireItems : List Value → List Char
  | [] => ['.']
  | value :: items => ',' :: (wire value ++ wireItems items)

def wireMembers : List (String × Value) → List Char
  | [] => ['.']
  | (key, value) :: members => ',' :: (counted key ++ (wire value ++ wireMembers members))

end

mutual

theorem wire_delimited (value other : Value) (rest rest' : List Char)
    (same : wire value ++ rest = wire other ++ rest') : value = other ∧ rest = rest' := by
  cases value with
  | null => cases other with
    | null => exact ⟨rfl, by simpa [wire] using same⟩
    | _ => simp [wire] at same
  | bool a => cases other with
    | bool b => cases a <;> cases b <;> simp_all [wire]
    | _ => simp [wire] at same
  | int a => cases other with
    | int b =>
      obtain ⟨rfl, rests⟩ := intStrokes_delimited _ _ _ _ (List.cons.inj same).2
      exact ⟨rfl, rests⟩
    | _ => simp [wire] at same
  | float a => cases other with
    | float b =>
      obtain ⟨rfl, rests⟩ := ratStrokes_delimited _ _ _ _ (List.cons.inj same).2
      exact ⟨rfl, rests⟩
    | _ => simp [wire] at same
  | string a => cases other with
    | string b =>
      obtain ⟨rfl, rests⟩ := counted_delimited _ _ _ _ (List.cons.inj same).2
      exact ⟨rfl, rests⟩
    | _ => simp [wire] at same
  | array items => cases other with
    | array others =>
      obtain ⟨rfl, rests⟩ := wireItems_delimited items others _ _ (List.cons.inj same).2
      exact ⟨rfl, rests⟩
    | _ => simp [wire] at same
  | object members => cases other with
    | object others =>
      obtain ⟨rfl, rests⟩ := wireMembers_delimited members others _ _ (List.cons.inj same).2
      exact ⟨rfl, rests⟩
    | _ => simp [wire] at same

theorem wireItems_delimited (items others : List Value) (rest rest' : List Char)
    (same : wireItems items ++ rest = wireItems others ++ rest') :
    items = others ∧ rest = rest' := by
  cases items with
  | nil =>
    cases others with
    | nil => exact ⟨rfl, by simpa [wireItems] using same⟩
    | cons other others => simp [wireItems] at same
  | cons value items =>
    cases others with
    | nil => simp [wireItems] at same
    | cons other others =>
      simp only [wireItems, List.cons_append, List.cons.injEq, true_and, List.append_assoc] at same
      obtain ⟨rfl, later⟩ := wire_delimited value other _ _ same
      obtain ⟨rfl, rests⟩ := wireItems_delimited items others _ _ later
      exact ⟨rfl, rests⟩

theorem wireMembers_delimited (members others : List (String × Value)) (rest rest' : List Char)
    (same : wireMembers members ++ rest = wireMembers others ++ rest') :
    members = others ∧ rest = rest' := by
  cases members with
  | nil =>
    cases others with
    | nil => exact ⟨rfl, by simpa [wireMembers] using same⟩
    | cons other others =>
      obtain ⟨key, other⟩ := other
      simp [wireMembers] at same
  | cons member members =>
    obtain ⟨key, value⟩ := member
    cases others with
    | nil => simp [wireMembers] at same
    | cons member others =>
      obtain ⟨key', other⟩ := member
      simp only [wireMembers, List.cons_append, List.cons.injEq, true_and,
        List.append_assoc] at same
      obtain ⟨rfl, child⟩ := counted_delimited _ _ _ _ same
      obtain ⟨rfl, later⟩ := wire_delimited value other _ _ child
      obtain ⟨rfl, rests⟩ := wireMembers_delimited members others _ _ later
      exact ⟨rfl, rests⟩

end

end Value

end Parlando
