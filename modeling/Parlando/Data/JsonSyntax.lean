import Parlando.Data.Json
import Mathlib.Data.List.TakeWhile

namespace Parlando

structure FloatText where
  write : Rat → String
  read : String → Option Rat

namespace JsonSyntax

def hexDigit (n : Nat) : Char := if n < 10 then .ofNat (48 + n) else .ofNat (87 + n)

/-- One character in a string literal; only quotes, backslashes and controls are escaped. -/
def escape (c : Char) : List Char :=
  if c = '"' then ['\\', '"']
  else if c = '\\' then ['\\', '\\']
  else if c.toNat = 8 then ['\\', 'b']
  else if c.toNat = 9 then ['\\', 't']
  else if c.toNat = 10 then ['\\', 'n']
  else if c.toNat = 12 then ['\\', 'f']
  else if c.toNat = 13 then ['\\', 'r']
  else if c.toNat < 32 then
    ['\\', 'u', '0', '0', hexDigit (c.toNat / 16), hexDigit (c.toNat % 16)]
  else [c]

def writeString (text : String) : List Char := '"' :: (text.toList.flatMap escape ++ ['"'])

section Writer

variable (floats : FloatText)

mutual

/-- The compact text of a value. -/
def write : Value → List Char
  | .null => ['n', 'u', 'l', 'l']
  | .bool true => ['t', 'r', 'u', 'e']
  | .bool false => ['f', 'a', 'l', 's', 'e']
  | .int value => value.repr.toList
  | .float value => (floats.write value).toList
  | .string text => writeString text
  | .array [] => ['[', ']']
  | .array (item :: items) => '[' :: (write item ++ writeItems items)
  | .object [] => ['{', '}']
  | .object ((key, value) :: members) =>
    '{' :: (writeString key ++ ':' :: (write value ++ writeMembers members))

def writeItems : List Value → List Char
  | [] => [']']
  | item :: items => ',' :: (write item ++ writeItems items)

def writeMembers : List (String × Value) → List Char
  | [] => ['}']
  | (key, value) :: members =>
    ',' :: (writeString key ++ ':' :: (write value ++ writeMembers members))

end

end Writer

def isBlank (c : Char) : Bool := c == ' ' || c == '\t' || c == '\n' || c == '\r'

def skipBlanks (input : List Char) : List Char := input.dropWhile isBlank

def hexValue (c : Char) : Option Nat :=
  if c.isDigit then some (c.toNat - 48)
  else if 'a' ≤ c ∧ c ≤ 'f' then some (c.toNat - 87)
  else if 'A' ≤ c ∧ c ≤ 'F' then some (c.toNat - 55)
  else none

def codeUnit (digits : List Char) : Option Nat :=
  digits.foldlM (fun n digit => (hexValue digit).map (16 * n + ·)) 0

def unescape : Char → Option Char
  | '"' => some '"'
  | '\\' => some '\\'
  | '/' => some '/'
  | 'b' => some (.ofNat 8)
  | 't' => some '\t'
  | 'n' => some '\n'
  | 'f' => some (.ofNat 12)
  | 'r' => some '\r'
  | _ => none

def readUnit : List Char → Option (Nat × List Char)
  | a :: b :: c :: d :: rest => (codeUnit [a, b, c, d]).map (·, rest)
  | _ => none

/-- The character of an escape behind its `u`; a surrogate needs its second half. -/
def readCodePoint (input : List Char) : Option (Char × List Char) := do
  let (unit, rest) ← readUnit input
  if 0xDC00 ≤ unit ∧ unit < 0xE000 then none
  else if 0xD800 ≤ unit ∧ unit < 0xDC00 then
    match rest with
    | '\\' :: 'u' :: rest =>
      let (low, rest) ← readUnit rest
      if 0xDC00 ≤ low ∧ low < 0xE000 then
        some (.ofNat (0x10000 + 0x400 * (unit - 0xD800) + (low - 0xDC00)), rest)
      else none
    | _ => none
  else some (.ofNat unit, rest)

def readChar : List Char → Option (Char × List Char)
  | [] => none
  | c :: rest =>
    if c = '\\' then
      match rest with
      | [] => none
      | e :: rest => if e = 'u' then readCodePoint rest else (unescape e).map (·, rest)
    else if c.toNat < 32 then none
    else some (c, rest)

/-- The characters of a string literal behind its opening quote, up to the closing one. -/
def readString : Nat → List Char → Option (List Char × List Char)
  | 0, _ => none
  | fuel + 1, input =>
    if input.head? = some '"' then some ([], input.tail)
    else do
      let (c, rest) ← readChar input
      let (text, rest) ← readString fuel rest
      return (c :: text, rest)

def isNumberChar (c : Char) : Bool :=
  c.isDigit || c == '-' || c == '+' || c == '.' || c == 'e' || c == 'E'

/-- Digits without a leading zero, or a single zero. -/
def isNatural (digits : List Char) : Bool :=
  digits.all Char.isDigit && (digits.length == 1 || (digits.head?.any fun c => c != '0'))

def isInteger : List Char → Bool
  | '-' :: digits => isNatural digits
  | digits => isNatural digits

def isDigits (digits : List Char) : Bool := !digits.isEmpty && digits.all Char.isDigit

def isExponent : List Char → Bool
  | [] => true
  | e :: '-' :: digits | e :: '+' :: digits => (e == 'e' || e == 'E') && isDigits digits
  | e :: digits => (e == 'e' || e == 'E') && isDigits digits

def isTail : List Char → Bool
  | '.' :: rest =>
    isDigits (rest.takeWhile Char.isDigit) && isExponent (rest.dropWhile Char.isDigit)
  | rest => isExponent rest

/-- The integer part with its sign ends where a point or an exponent begins. -/
def isNumber (text : List Char) : Bool :=
  let part := fun c => c.isDigit || c == '-'
  isInteger (text.takeWhile part) && isTail (text.dropWhile part)

def integerValue : List Char → Int
  | '-' :: digits => -(Nat.ofDigitChars 10 digits 0 : Int)
  | digits => Nat.ofDigitChars 10 digits 0

section Reader

variable (floats : FloatText)

/-- A number goes on as far as its characters do; without a fraction and an exponent it is an
integer. -/
def readNumber (input : List Char) : Option (Value × List Char) :=
  let text := input.takeWhile isNumberChar
  let rest := input.dropWhile isNumberChar
  if isInteger text then some (.int (integerValue text), rest)
  else if isNumber text then (floats.read (.ofList text)).map fun value => (.float value, rest)
  else none

def readWord (word : List Char) (value : Value) (input : List Char) :
    Option (Value × List Char) :=
  if word.isPrefixOf input then some (value, input.drop word.length) else none

mutual

def readValue : Nat → List Char → Option (Value × List Char)
  | 0, _ => none
  | fuel + 1, input =>
    match skipBlanks input with
    | [] => none
    | c :: rest =>
      if c = '"' then (readString fuel rest).map fun (text, rest) => (.string (.ofList text), rest)
      else if c = '[' then
        match skipBlanks rest with
        | ']' :: rest => some (.array [], rest)
        | rest => (readItems fuel rest).map fun (items, rest) => (.array items, rest)
      else if c = '{' then
        match skipBlanks rest with
        | '}' :: rest => some (.object [], rest)
        | rest => (readMembers fuel rest).map fun (members, rest) => (.object members, rest)
      else if c = 'n' then readWord ['u', 'l', 'l'] .null rest
      else if c = 't' then readWord ['r', 'u', 'e'] (.bool true) rest
      else if c = 'f' then readWord ['a', 'l', 's', 'e'] (.bool false) rest
      else readNumber floats (c :: rest)

def readItems : Nat → List Char → Option (List Value × List Char)
  | 0, _ => none
  | fuel + 1, input => do
    let (item, rest) ← readValue fuel input
    match skipBlanks rest with
    | ',' :: rest =>
      let (items, rest) ← readItems fuel rest
      return (item :: items, rest)
    | ']' :: rest => return ([item], rest)
    | _ => none

def readMembers : Nat → List Char → Option (List (String × Value) × List Char)
  | 0, _ => none
  | fuel + 1, input =>
    match skipBlanks input with
    | '"' :: rest => do
      let (key, rest) ← readString fuel rest
      match skipBlanks rest with
      | ':' :: rest =>
        let (value, rest) ← readValue fuel rest
        match skipBlanks rest with
        | ',' :: rest =>
          let (members, rest) ← readMembers fuel rest
          return ((.ofList key, value) :: members, rest)
        | '}' :: rest => return ([(.ofList key, value)], rest)
        | _ => none
      | _ => none
    | _ => none

end

/-- The value of a JSON text; no value is nested deeper than its text is long. -/
def read (text : String) : Option Value :=
  match readValue floats (text.toList.length + 1) text.toList with
  | some (value, rest) => if (skipBlanks rest).isEmpty then some value else none
  | none => none

end Reader

theorem hexValue_hexDigit : ∀ n < 16, hexValue (hexDigit n) = some n := by decide

theorem readChar_plain {c : Char} (rest : List Char) (backslash : c ≠ '\\')
    (visible : ¬c.toNat < 32) : readChar (c :: rest) = some (c, rest) := by
  simp only [readChar, if_neg backslash, if_neg visible]

theorem readChar_escaped {e c : Char} (rest : List Char) (unescaped : unescape e = some c) :
    readChar ('\\' :: e :: rest) = some (c, rest) := by
  have notUnit : e ≠ 'u' := by
    rintro rfl
    cases unescaped
  rw [readChar, if_pos rfl]
  simp only [if_neg notUnit, unescaped, Option.map_some]

theorem readChar_control {n : Nat} (rest : List Char) (control : n < 32) :
    readChar ('\\' :: 'u' :: '0' :: '0' :: hexDigit (n / 16) :: hexDigit (n % 16) :: rest) =
      some (.ofNat n, rest) := by
  have unit : codeUnit ['0', '0', hexDigit (n / 16), hexDigit (n % 16)] = some n := by
    have high := hexValue_hexDigit (n / 16) (by omega)
    have low := hexValue_hexDigit (n % 16) (by omega)
    have zero : hexValue '0' = some 0 := by decide
    simp only [codeUnit, List.foldlM_cons, List.foldlM_nil, zero, high, low, Option.map_some,
      Option.bind_eq_bind, Option.bind_some, Option.pure_def, Option.some.injEq]
    omega
  rw [readChar, if_pos rfl]
  simp only [if_true, readCodePoint, readUnit, unit, Option.map_some, Option.bind_eq_bind,
    Option.bind_some]
  rw [if_neg (by omega), if_neg (by omega)]

theorem ofNat_of_toNat {c : Char} {n : Nat} (code : c.toNat = n) : Char.ofNat n = c := by
  rw [← code, Char.ofNat_toNat]

theorem readChar_escape (c : Char) (rest : List Char) :
    readChar (escape c ++ rest) = some (c, rest) := by
  unfold escape
  split
  · rename_i here
    rw [here]
    exact readChar_escaped rest rfl
  split
  · rename_i here
    rw [here]
    exact readChar_escaped rest rfl
  split
  · rename_i here
    rw [← ofNat_of_toNat here]
    exact readChar_escaped rest rfl
  split
  · rename_i here
    rw [← ofNat_of_toNat here]
    exact readChar_escaped rest rfl
  split
  · rename_i here
    rw [← ofNat_of_toNat here]
    exact readChar_escaped rest rfl
  split
  · rename_i here
    rw [← ofNat_of_toNat here]
    exact readChar_escaped rest rfl
  split
  · rename_i here
    rw [← ofNat_of_toNat here]
    exact readChar_escaped rest rfl
  split
  · rename_i control
    have same := readChar_control rest control
    rw [Char.ofNat_toNat] at same
    exact same
  · rename_i backslash _ _ _ _ _ visible
    exact readChar_plain rest backslash visible

/-- No escaped character looks like the closing quote. -/
theorem head?_escape (c : Char) (rest : List Char) :
    (escape c ++ rest).head? ≠ some '"' ∧ escape c ≠ [] := by
  unfold escape
  split_ifs
  all_goals refine ⟨?_, List.cons_ne_nil _ _⟩
  all_goals simp [*]

theorem readString_write {fuel : Nat} (text rest : List Char)
    (enough : (text.flatMap escape ++ ['"']).length ≤ fuel) :
    readString fuel (text.flatMap escape ++ '"' :: rest) = some (text, rest) := by
  induction text generalizing fuel with
  | nil =>
    obtain ⟨fuel, rfl⟩ := Nat.exists_eq_add_of_lt (Nat.lt_of_lt_of_le Nat.zero_lt_one enough)
    rfl
  | cons c text ih =>
    obtain ⟨differs, nonempty⟩ := head?_escape c (text.flatMap escape ++ '"' :: rest)
    have positive := List.length_pos_of_ne_nil nonempty
    simp only [List.flatMap_cons, List.length_append] at enough
    obtain ⟨fuel, rfl⟩ : ∃ n, fuel = n + 1 := ⟨fuel - 1, by omega⟩
    have later := @ih fuel (by rw [List.length_append]; omega)
    rw [List.flatMap_cons, List.append_assoc, readString, if_neg differs, readChar_escape,
      Option.bind_eq_bind, Option.bind_some]
    simp only [later]
    rfl

theorem isDigit_toDigits (n : Nat) : ∀ c ∈ Nat.toDigits 10 n, c.isDigit = true :=
  fun _ mem => Nat.isDigit_of_mem_toDigits (by decide) (by decide) mem

theorem head?_toDigits {n : Nat} (positive : n ≠ 0) : (Nat.toDigits 10 n).head? ≠ some '0' := by
  induction n using Nat.strongRecOn with
  | ind n ih =>
    by_cases small : n < 10
    · have digits : ∀ n < 10, n ≠ 0 → n.digitChar ≠ '0' := by decide
      rw [Nat.toDigits_of_lt_base small]
      exact fun zero => digits n small positive (Option.some.inj zero)
    · rw [Nat.toDigits_of_base_le (by decide) (by omega)]
      have shorter := ih (n / 10) (by omega) (by omega)
      rw [List.head?_append_of_ne_nil _ Nat.toDigits_ne_nil]
      exact shorter

theorem isNatural_toDigits (n : Nat) : isNatural (Nat.toDigits 10 n) = true := by
  rw [isNatural, Bool.and_eq_true, List.all_eq_true]
  refine ⟨isDigit_toDigits n, ?_⟩
  by_cases zero : n = 0
  · rw [zero]
    decide
  · have head := head?_toDigits zero
    cases digits : Nat.toDigits 10 n with
    | nil => exact absurd digits Nat.toDigits_ne_nil
    | cons c rest =>
      rw [digits] at head
      simp only [List.head?_cons, ne_eq, Option.some.injEq] at head
      simp [head]

theorem isNumberChar_of_isDigit {c : Char} (digit : c.isDigit = true) : isNumberChar c = true := by
  simp [isNumberChar, digit]

theorem isInteger_of_digits {digits : List Char} (all : ∀ c ∈ digits, c.isDigit = true) :
    isInteger digits = isNatural digits ∧
      integerValue digits = Nat.ofDigitChars 10 digits 0 := by
  unfold isInteger integerValue
  split
  · exact absurd (all '-' (List.mem_cons_self ..)) (by decide)
  · exact ⟨rfl, rfl⟩

theorem toList_repr (n : Int) : n.repr.toList =
    if 0 ≤ n then Nat.toDigits 10 n.toNat else '-' :: Nat.toDigits 10 (-n).toNat := by
  rw [Int.repr_eq_if]
  split
  · exact Nat.toList_repr
  · rw [String.toList_append, Nat.toList_repr]
    rfl

theorem repr_isInteger (n : Int) : isInteger n.repr.toList = true ∧
    integerValue n.repr.toList = n ∧ ∀ c ∈ n.repr.toList, isNumberChar c = true := by
  rw [toList_repr]
  split
  · have all := isDigit_toDigits n.toNat
    obtain ⟨integer, value⟩ := isInteger_of_digits all
    rw [integer, value, isNatural_toDigits, Nat.ofDigitChars_ten_toDigits]
    exact ⟨rfl, by omega, fun c mem => isNumberChar_of_isDigit (all c mem)⟩
  · refine ⟨isNatural_toDigits _, ?_, fun c mem => ?_⟩
    · rw [integerValue, Nat.ofDigitChars_ten_toDigits]
      omega
    · rcases List.mem_cons.mp mem with rfl | mem
      · decide
      · exact isNumberChar_of_isDigit (isDigit_toDigits _ c mem)

theorem isInteger_ne_nil {text : List Char} (integer : isInteger text = true) : text ≠ [] := by
  rintro rfl
  cases integer

theorem isInteger_chars {text : List Char} (integer : isInteger text = true) :
    ∀ c ∈ text, c.isDigit = true ∨ c = '-' := by
  intro c mem
  unfold isInteger at integer
  split at integer
  · simp only [isNatural, Bool.and_eq_true, List.all_eq_true] at integer
    rcases List.mem_cons.mp mem with rfl | mem
    · exact .inr rfl
    · exact .inl (integer.1 c mem)
  · simp only [isNatural, Bool.and_eq_true, List.all_eq_true] at integer
    exact .inl (integer.1 c mem)

theorem isNumberChar_of_isInteger {text : List Char} (integer : isInteger text = true) :
    ∀ c ∈ text, isNumberChar c = true := by
  intro c mem
  rcases isInteger_chars integer c mem with digit | rfl
  · exact isNumberChar_of_isDigit digit
  · decide

theorem isNumberChar_of_isExponent {text : List Char} (exponent : isExponent text = true) :
    ∀ c ∈ text, isNumberChar c = true := by
  have letter {e : Char} (isE : (e == 'e' || e == 'E') = true) : isNumberChar e = true := by
    simp only [Bool.or_eq_true, beq_iff_eq] at isE
    rcases isE with rfl | rfl <;> decide
  unfold isExponent at exponent
  split at exponent
  · exact fun c mem => absurd mem List.not_mem_nil
  all_goals
    simp only [Bool.and_eq_true, isDigits, List.all_eq_true] at exponent
    obtain ⟨isE, -, digits⟩ := exponent
    intro c mem
    simp only [List.mem_cons] at mem
  · rcases mem with rfl | rfl | mem
    · exact letter isE
    · decide
    · exact isNumberChar_of_isDigit (digits c mem)
  · rcases mem with rfl | rfl | mem
    · exact letter isE
    · decide
    · exact isNumberChar_of_isDigit (digits c mem)
  · rcases mem with rfl | mem
    · exact letter isE
    · exact isNumberChar_of_isDigit (digits c mem)

theorem isNumberChar_of_isNumber {text : List Char} (number : isNumber text = true) :
    ∀ c ∈ text, isNumberChar c = true := by
  simp only [isNumber, Bool.and_eq_true] at number
  intro c mem
  rw [← List.takeWhile_append_dropWhile (p := fun c => c.isDigit || c == '-') (l := text)] at mem
  rcases List.mem_append.mp mem with mem | mem
  · exact isNumberChar_of_isInteger number.1 c mem
  · have tail := number.2
    unfold isTail at tail
    split at tail
    · rename_i rest same
      rw [same] at mem
      simp only [Bool.and_eq_true, isDigits, List.all_eq_true] at tail
      rcases List.mem_cons.mp mem with rfl | mem
      · decide
      · rw [← List.takeWhile_append_dropWhile (p := Char.isDigit) (l := rest)] at mem
        rcases List.mem_append.mp mem with mem | mem
        · exact isNumberChar_of_isDigit (tail.1.2 c mem)
        · exact isNumberChar_of_isExponent tail.2 c mem
    · exact isNumberChar_of_isExponent tail c mem

theorem isNumber_ne_nil {text : List Char} (number : isNumber text = true) : text ≠ [] := by
  rintro rfl
  cases number

def Stops (input : List Char) : Prop := ∀ c ∈ input.head?, isNumberChar c = false

theorem takeWhile_number {text rest : List Char} (chars : ∀ c ∈ text, isNumberChar c = true)
    (stops : Stops rest) : (text ++ rest).takeWhile isNumberChar = text ∧
      (text ++ rest).dropWhile isNumberChar = rest := by
  rw [List.takeWhile_append_of_pos chars, List.dropWhile_append_of_pos chars]
  cases rest with
  | nil => simp
  | cons c rest =>
    have stop := stops c rfl
    simp [stop]

end JsonSyntax

/-- A float is written as a JSON number, not as an integer, and that number is read back. -/
structure FloatText.Exact (floats : FloatText) (x : Rat) : Prop where
  number : JsonSyntax.isNumber (floats.write x).toList = true
  fraction : JsonSyntax.isInteger (floats.write x).toList = false
  read : floats.read (floats.write x) = some x

def FloatText.ExactAt (floats : FloatText) : Value → Prop
  | .float x => floats.Exact x
  | _ => True

namespace JsonSyntax

variable {floats : FloatText}

theorem readNumber_int (n : Int) {rest : List Char} (stops : Stops rest) :
    readNumber floats (n.repr.toList ++ rest) = some (.int n, rest) := by
  obtain ⟨integer, value, chars⟩ := repr_isInteger n
  obtain ⟨text, later⟩ := takeWhile_number chars stops
  simp only [readNumber, text, later, integer, value, if_true]

theorem readNumber_float {x : Rat} (exact : floats.Exact x) {rest : List Char}
    (stops : Stops rest) :
    readNumber floats ((floats.write x).toList ++ rest) = some (.float x, rest) := by
  obtain ⟨text, later⟩ := takeWhile_number (isNumberChar_of_isNumber exact.number) stops
  simp only [readNumber, text, later, exact.fraction, exact.number, String.ofList_toList,
    exact.read, if_true, Option.map_some]
  rfl

theorem numberChar_ne {c : Char} (number : isNumberChar c = true) :
    isBlank c = false ∧ c ≠ ']' ∧ c ≠ '}' ∧ c ≠ '"' ∧ c ≠ '[' ∧ c ≠ '{' ∧ c ≠ 'n' ∧ c ≠ 't' ∧
      c ≠ 'f' := by
  refine ⟨?_, ?_, ?_, ?_, ?_, ?_, ?_, ?_, ?_⟩
  · rw [Bool.eq_false_iff]
    intro blank
    simp only [isBlank, Bool.or_eq_true, beq_iff_eq] at blank
    rcases blank with ((rfl | rfl) | rfl) | rfl <;> cases number
  all_goals
    rintro rfl
    cases number

/-- The text of a number begins with one of its own characters. -/
theorem number_cons {text : List Char} (nonempty : text ≠ [])
    (chars : ∀ c ∈ text, isNumberChar c = true) :
    ∃ c rest, text = c :: rest ∧ isNumberChar c = true := by
  cases text with
  | nil => exact absurd rfl nonempty
  | cons c rest => exact ⟨c, rest, rfl, chars c (List.mem_cons_self ..)⟩

theorem write_cons {value : Value} (exact : value.Every floats.ExactAt) :
    ∃ c rest, write floats value = c :: rest ∧ isBlank c = false ∧ c ≠ ']' ∧ c ≠ '}' := by
  match value with
  | .null | .bool true | .bool false | .string _ | .array [] | .array (_ :: _) | .object []
  | .object ((_, _) :: _) =>
    rw [write]
    exact ⟨_, _, rfl, by decide, by decide, by decide⟩
  | .int n =>
    obtain ⟨integer, -, chars⟩ := repr_isInteger n
    obtain ⟨c, rest, text, number⟩ := number_cons (isInteger_ne_nil integer) chars
    obtain ⟨blank, bracket, brace, -⟩ := numberChar_ne number
    exact ⟨c, rest, text, blank, bracket, brace⟩
  | .float x =>
    have number : isNumber (floats.write x).toList = true := exact.number
    obtain ⟨c, rest, text, number⟩ :=
      number_cons (isNumber_ne_nil number) (isNumberChar_of_isNumber number)
    obtain ⟨blank, bracket, brace, -⟩ := numberChar_ne number
    exact ⟨c, rest, text, blank, bracket, brace⟩

theorem skipBlanks_cons {c : Char} (rest : List Char) (visible : isBlank c = false) :
    skipBlanks (c :: rest) = c :: rest := by
  rw [skipBlanks, List.dropWhile_cons, visible]
  rfl

theorem readValue_number {n : Nat} {text : List Char} (rest : List Char) (nonempty : text ≠ [])
    (chars : ∀ c ∈ text, isNumberChar c = true) :
    readValue floats (n + 1) (text ++ rest) = readNumber floats (text ++ rest) := by
  obtain ⟨c, later, rfl, number⟩ := number_cons nonempty chars
  obtain ⟨blank, -, -, quote, bracket, brace, null, true', false'⟩ := numberChar_ne number
  simp only [List.cons_append, readValue, skipBlanks_cons _ blank, if_neg quote, if_neg bracket,
    if_neg brace, if_neg null, if_neg true', if_neg false']

theorem readValue_string {n : Nat} (text : String) (rest : List Char)
    (enough : (writeString text).length ≤ n + 1) :
    readValue floats (n + 1) (writeString text ++ rest) = some (.string text, rest) := by
  have read := @readString_write n text.toList rest (by
    simp only [writeString, List.length_cons] at enough
    omega)
  simp only [writeString, List.cons_append, List.append_assoc, List.nil_append, readValue,
    skipBlanks_cons _ (show isBlank '"' = false by decide), if_true, read, Option.map_some,
    String.ofList_toList]

def writeAll (floats : FloatText) : List Value → List Char
  | [] => []
  | item :: items => write floats item ++ writeItems floats items

def writeEach (floats : FloatText) : List (String × Value) → List Char
  | [] => []
  | (key, value) :: members =>
    writeString key ++ ':' :: (write floats value ++ writeMembers floats members)

/-- Behind an item stands its bracket, or a comma and the next item. -/
theorem stops_writeItems (items : List Value) (rest : List Char) :
    Stops (writeItems floats items ++ rest) := by
  cases items with
  | nil =>
    rw [writeItems]
    intro c head
    cases head
    decide
  | cons item items =>
    rw [writeItems]
    intro c head
    cases head
    decide

theorem stops_writeMembers (members : List (String × Value)) (rest : List Char) :
    Stops (writeMembers floats members ++ rest) := by
  cases members with
  | nil =>
    rw [writeMembers]
    intro c head
    cases head
    decide
  | cons member members =>
    rw [writeMembers]
    intro c head
    cases head
    decide

mutual

/-- With as much fuel as it has characters, a written value is read back. -/
theorem readValue_write (value : Value) (exact : value.Every floats.ExactAt) (n : Nat)
    (rest : List Char) (enough : (write floats value).length ≤ n) (stops : Stops rest) :
    readValue floats n (write floats value ++ rest) = some (value, rest) := by
  obtain ⟨c, tail, text, -⟩ := write_cons exact
  obtain ⟨n, rfl⟩ : ∃ m, n = m + 1 := ⟨n - 1, by rw [text, List.length_cons] at enough; omega⟩
  match value with
  | .null | .bool true | .bool false | .array [] | .object [] =>
    rw [write]
    rfl
  | .int i =>
    obtain ⟨integer, -, chars⟩ := repr_isInteger i
    rw [write, readValue_number rest (isInteger_ne_nil integer) chars, readNumber_int i stops]
  | .float x =>
    have exact : floats.Exact x := exact
    rw [write, readValue_number rest (isNumber_ne_nil exact.number)
      (isNumberChar_of_isNumber exact.number), readNumber_float exact stops]
  | .string text =>
    rw [write] at enough ⊢
    exact readValue_string text rest enough
  | .array (item :: items) =>
    rw [write] at enough ⊢
    rw [Value.Every] at exact
    have read := readItems_write (item :: items) exact n rest
      (by rw [List.length_cons] at enough; exact Nat.le_of_succ_le_succ enough) (List.cons_ne_nil _ _)
    rw [Value.EveryItem] at exact
    obtain ⟨c, tail, text, visible, bracket, -⟩ := write_cons exact.1
    simp only [writeAll, text, List.cons_append] at read ⊢
    simp only [readValue, skipBlanks_cons _ (show isBlank '[' = false by decide),
      if_neg (show ¬ '[' = '"' by decide), if_true, skipBlanks_cons _ visible]
    split
    · rename_i same
      cases same
      exact absurd rfl bracket
    · rw [read]
      rfl
  | .object ((key, value) :: members) =>
    rw [write] at enough ⊢
    rw [Value.Every] at exact
    have read := readMembers_write ((key, value) :: members) exact n rest
      (by rw [List.length_cons] at enough; exact Nat.le_of_succ_le_succ enough) (List.cons_ne_nil _ _)
    simp only [writeEach, writeString, List.cons_append] at read ⊢
    simp only [readValue, skipBlanks_cons _ (show isBlank '{' = false by decide),
      if_neg (show ¬ '{' = '"' by decide), if_neg (show ¬ '{' = '[' by decide), if_true,
      skipBlanks_cons _ (show isBlank '"' = false by decide)]
    split
    · rename_i same
      cases same
    · rw [read]
      rfl

theorem readItems_write (items : List Value) (exact : Value.EveryItem floats.ExactAt items)
    (n : Nat) (rest : List Char) (enough : (writeAll floats items).length ≤ n)
    (nonempty : items ≠ []) :
    readItems floats n (writeAll floats items ++ rest) = some (items, rest) := by
  match items with
  | [] => exact absurd rfl nonempty
  | item :: items =>
    rw [Value.EveryItem] at exact
    obtain ⟨here, later⟩ := exact
    obtain ⟨c, tail, text, -⟩ := write_cons here
    rw [writeAll, List.length_append] at enough
    obtain ⟨n, rfl⟩ : ∃ m, n = m + 1 := ⟨n - 1, by rw [text, List.length_cons] at enough; omega⟩
    have positive : 0 < (writeItems floats items).length := by
      cases items <;> simp [writeItems]
    have read := readValue_write item here n (writeItems floats items ++ rest) (by omega)
      (stops_writeItems items rest)
    rw [writeAll, List.append_assoc, readItems, read]
    match items with
    | [] =>
      rw [writeItems]
      rfl
    | next :: items =>
      have others := readItems_write (next :: items) later n rest (by
        rw [writeItems, List.length_cons] at enough
        rw [writeAll]
        omega) (List.cons_ne_nil _ _)
      rw [writeAll] at others
      simp only [writeItems, Option.bind_eq_bind, Option.bind_some, List.cons_append,
        skipBlanks_cons _ (show isBlank ',' = false by decide), others]
      rfl

theorem readMembers_write (members : List (String × Value))
    (exact : Value.EveryMember floats.ExactAt members) (n : Nat) (rest : List Char)
    (enough : (writeEach floats members).length ≤ n) (nonempty : members ≠ []) :
    readMembers floats n (writeEach floats members ++ rest) = some (members, rest) := by
  match members with
  | [] => exact absurd rfl nonempty
  | (key, value) :: members =>
    rw [Value.EveryMember] at exact
    obtain ⟨here, later⟩ := exact
    simp only [writeEach, writeString, List.length_append, List.length_cons,
      List.length_nil] at enough
    obtain ⟨n, rfl⟩ : ∃ m, n = m + 1 := ⟨n - 1, by omega⟩
    have positive : 0 < (writeMembers floats members).length := by
      cases members <;> simp [writeMembers]
    have name := @readString_write n key.toList
      (':' :: (write floats value ++ (writeMembers floats members ++ rest))) (by
        simp only [List.length_append, List.length_cons, List.length_nil]
        omega)
    have read := readValue_write value here n (writeMembers floats members ++ rest) (by omega)
      (stops_writeMembers members rest)
    simp only [writeEach, writeString, List.cons_append, List.append_assoc, List.nil_append,
      readMembers, skipBlanks_cons _ (show isBlank '"' = false by decide), name,
      Option.bind_eq_bind, Option.bind_some,
      skipBlanks_cons _ (show isBlank ':' = false by decide), read]
    match members with
    | [] =>
      rw [writeMembers, String.ofList_toList]
      rfl
    | (next, child) :: members =>
      have others := readMembers_write ((next, child) :: members) later n rest (by
        rw [writeMembers, List.length_cons] at enough
        rw [writeEach]
        omega) (List.cons_ne_nil _ _)
      rw [writeEach] at others
      simp only [writeMembers, List.cons_append,
        skipBlanks_cons _ (show isBlank ',' = false by decide), others, String.ofList_toList]
      rfl

end

/-- A written value is what its text is read as. -/
theorem read_write {value : Value} (exact : value.Every floats.ExactAt) :
    read floats (.ofList (write floats value)) = some value := by
  have back := readValue_write value exact ((write floats value).length + 1) []
    (Nat.le_succ _) nofun
  rw [List.append_nil] at back
  rw [read, String.toList_ofList, back]
  rfl

end JsonSyntax

end Parlando
