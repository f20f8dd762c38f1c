import Parlando.Data.Except
import Parlando.Data.Json

namespace Parlando

/-- How a type stands in JSON: what it writes, it reads back. A number outside the range of its
integer type is one more way for a document to be refused. -/
structure Codec (α : Type) where
  encode : α → Value
  decode : Value → Except String α
  decode_encode : ∀ a, decode (encode a) = .ok a

namespace Codec

variable {α σ : Type}

def value : Codec Value where
  encode v := v
  decode := .ok
  decode_encode _ := rfl

def bool : Codec Bool where
  encode := .bool
  decode v := orError v.asBool? "expected a boolean"
  decode_encode _ := rfl

def int : Codec Int where
  encode := .int
  decode v := orError v.asI64? "expected an integer"
  decode_encode _ := rfl

def nat : Codec Nat where
  encode n := .int n
  decode v := do
    let n ← orError v.asI64? "expected an integer"
    if n < 0 then .error "expected a nonnegative integer" else .ok n.toNat
  decode_encode n := by
    have nonnegative : ¬(n : Int) < 0 := by omega
    change (if (n : Int) < 0 then .error "expected a nonnegative integer"
      else .ok (n : Int).toNat : Except String Nat) = .ok n
    rw [if_neg nonnegative, Int.toNat_natCast]

def float : Codec Rat where
  encode := .float
  decode v := orError v.asF64? "expected a number"
  decode_encode _ := rfl

def string : Codec String where
  encode := .string
  decode v := orError v.asStr? "expected a string"
  decode_encode _ := rfl

def option (codec : Codec α) (notNull : ∀ a, (codec.encode a).isNull = false) :
    Codec (Option α) where
  encode
    | some a => codec.encode a
    | none => .null
  decode v := if v.isNull then .ok none else (codec.decode v).map some
  decode_encode
    | some a => by
      simp only [notNull, codec.decode_encode]
      rfl
    | none => rfl

def list (codec : Codec α) : Codec (List α) where
  encode items := .array (items.map codec.encode)
  decode v := do
    let items ← orError v.asArray? "expected a sequence"
    items.mapM codec.decode
  decode_encode items := by
    change (items.map codec.encode).mapM codec.decode = _
    induction items with
    | nil => rfl
    | cons item items ih =>
      rw [List.map_cons, List.mapM_cons, codec.decode_encode, ih]
      rfl

/-- A closed vocabulary, written as a string and also read as an object without content. -/
def enumeration (encode : α → String) (parse? : String → Option α)
    (parse_encode : ∀ a, parse? (encode a) = some a) : Codec α where
  encode a := .string (encode a)
  decode v :=
    let name := match v with
      | .string name => some name
      | .object [(name, .null)] => some name
      | _ => none
    orError (name.bind parse?) "unknown variant"
  decode_encode a := by
    change orError (parse? (encode a)) _ = _
    rw [parse_encode]
    rfl

end Codec

/-- One member of a record's JSON form; `copy` takes the member's value from another record. -/
structure Field (σ : Type) where
  key : String
  encode : σ → Value
  decode : Value → Except String (σ → σ)
  copy : σ → σ → σ
  decode_encode : ∀ s, decode (encode s) = .ok (copy s)

namespace Field

variable {α σ : Type}

def of (codec : Codec α) (key : String) (get : σ → α) (set : α → σ → σ) : Field σ where
  key
  encode s := codec.encode (get s)
  decode v := (codec.decode v).map set
  copy s := set (get s)
  decode_encode s := by rw [codec.decode_encode]; rfl

/-- Reads the fields one after the other; one that is missing keeps its value. -/
def readAll (members : List (String × Value)) (fields : List (Field σ)) (s : σ) :
    Except String σ :=
  fields.foldlM (fun s field =>
    match Value.member? members field.key with
    | some v => (field.decode v).map fun set => set s
    | none => .ok s) s

theorem readAll_encode {members : List (String × Value)} {fields : List (Field σ)} {s : σ}
    (stored : ∀ field ∈ fields, Value.member? members field.key = some (field.encode s)) (t : σ) :
    readAll members fields t = .ok (fields.foldl (fun t field => field.copy s t) t) := by
  induction fields generalizing t with
  | nil => rfl
  | cons field fields ih =>
    have here : (match Value.member? members field.key with
        | some v => (field.decode v).map fun (set : σ → σ) => set t
        | none => .ok t) = .ok (field.copy s t) := by
      simp only [stored field (List.mem_cons_self ..), field.decode_encode]
      rfl
    rw [readAll, List.foldlM_cons, here]
    exact ih (fun other mem => stored other (List.mem_cons_of_mem _ mem)) _

end Field

namespace Codec

variable {σ : Type}

theorem member?_encode {fields : List (Field σ)} (distinct : (fields.map Field.key).Nodup) (s : σ)
    {field : Field σ} (mem : field ∈ fields) :
    Value.member? (fields.map fun field => (field.key, field.encode s)) field.key =
      some (field.encode s) := by
  induction fields with
  | nil => exact absurd mem List.not_mem_nil
  | cons first fields ih =>
    rw [List.map_cons, List.nodup_cons] at distinct
    rw [List.map_cons, Value.member?_cons]
    rcases List.mem_cons.mp mem with rfl | mem
    · exact if_pos rfl
    · have other : first.key ≠ field.key := fun same =>
        distinct.1 (same ▸ List.mem_map_of_mem mem)
      rw [if_neg other]
      exact ih distinct.2 mem

/--
A record with a default for every field and none besides the declared ones. Its fields are also
read from a sequence, in the order of their declaration.
-/
def record (fields : List (Field σ)) (default : σ) (distinct : (fields.map Field.key).Nodup)
    (complete : ∀ s t, fields.foldl (fun t field => field.copy s t) t = s) : Codec σ where
  encode s := .object (Value.sortMembers (fields.map fun field => (field.key, field.encode s)))
  decode
    | .object members =>
      if members.any fun member => !fields.any fun field => field.key == member.1 then
        .error "unknown field"
      else Field.readAll members fields default
    | .array items =>
      if items.length > fields.length then .error "invalid length"
      else (fields.zip items).foldlM (fun s (field, v) =>
        (field.decode v).map fun set => set s) default
    | _ => .error "invalid type"
  decode_encode s := by
    have known : ((Value.sortMembers (fields.map fun field => (field.key, field.encode s))).any
        fun member => !fields.any fun field => field.key == member.1) = false := by
      rw [List.any_eq_false]
      intro member mem
      obtain ⟨field, declared, rfl⟩ := List.mem_map.mp (Value.mem_sortMembers mem)
      simpa using ⟨field, declared, rfl⟩
    simp only [known]
    refine (Field.readAll_encode (fun field mem => ?_) default).trans
      (congrArg Except.ok (complete s default))
    rw [Value.member?_sortMembers]
    exact member?_encode distinct s mem

end Codec

end Parlando
