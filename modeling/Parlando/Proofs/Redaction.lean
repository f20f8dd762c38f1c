import Parlando.StoredConfig

namespace Parlando

/-- What stays under a credential-shaped key: a secret reference, and nothing. -/
def isHarmless (child : Value) : Bool :=
  child.asStr?.any fun text => text == "" || isExperimentGameSecretReference text

mutual

/-- Every credential-shaped member, at any depth, holds a secret reference or nothing. -/
def redactionKeeps : Value → Bool
  | .object members => redactionKeepsMembers members
  | .array items => redactionKeepsItems items
  | _ => true

def redactionKeepsMembers : List (String × Value) → Bool
  | [] => true
  | (key, child) :: members =>
    (if isRedactedKey key then isHarmless child else redactionKeeps child) &&
      redactionKeepsMembers members

def redactionKeepsItems : List Value → Bool
  | [] => true
  | item :: items => redactionKeeps item && redactionKeepsItems items

end

def redactChild (key : String) (child : Value) : Value :=
  if isRedactedKey key then
    if child.asStr?.any isExperimentGameSecretReference then child else .string ""
  else redactSecretFields child

theorem redactMembers_eq_map (members : List (String × Value)) :
    redactMembers members = members.map fun member => (member.1, redactChild member.1 member.2) := by
  induction members with
  | nil => rfl
  | cons member members ih =>
    obtain ⟨key, child⟩ := member
    rw [redactMembers, ih]
    rfl

theorem redactItems_eq_map (items : List Value) :
    redactItems items = items.map redactSecretFields := by
  induction items with
  | nil => rfl
  | cons item items ih => rw [redactItems, ih, List.map_cons]

/-- A text is kept under a credential-shaped key exactly if it is harmless. -/
theorem redactChild_eq_self_of_isRedactedKey {key : String} (redacted : isRedactedKey key = true)
    (child : Value) : redactChild key child = child ↔ isHarmless child = true := by
  rw [redactChild, if_pos redacted]
  cases child with
  | string text =>
    change (if isExperimentGameSecretReference text = true then Value.string text else .string "") =
      .string text ↔ (text == "" || isExperimentGameSecretReference text) = true
    cases reference : isExperimentGameSecretReference text with
    | true => simp
    | false =>
      rw [if_neg Bool.false_ne_true, Value.string.injEq, Bool.or_false, beq_iff_eq]
      exact eq_comm
  | null | bool _ | int _ | float _ | array _ | object _ =>
    constructor
    · intro same
      cases same
    · intro harmless
      cases harmless

mutual

theorem redactSecretFields_eq_self (v : Value) :
    redactSecretFields v = v ↔ redactionKeeps v = true := by
  match v with
  | .object members =>
    rw [redactSecretFields, redactionKeeps, Value.object.injEq]
    exact redactMembers_eq_self members
  | .array items =>
    rw [redactSecretFields, redactionKeeps, Value.array.injEq]
    exact redactItems_eq_self items
  | .null | .bool _ | .int _ | .float _ | .string _ =>
    simp only [redactSecretFields, redactionKeeps]

theorem redactMembers_eq_self (members : List (String × Value)) :
    redactMembers members = members ↔ redactionKeepsMembers members = true := by
  match members with
  | [] => simp only [redactMembers, redactionKeepsMembers]
  | (key, child) :: members =>
    have here : redactChild key child = child ↔
        (if isRedactedKey key then isHarmless child else redactionKeeps child) = true := by
      by_cases redacted : isRedactedKey key = true
      · rw [if_pos redacted]
        exact redactChild_eq_self_of_isRedactedKey redacted child
      · rw [redactChild, if_neg redacted, if_neg redacted]
        exact redactSecretFields_eq_self child
    have later := redactMembers_eq_self members
    rw [redactMembers_eq_map] at later
    rw [redactMembers_eq_map, redactionKeepsMembers, Bool.and_eq_true, ← here, ← later,
      List.map_cons, List.cons.injEq, Prod.mk.injEq]
    simp only [true_and]

theorem redactItems_eq_self (items : List Value) :
    redactItems items = items ↔ redactionKeepsItems items = true := by
  match items with
  | [] => simp only [redactItems, redactionKeepsItems]
  | item :: items =>
    rw [redactItems, redactionKeepsItems, Bool.and_eq_true, List.cons.injEq,
      redactSecretFields_eq_self item, redactItems_eq_self items]

end

mutual

theorem redactionKeeps_redact (v : Value) : redactionKeeps (redactSecretFields v) = true := by
  match v with
  | .object members =>
    rw [redactSecretFields, redactionKeeps]
    exact redactionKeepsMembers_redact members
  | .array items =>
    rw [redactSecretFields, redactionKeeps]
    exact redactionKeepsItems_redact items
  | .null | .bool _ | .int _ | .float _ | .string _ =>
    simp only [redactSecretFields, redactionKeeps]

theorem redactionKeepsMembers_redact (members : List (String × Value)) :
    redactionKeepsMembers (redactMembers members) = true := by
  match members with
  | [] => simp only [redactMembers, redactionKeepsMembers]
  | (key, child) :: members =>
    have later := redactionKeepsMembers_redact members
    rw [redactMembers_eq_map] at later
    rw [redactMembers_eq_map, List.map_cons, redactionKeepsMembers, later, Bool.and_true]
    by_cases redacted : isRedactedKey key = true
    · rw [if_pos redacted, redactChild, if_pos redacted]
      split
      · rename_i reference
        rw [isHarmless]
        cases text : child.asStr? with
        | none =>
          rw [text] at reference
          cases reference
        | some text' =>
          rw [text, Option.any_some] at reference
          rw [Option.any_some, reference, Bool.or_true]
      · rfl
    · rw [if_neg redacted, redactChild, if_neg redacted]
      exact redactionKeeps_redact child

theorem redactionKeepsItems_redact (items : List Value) :
    redactionKeepsItems (redactItems items) = true := by
  match items with
  | [] => simp only [redactItems, redactionKeepsItems]
  | item :: items =>
    rw [redactItems, redactionKeepsItems, redactionKeeps_redact item,
      redactionKeepsItems_redact items, Bool.and_true]

end

theorem redact_redact (v : Value) :
    redactSecretFields (redactSecretFields v) = redactSecretFields v :=
  (redactSecretFields_eq_self _).mpr (redactionKeeps_redact v)

section

variable (f : Rat → Rat)

mutual

/-- Redaction looks at keys and texts, which come back from the store as they are. -/
theorem redact_readBack (v : Value) :
    redactSecretFields (v.readBack f) = (redactSecretFields v).readBack f := by
  match v with
  | .object members =>
    rw [Value.readBack, redactSecretFields, redactSecretFields, Value.readBack]
    exact congrArg Value.object (redactMembers_readBack members)
  | .array items =>
    rw [Value.readBack, redactSecretFields, redactSecretFields, Value.readBack]
    exact congrArg Value.array (redactItems_readBack items)
  | .null | .bool _ | .int _ | .float _ | .string _ =>
    simp only [redactSecretFields, Value.readBack]

theorem redactMembers_readBack (members : List (String × Value)) :
    redactMembers (Value.readBackMembers f members) =
      Value.readBackMembers f (redactMembers members) := by
  match members with
  | [] => simp only [redactMembers, Value.readBackMembers]
  | (key, child) :: members =>
    have here : redactChild key (child.readBack f) = (redactChild key child).readBack f := by
      rw [redactChild, redactChild, Value.asStr?_readBack, redact_readBack child]
      split
      · split <;> rfl
      · rfl
    have later := redactMembers_readBack members
    rw [redactMembers_eq_map, redactMembers_eq_map] at later
    rw [Value.readBackMembers, redactMembers_eq_map, redactMembers_eq_map, List.map_cons,
      List.map_cons, Value.readBackMembers, here, later]

theorem redactItems_readBack (items : List Value) :
    redactItems (Value.readBackItems f items) = Value.readBackItems f (redactItems items) := by
  match items with
  | [] => simp only [redactItems, Value.readBackItems]
  | item :: items =>
    rw [Value.readBackItems, redactItems, redactItems, Value.readBackItems, redact_readBack item,
      redactItems_readBack items]

end

def restored (v : Value) : Value := (redactSecretFields v).readBack f

/-- A document comes back unchanged exactly if redaction and the reader each leave it alone. -/
theorem restored_eq_self (v : Value) :
    restored f v = v ↔ redactionKeeps v = true ∧ ∀ x ∈ v.doubles, f x = x := by
  rw [← redactSecretFields_eq_self, ← Value.readBack_eq_self]
  constructor
  · intro same
    have kept : redactSecretFields v = v := by
      calc redactSecretFields v = redactSecretFields (restored f v) := by rw [same]
        _ = (redactSecretFields (redactSecretFields v)).readBack f := redact_readBack f _
        _ = restored f v := by rw [redact_redact, restored]
        _ = v := same
    rw [restored, kept] at same
    exact ⟨kept, same⟩
  · intro ⟨kept, same⟩
    rw [restored, kept, same]

end

/-- What comes back of a record's JSON form comes back of its fields, where no key looks like a credential. -/
theorem Codec.restored_record {σ : Type} {fields : List (Field σ)} {default : σ} {distinct complete}
    {f : Rat → Rat} {r : σ → σ} (keys : (fields.all fun field => !isRedactedKey field.key) = true)
    (values : ∀ field ∈ fields, ∀ s, restored f (field.encode s) = field.encode (r s)) (s : σ) :
    restored f ((Codec.record fields default distinct complete).encode s) =
      (Codec.record fields default distinct complete).encode (r s) := by
  change restored f (.object (Value.sortMembers _)) = .object (Value.sortMembers _)
  have each (members : List (String × Value)) : restored f (.object members) =
      .object (members.map fun member => (member.1, (redactChild member.1 member.2).readBack f)) := by
    rw [restored, redactSecretFields, Value.readBack, redactMembers_eq_map,
      Value.readBackMembers_eq_map, List.map_map]
    rfl
  rw [each, ← Value.sortMembers_map (f := fun key child => (redactChild key child).readBack f),
    List.map_map]
  refine congrArg (fun members => Value.object (Value.sortMembers members))
    (List.map_congr_left fun field mem => ?_)
  have plain : isRedactedKey field.key = false := by simpa using List.all_eq_true.mp keys field mem
  have value := values field mem s
  rw [restored] at value
  simp only [Function.comp, redactChild, plain, Bool.false_eq_true, if_false, value]

section

variable {α : Type} (f : Rat → Rat)

@[simp] theorem restored_value (v : Value) :
    restored f (Codec.value.encode v) = Codec.value.encode (restored f v) := rfl

@[simp] theorem restored_bool (b : Bool) :
    restored f (Codec.bool.encode b) = Codec.bool.encode b := rfl

@[simp] theorem restored_int (n : Int) : restored f (Codec.int.encode n) = Codec.int.encode n := rfl

@[simp] theorem restored_nat (n : Nat) : restored f (Codec.nat.encode n) = Codec.nat.encode n := rfl

@[simp] theorem restored_float (x : Rat) :
    restored f (Codec.float.encode x) = Codec.float.encode (f x) := rfl

@[simp] theorem restored_string (text : String) :
    restored f (Codec.string.encode text) = Codec.string.encode text := rfl

@[simp] theorem restored_enumeration (encode : α → String) (parse? : String → Option α)
    (parse_encode : ∀ a, parse? (encode a) = some a) (a : α) :
    restored f ((Codec.enumeration encode parse? parse_encode).encode a) =
      (Codec.enumeration encode parse? parse_encode).encode a := rfl

variable {f}

theorem restored_option {codec : Codec α} {notNull} {r : α → α}
    (same : ∀ a, restored f (codec.encode a) = codec.encode (r a)) (a : Option α) :
    restored f ((codec.option notNull).encode a) = (codec.option notNull).encode (a.map r) := by
  cases a with
  | none => rfl
  | some a => exact same a

theorem restored_option_plain {codec : Codec α} {notNull}
    (same : ∀ a, restored f (codec.encode a) = codec.encode a) (a : Option α) :
    restored f ((codec.option notNull).encode a) = (codec.option notNull).encode a := by
  rw [restored_option (r := id) same, Option.map_id_fun, id]

theorem restored_list {codec : Codec α}
    (same : ∀ a, restored f (codec.encode a) = codec.encode a) (items : List α) :
    restored f (codec.list.encode items) = codec.list.encode items := by
  change restored f (.array (items.map codec.encode)) = .array (items.map codec.encode)
  rw [restored, redactSecretFields, redactItems_eq_map, Value.readBack,
    Value.readBackItems_eq_map, List.map_map, List.map_map]
  exact congrArg Value.array (List.map_congr_left fun item _ => same item)

end

end Parlando
