import Parlando.Proofs.SecretReferences

namespace Parlando

def Value.denotes : Value → Rat → Prop
  | .int value, x => x = value
  | .float value, x => x = value
  | _, _ => False

def NearestDouble (x y : Rat) : Prop := IsDouble y ∧ ∀ z, IsDouble z → |y - x| ≤ |z - x|

def InBounds {α : Type} [LE α] (minimum maximum : Option α) (x : α) : Prop :=
  (∀ bound ∈ minimum, bound ≤ x) ∧ ∀ bound ∈ maximum, x ≤ bound

section Conformance

variable (formats : TextFormats)

def TextConforms (format : StringFormat) (required : Bool) (text : String) : Prop :=
  (required = true → isBlank text = false) ∧ match format with
  | .plain => True
  | .uri => ∃ uri, formats.parseUri text = some uri ∧
      (uri.scheme = some "http" ∨ uri.scheme = some "https") ∧ uri.host.isSome
  | .yaml => isBlank text = true ∨ ∃ members, formats.parseYaml text = some (.object members)

/-- A value that is no object satisfies the field's type, format, bounds and choices. -/
def LeafConforms : AgentConfigField → Value → Prop
  | .mk _ .json _ _, _ => True
  | .mk _ (.string format) required _, value =>
    ∃ text, value = .string text ∧ TextConforms formats format required text
  | .mk _ .boolean _ _, value => ∃ flag, value = .bool flag
  | .mk _ (.integer minimum maximum) _ _, value =>
    ∃ n, value = .int n ∧ -2 ^ 63 ≤ n ∧ n < 2 ^ 63 ∧ InBounds minimum maximum n
  | .mk _ (.number minimum maximum) _ _, value =>
    ∃ x, value.asF64? = some x ∧ InBounds (minimum.bind Bound.value?) (maximum.bind Bound.value?) x
  | .mk _ (.choice choices) _ _, value =>
    ∃ text, value = .string text ∧ ∃ choice ∈ choices, choice.value = text
  | .mk _ (.object _) _ _, _ => False
  | .mk _ (.secretReference _) _ _, value =>
    ∃ reference, value = .string reference ∧ isSecretReference reference = true

/-- What a field stores for a value that is no object: the value, a number as a double. -/
def leafValue : AgentConfigField → Value → Value
  | .mk _ (.number _ _) _ _, value => (value.asF64?.map Value.float).getD value
  | _, value => value

/-- No member is under a key that the level does not declare. -/
def DeclaresAll (fields : List AgentConfigField) (members : List (String × Value)) : Prop :=
  ∀ member ∈ members, ∃ field ∈ fields, field.key = member.1

mutual

/-- Stored settings of a field: what each level holds is declared, complete and as declared. -/
def Conforms : AgentConfigField → Value → Prop
  | .mk _ (.object fields) _ _, value =>
    ∃ members, value = .object members ∧ DeclaresAll fields members ∧ ConformsFields fields members
  | .mk key (.number minimum maximum) required defaultValue, value =>
    (∃ x, value = .float x) ∧
      LeafConforms formats (.mk key (.number minimum maximum) required defaultValue) value
  | field, value => LeafConforms formats field value

def ConformsFields : List AgentConfigField → List (String × Value) → Prop
  | [], _ => True
  | field :: fields, members =>
    (match Value.member? members field.key with
      | some value => Conforms field value
      | none => field.required = false) ∧ ConformsFields fields members

end

mutual

/-- Given settings of a field: every value is as declared, and what is missing has a default. -/
def Acceptable : AgentConfigField → Value → Prop
  | .mk _ (.object fields) _ _, value =>
    ∃ members, value = .object members ∧ DeclaresAll fields members ∧
      AcceptableFields fields members
  | field, value => LeafConforms formats field value

def AcceptableFields : List AgentConfigField → List (String × Value) → Prop
  | [], _ => True
  | field :: fields, members =>
    (match Value.member? members field.key with
      | some value => Acceptable field value
      | none => field.required = true → field.defaultValue.isNull = false) ∧
      AcceptableFields fields members

end

def LeafKept : AgentConfigField → Value → Value → Prop
  | .mk _ (.number _ _) _ _, given, stored =>
    ∃ x y, given.denotes x ∧ NearestDouble x y ∧ stored = .float y
  | _, given, stored => stored = given

mutual

def Fills : AgentConfigField → Value → Value → Prop
  | .mk _ (.object fields) _ _, given, stored =>
    ∃ members members', given = .object members ∧ stored = .object members' ∧
      FillsFields fields members members'
  | field, given, stored => LeafKept field given stored

def FillsFields : List AgentConfigField → List (String × Value) → List (String × Value) → Prop
  | [], _, _ => True
  | field :: fields, members, members' =>
    (match Value.member? members field.key with
      | some given => ∃ stored, Value.member? members' field.key = some stored ∧
          Fills field given stored
      | none => if field.defaultValue.isNull then Value.member? members' field.key = none
          else ∃ stored path, Value.member? members' field.key = some stored ∧
            normalizeValue formats field field.defaultValue path = .ok stored) ∧
      FillsFields fields members members'

end

mutual

def DefaultsValid : AgentConfigField → Prop
  | .mk _ (.object fields) _ _ => DefaultsValidFields fields
  | _ => True

def DefaultsValidFields : List AgentConfigField → Prop
  | [] => True
  | field :: fields =>
    (field.defaultValue.isNull = false →
      ∃ stored path, normalizeValue formats field field.defaultValue path = .ok stored) ∧
      DefaultsValid field ∧ DefaultsValidFields fields

end

end Conformance

section Leaves

variable {formats : TextFormats} {value stored : Value} {path : String}

theorem orError_iff {α : Type} {found : Option α} {message : String} {a : α} :
    orError found message = .ok a ↔ found = some a := by
  cases found <;> simp [orError]

theorem asStr?_iff {text : String} : value.asStr? = some text ↔ value = .string text := by
  cases value <;> simp [Value.asStr?]

theorem asObject?_iff {members : List (String × Value)} :
    value.asObject? = some members ↔ value = .object members := by
  cases value <;> simp [Value.asObject?]

theorem bind_ok_iff {ε α β : Type} {x : Except ε α} {f : α → Except ε β} {b : β} :
    (x >>= f) = .ok b ↔ ∃ a, x = .ok a ∧ f a = .ok b := by
  constructor
  · exact Except.of_bind_ok
  · rintro ⟨a, rfl, same⟩
    exact same

/-- A check in front of the rest of a block. -/
theorem check_ok_iff {c : Prop} [Decidable c] {α β : Type} {message : String}
    {go : α → Except String β} {x : Except String β} {b : β} :
    (if c then throw message >>= go else x) = .ok b ↔ ¬c ∧ x = .ok b := by
  constructor
  · exact Except.of_check_ok
  · rintro ⟨passed, same⟩
    rw [if_neg passed, same]

theorem pure_ok_iff {ε α : Type} {a b : α} : (pure a : Except ε α) = .ok b ↔ b = a :=
  ⟨fun same => (Except.ok.inj same).symm, fun same => same ▸ rfl⟩

theorem normalizeString_iff {format : StringFormat} {required : Bool} :
    normalizeString formats format required value path = .ok stored ↔
      (∃ text, value = .string text ∧ TextConforms formats format required text) ∧
        stored = value := by
  unfold normalizeString TextConforms
  simp only [bind_ok_iff, orError_iff, asStr?_iff, check_ok_iff, ← exists_and_right, and_assoc]
  refine exists_congr fun text => and_congr_right fun _ => and_congr (by simp) ?_
  cases format with
  | plain => simp only [pure_ok_iff, true_and]
  | uri =>
    simp only [bind_ok_iff, orError_iff, check_ok_iff, pure_ok_iff, ← exists_and_right, and_assoc]
    refine exists_congr fun uri => and_congr_right fun _ => ?_
    rw [← and_assoc]
    refine and_congr_left fun _ => ?_
    cases uri.host <;> simp [or_iff_not_imp_left]
  | yaml =>
    simp only
    split
    · rename_i blank
      simp [blank, pure_ok_iff]
    · rename_i written
      simp only [bind_ok_iff, orError_iff, check_ok_iff, pure_ok_iff, written, Bool.false_eq_true,
        false_or]
      constructor
      · rintro ⟨document, parsed, mapping, same⟩
        cases found : document.asObject? with
        | none => simp [found] at mapping
        | some members =>
          cases asObject?_iff.mp found
          exact ⟨⟨members, parsed⟩, same⟩
      · rintro ⟨⟨members, parsed⟩, same⟩
        exact ⟨_, parsed, by simp [Value.asObject?], same⟩

theorem inBounds_iff {α : Type} [LinearOrder α] [DecidableLT α] {minimum maximum : Option α}
    {x : α} : ¬(minimum.any (fun bound => decide (x < bound)) ||
      maximum.any fun bound => decide (x > bound)) = true ↔ InBounds minimum maximum x := by
  cases minimum <;> cases maximum <;> simp [InBounds]

theorem normalizeInteger_iff {minimum maximum : Option Int} :
    normalizeInteger minimum maximum value path = .ok stored ↔
      (∃ n, value = .int n ∧ -2 ^ 63 ≤ n ∧ n < 2 ^ 63 ∧ InBounds minimum maximum n) ∧
        stored = value := by
  unfold normalizeInteger
  simp only [bind_ok_iff, orError_iff, check_ok_iff, pure_ok_iff, Option.bind_eq_some_iff,
    inBounds_iff]
  constructor
  · rintro ⟨n, ⟨m, found, signed⟩, bounds, rfl⟩
    unfold asI64 at signed
    split at signed <;> cases signed
    rename_i range
    cases value <;> cases found
    exact ⟨⟨n, rfl, range.1, range.2, bounds⟩, rfl⟩
  · rintro ⟨⟨n, rfl, low, high, bounds⟩, rfl⟩
    exact ⟨n, ⟨n, rfl, if_pos ⟨low, high⟩⟩, bounds, rfl⟩

theorem normalizeNumber_iff {minimum maximum : Option Bound} :
    normalizeNumber minimum maximum value path = .ok stored ↔
      (∃ x, value.asF64? = some x ∧
        InBounds (minimum.bind Bound.value?) (maximum.bind Bound.value?) x) ∧
        stored = (value.asF64?.map Value.float).getD value := by
  unfold normalizeNumber
  simp only [bind_ok_iff, orError_iff, check_ok_iff, pure_ok_iff, inBounds_iff]
  constructor
  · rintro ⟨x, found, bounds, rfl⟩
    exact ⟨⟨x, found, bounds⟩, by rw [found]; rfl⟩
  · rintro ⟨⟨x, found, bounds⟩, rfl⟩
    exact ⟨x, found, bounds, by rw [found]; rfl⟩

theorem normalizeChoice_iff {choices : List AgentConfigChoice} :
    normalizeChoice choices value path = .ok stored ↔
      (∃ text, value = .string text ∧ ∃ choice ∈ choices, choice.value = text) ∧
        stored = value := by
  unfold normalizeChoice
  simp only [bind_ok_iff, orError_iff, asStr?_iff, check_ok_iff, pure_ok_iff]
  constructor
  · rintro ⟨text, rfl, declared, rfl⟩
    exact ⟨⟨text, rfl, by simpa using declared⟩, rfl⟩
  · rintro ⟨⟨text, rfl, declared⟩, rfl⟩
    exact ⟨text, rfl, by simpa using declared, rfl⟩

theorem normalizeSecretReference_iff :
    normalizeSecretReference value path = .ok stored ↔
      (∃ reference, value = .string reference ∧ isSecretReference reference = true) ∧
        stored = value := by
  unfold normalizeSecretReference
  simp only [bind_ok_iff, orError_iff, asStr?_iff, check_ok_iff, pure_ok_iff,
    ← exists_and_right, and_assoc]
  refine exists_congr fun reference => and_congr_right fun _ => ?_
  simp

def AgentConfigField.isLeaf : AgentConfigField → Bool
  | .mk _ (.object _) _ _ => false
  | _ => true

/-- A setting that is no object is accepted where it conforms, and stored as its leaf value. -/
theorem normalizeValue_leaf_iff {field : AgentConfigField} (leaf : field.isLeaf = true) :
    normalizeValue formats field value path = .ok stored ↔
      LeafConforms formats field value ∧ stored = leafValue field value := by
  match field with
  | .mk _ (.object _) _ _ => cases leaf
  | .mk _ .json _ _ =>
    rw [normalizeValue]
    exact ⟨fun same => ⟨trivial, (Except.ok.inj same).symm⟩, fun ⟨_, same⟩ => same ▸ rfl⟩
  | .mk _ (.string _) _ _ =>
    rw [normalizeValue]
    exact normalizeString_iff
  | .mk _ .boolean _ _ =>
    rw [normalizeValue]
    cases value <;> simp [Value.asBool?, orError, Except.map, LeafConforms, leafValue, eq_comm]
  | .mk _ (.integer _ _) _ _ =>
    rw [normalizeValue]
    exact normalizeInteger_iff
  | .mk _ (.number _ _) _ _ =>
    rw [normalizeValue]
    exact normalizeNumber_iff
  | .mk _ (.choice _) _ _ =>
    rw [normalizeValue]
    exact normalizeChoice_iff
  | .mk _ (.secretReference _) _ _ =>
    rw [normalizeValue]
    exact normalizeSecretReference_iff

theorem acceptable_leaf {field : AgentConfigField} (leaf : field.isLeaf = true) :
    Acceptable formats field value ↔ LeafConforms formats field value := by
  rw [Acceptable]
  rintro key fields required defaultValue rfl
  cases leaf

theorem normalizeValue_isOk_leaf {field : AgentConfigField} (leaf : field.isLeaf = true) :
    (∃ stored, normalizeValue formats field value path = .ok stored) ↔
      Acceptable formats field value := by
  rw [acceptable_leaf leaf]
  simp only [normalizeValue_leaf_iff leaf]
  exact ⟨fun ⟨_, conforms, _⟩ => conforms, fun conforms => ⟨_, conforms, rfl⟩⟩

/-- What is stored for a leaf conforms again, and is stored as it is. -/
theorem leafValue_conforms {field : AgentConfigField}
    (conforms : LeafConforms formats field value) :
    LeafConforms formats field (leafValue field value) ∧
      leafValue field (leafValue field value) = leafValue field value := by
  match field with
  | .mk key (.number minimum maximum) required defaultValue =>
    obtain ⟨x, found, bounds⟩ := conforms
    have same : leafValue (.mk key (.number minimum maximum) required defaultValue) value =
        .float x := by
      rw [leafValue, found]
      rfl
    rw [same]
    exact ⟨⟨x, rfl, bounds⟩, rfl⟩
  | .mk _ .json _ _ | .mk _ (.string _) _ _ | .mk _ .boolean _ _ | .mk _ (.integer ..) _ _
  | .mk _ (.object _) _ _ | .mk _ (.choice _) _ _ | .mk _ (.secretReference _) _ _ =>
    exact ⟨conforms, rfl⟩

theorem conforms_leaf {field : AgentConfigField} (leaf : field.isLeaf = true)
    (accepted : LeafConforms formats field value) :
    Conforms formats field (leafValue field value) := by
  have again := (leafValue_conforms accepted).1
  match field with
  | .mk _ (.object _) _ _ => cases leaf
  | .mk _ (.number _ _) _ _ =>
    rw [Conforms]
    obtain ⟨x, found, -⟩ := accepted
    exact ⟨⟨x, by rw [leafValue, found]; rfl⟩, again⟩
  | .mk _ .json _ _ | .mk _ (.string _) _ _ | .mk _ .boolean _ _ | .mk _ (.integer ..) _ _
  | .mk _ (.choice _) _ _ | .mk _ (.secretReference _) _ _ =>
    rw [Conforms]
    · exact again
    · nofun
    · nofun

/-- A number is stored as the double nearest to it, anything else as it is. -/
theorem leafKept_leafValue {field : AgentConfigField} (held : value.Every Value.HeldNumber)
    (accepted : LeafConforms formats field value) : LeafKept field value (leafValue field value) := by
  match field with
  | .mk _ (.number _ _) _ _ =>
    obtain ⟨x, found, -⟩ := accepted
    rw [leafValue, found]
    cases value with
    | int n =>
      cases found
      have held : -2 ^ 63 ≤ n ∧ n < 2 ^ 64 := held
      exact ⟨n, _, rfl, ⟨Double.isDouble_ofInt (by omega),
        fun z double => Double.ofInt_nearest double⟩, rfl⟩
    | float y =>
      cases found
      exact ⟨_, _, rfl, ⟨held, fun z _ => by rw [sub_self, abs_zero]; exact abs_nonneg _⟩, rfl⟩
    | _ => cases found
  | .mk _ .json _ _ | .mk _ (.string _) _ _ | .mk _ .boolean _ _ | .mk _ (.integer ..) _ _
  | .mk _ (.object _) _ _ | .mk _ (.choice _) _ _ | .mk _ (.secretReference _) _ _ => rfl

theorem fills_leaf {field : AgentConfigField} (leaf : field.isLeaf = true)
    (kept : LeafKept field value stored) : Fills formats field value stored := by
  rw [Fills]
  · exact kept
  · rintro key fields required defaultValue rfl
    cases leaf

end Leaves

section Levels

variable {formats : TextFormats} {field : AgentConfigField} {fields : List AgentConfigField}
  {object normalized values : List (String × Value)} {value stored : Value} {path : String}

def givenFor (field : AgentConfigField) (object : List (String × Value)) : Option Value :=
  (Value.member? object field.key).or
    (if field.defaultValue.isNull then none else some field.defaultValue)

theorem rejectUnknown_iff : rejectUnknown fields object path = .ok () ↔ DeclaresAll fields object := by
  unfold rejectUnknown DeclaresAll
  constructor
  · intro accepted member mem
    split at accepted
    · cases accepted
    · rename_i unknown
      simpa using List.find?_eq_none.mp unknown member mem
  · intro declared
    rw [List.find?_eq_none.mpr fun member mem => by simpa using declared member mem]

theorem normalizeValue_object_iff {key : String} {required : Bool} {defaultValue : Value} :
    normalizeValue formats (.mk key (.object fields) required defaultValue) value path =
      .ok stored ↔ ∃ members values, value = .object members ∧ DeclaresAll fields members ∧
        normalizeFields formats fields members path [] = .ok values ∧ stored = .object values := by
  rw [normalizeValue]
  simp only [bind_ok_iff, orError_iff, asObject?_iff, pure_ok_iff]
  constructor
  · rintro ⟨members, rfl, _, known, values, inside, rfl⟩
    exact ⟨members, values, rfl, rejectUnknown_iff.mp known, inside, rfl⟩
  · rintro ⟨members, values, rfl, declared, inside, rfl⟩
    exact ⟨members, rfl, ⟨⟩, rejectUnknown_iff.mpr declared, values, inside, rfl⟩

theorem normalizeFields_cons_iff :
    normalizeFields formats (field :: fields) object path normalized = .ok values ↔
      (∃ given stored, givenFor field object = some given ∧
        normalizeValue formats field given (path ++ "." ++ field.key) = .ok stored ∧
        normalizeFields formats fields object path
          (Value.insertMember field.key stored normalized) = .ok values) ∨
      (givenFor field object = none ∧ field.required = false ∧
        normalizeFields formats fields object path normalized = .ok values) := by
  rw [normalizeFields]
  change (match givenFor field object with | some value => _ | none => _) = _ ↔ _
  cases givenFor field object with
  | some given => simp [bind_ok_iff]
  | none =>
    simp only [check_ok_iff]
    simp

def EntryFor (formats : TextFormats) (object values : List (String × Value)) (path : String)
    (field : AgentConfigField) : Prop :=
  match givenFor field object with
  | some given => ∃ stored, Value.member? values field.key = some stored ∧
      normalizeValue formats field given (path ++ "." ++ field.key) = .ok stored
  | none => field.required = false ∧ Value.member? values field.key = none

/-- Every field of a level gets its entry, and nothing else is put there. -/
theorem normalizeFields_entries
    (distinct : fields.Pairwise fun field other => other.key ≠ field.key)
    (absent : ∀ field ∈ fields, Value.member? normalized field.key = none)
    (done : normalizeFields formats fields object path normalized = .ok values) :
    (∀ field ∈ fields, EntryFor formats object values path field) ∧
      (∀ key, (∀ field ∈ fields, field.key ≠ key) →
        Value.member? values key = Value.member? normalized key) ∧
      ∀ member ∈ values, member ∈ normalized ∨ ∃ field ∈ fields, field.key = member.1 := by
  induction fields generalizing normalized with
  | nil =>
    cases done
    exact ⟨nofun, fun _ _ => rfl, fun _ mem => .inl mem⟩
  | cons field fields ih =>
    obtain ⟨others, distinct⟩ := List.pairwise_cons.mp distinct
    have own := absent field (List.mem_cons_self ..)
    rcases normalizeFields_cons_iff.mp done with ⟨given, stored, found, here, done⟩ |
      ⟨found, optional, done⟩
    · obtain ⟨entries, kept, known⟩ := ih distinct (fun other mem => by
        rw [Value.member?_insertMember, if_neg (others other mem).symm]
        exact absent other (List.mem_cons_of_mem _ mem)) done
      refine ⟨fun other mem => ?_, fun key apart => ?_, fun member mem => ?_⟩
      · rcases List.mem_cons.mp mem with rfl | mem
        · unfold EntryFor
          rw [found]
          refine ⟨stored, ?_, here⟩
          rw [kept _ others, Value.member?_insertMember, if_pos rfl]
        · exact entries other mem
      · rw [kept key fun other mem => apart other (List.mem_cons_of_mem _ mem),
          Value.member?_insertMember, if_neg (apart field (List.mem_cons_self ..))]
      · rcases known member mem with inserted | ⟨other, otherMem, key⟩
        · rcases Value.mem_insertMember inserted with rfl | before
          · exact .inr ⟨field, List.mem_cons_self .., rfl⟩
          · exact .inl before
        · exact .inr ⟨other, List.mem_cons_of_mem _ otherMem, key⟩
    · obtain ⟨entries, kept, known⟩ :=
        ih distinct (fun other mem => absent other (List.mem_cons_of_mem _ mem)) done
      refine ⟨fun other mem => ?_, fun key apart => ?_, fun member mem => ?_⟩
      · rcases List.mem_cons.mp mem with rfl | mem
        · unfold EntryFor
          rw [found]
          exact ⟨optional, (kept _ others).trans own⟩
        · exact entries other mem
      · exact kept key fun other mem => apart other (List.mem_cons_of_mem _ mem)
      · exact (known member mem).imp_right fun ⟨other, otherMem, key⟩ =>
          ⟨other, List.mem_cons_of_mem _ otherMem, key⟩

/-- A level from an empty one: its entries, and no member that is not declared. -/
theorem normalizeFields_level (keyed : WellKeyedFields fields)
    (done : normalizeFields formats fields object path [] = .ok values) :
    (∀ field ∈ fields, EntryFor formats object values path field) ∧ DeclaresAll fields values := by
  have distinct : fields.Pairwise fun field other => other.key ≠ field.key := by
    clear done
    induction fields with
    | nil => exact .nil
    | cons field fields ih =>
      obtain ⟨-, others, -, rest⟩ := wellKeyedFields_cons keyed
      exact .cons others (ih rest)
  obtain ⟨entries, -, known⟩ := normalizeFields_entries distinct (fun _ _ => rfl) done
  exact ⟨entries, fun member mem => (known member mem).resolve_left List.not_mem_nil⟩

end Levels

variable {formats : TextFormats}

mutual

/-- Settings are accepted exactly where they are acceptable. -/
theorem normalizeValue_isOk_iff (field : AgentConfigField) (defaults : DefaultsValid formats field)
    (value : Value) (path : String) :
    (∃ stored, normalizeValue formats field value path = .ok stored) ↔
      Acceptable formats field value := by
  match field with
  | .mk _ (.object fields) _ _ =>
    rw [DefaultsValid] at defaults
    rw [Acceptable]
    simp only [normalizeValue_object_iff]
    constructor
    · rintro ⟨_, members, values, rfl, declared, inside, rfl⟩
      exact ⟨members, rfl, declared,
        (normalizeFields_isOk_iff fields defaults members path []).mp ⟨values, inside⟩⟩
    · rintro ⟨members, rfl, declared, acceptable⟩
      obtain ⟨values, inside⟩ :=
        (normalizeFields_isOk_iff fields defaults members path []).mpr acceptable
      exact ⟨_, members, values, rfl, declared, inside, rfl⟩
  | .mk _ .json _ _ | .mk _ (.string _) _ _ | .mk _ .boolean _ _ | .mk _ (.integer ..) _ _
  | .mk _ (.number ..) _ _ | .mk _ (.choice _) _ _ | .mk _ (.secretReference _) _ _ =>
    exact normalizeValue_isOk_leaf rfl

theorem normalizeFields_isOk_iff (fields : List AgentConfigField)
    (defaults : DefaultsValidFields formats fields) (object : List (String × Value))
    (path : String) (normalized : List (String × Value)) :
    (∃ values, normalizeFields formats fields object path normalized = .ok values) ↔
      AcceptableFields formats fields object := by
  match fields with
  | [] =>
    rw [AcceptableFields]
    exact ⟨fun _ => trivial, fun _ => ⟨normalized, rfl⟩⟩
  | field :: fields =>
    rw [DefaultsValidFields] at defaults
    obtain ⟨own, inner, rest⟩ := defaults
    have accepts := fun value => normalizeValue_isOk_iff field inner value
    have goesOn := normalizeFields_isOk_iff fields rest object path
    simp only [normalizeFields_cons_iff]
    rw [AcceptableFields]
    unfold givenFor
    cases found : Value.member? object field.key with
    | some given =>
      simp only [Option.some_or]
      constructor
      · rintro ⟨values, ⟨_, stored, same, here, done⟩ | ⟨same, -⟩⟩
        · cases same
          exact ⟨(accepts given _).mp ⟨stored, here⟩, (goesOn _).mp ⟨values, done⟩⟩
        · cases same
      · rintro ⟨acceptable, others⟩
        obtain ⟨stored, here⟩ := (accepts given (path ++ "." ++ field.key)).mpr acceptable
        obtain ⟨values, done⟩ := (goesOn (Value.insertMember field.key stored normalized)).mpr others
        exact ⟨values, .inl ⟨given, stored, rfl, here, done⟩⟩
    | none =>
      simp only [Option.none_or]
      cases missing : field.defaultValue.isNull with
      | true =>
        simp only [if_true, reduceCtorEq, imp_false]
        constructor
        · rintro ⟨values, ⟨_, _, same, -⟩ | ⟨-, optional, done⟩⟩
          · cases same
          · exact ⟨by simp [optional], (goesOn _).mp ⟨values, done⟩⟩
        · rintro ⟨optional, others⟩
          obtain ⟨values, done⟩ := (goesOn normalized).mpr others
          exact ⟨values, .inr ⟨trivial, by simpa using optional, done⟩⟩
      | false =>
        -- The default is a setting at some path, so it is acceptable, so it is one here.
        obtain ⟨stored, path', valid⟩ := own missing
        have acceptable := (accepts _ path').mp ⟨stored, valid⟩
        simp only [Bool.false_eq_true, if_false, implies_true, true_and]
        constructor
        · rintro ⟨values, ⟨_, _, -, -, done⟩ | ⟨same, -⟩⟩
          · exact (goesOn _).mp ⟨values, done⟩
          · cases same
        · intro others
          obtain ⟨stored, here⟩ := (accepts _ (path ++ "." ++ field.key)).mpr acceptable
          obtain ⟨values, done⟩ :=
            (goesOn (Value.insertMember field.key stored normalized)).mpr others
          exact ⟨values, .inl ⟨_, stored, rfl, here, done⟩⟩

end

mutual

/-- What is stored is declared, complete and as declared, at every level. -/
theorem normalizeValue_conforms (field : AgentConfigField) (keyed : WellKeyed field)
    (value stored : Value) (path : String)
    (h : normalizeValue formats field value path = .ok stored) : Conforms formats field stored := by
  match field with
  | .mk _ (.object fields) _ _ =>
    rw [WellKeyed] at keyed
    obtain ⟨members, values, -, -, inside, rfl⟩ := normalizeValue_object_iff.mp h
    obtain ⟨entries, declared⟩ := normalizeFields_level keyed inside
    rw [Conforms]
    exact ⟨values, rfl, declared, conformsFields_of_entries fields keyed members values path entries⟩
  | .mk _ .json _ _ | .mk _ (.string _) _ _ | .mk _ .boolean _ _ | .mk _ (.integer ..) _ _
  | .mk _ (.number ..) _ _ | .mk _ (.choice _) _ _ | .mk _ (.secretReference _) _ _ =>
    obtain ⟨accepted, rfl⟩ := (normalizeValue_leaf_iff rfl).mp h
    exact conforms_leaf rfl accepted

theorem conformsFields_of_entries (fields : List AgentConfigField) (keyed : WellKeyedFields fields)
    (object values : List (String × Value)) (path : String)
    (entries : ∀ field ∈ fields, EntryFor formats object values path field) :
    ConformsFields formats fields values := by
  match fields with
  | [] =>
    rw [ConformsFields]
    trivial
  | field :: fields =>
    obtain ⟨-, -, inner, rest⟩ := wellKeyedFields_cons keyed
    rw [ConformsFields]
    refine ⟨?_, conformsFields_of_entries fields rest object values path fun other mem =>
      entries other (List.mem_cons_of_mem _ mem)⟩
    have entry := entries field (List.mem_cons_self ..)
    unfold EntryFor at entry
    split at entry
    · rename_i given _
      obtain ⟨stored, found, normalized⟩ := entry
      rw [found]
      exact normalizeValue_conforms field inner given stored _ normalized
    · rw [entry.2]
      exact entry.1

end

mutual

/-- What is given is kept, and what is missing is filled with its default, at every level. -/
theorem normalizeValue_fills (field : AgentConfigField) (keyed : WellKeyed field)
    (value stored : Value) (path : String) (held : value.Every Value.HeldNumber)
    (h : normalizeValue formats field value path = .ok stored) :
    Fills formats field value stored := by
  match field with
  | .mk _ (.object fields) _ _ =>
    rw [WellKeyed] at keyed
    obtain ⟨members, values, rfl, -, inside, rfl⟩ := normalizeValue_object_iff.mp h
    rw [Value.Every] at held
    rw [Fills]
    exact ⟨members, values, rfl, rfl, fillsFields_of_entries fields keyed members values path held
      (normalizeFields_level keyed inside).1⟩
  | .mk _ .json _ _ | .mk _ (.string _) _ _ | .mk _ .boolean _ _ | .mk _ (.integer ..) _ _
  | .mk _ (.number ..) _ _ | .mk _ (.choice _) _ _ | .mk _ (.secretReference _) _ _ =>
    obtain ⟨accepted, rfl⟩ := (normalizeValue_leaf_iff rfl).mp h
    exact fills_leaf rfl (leafKept_leafValue held accepted)

theorem fillsFields_of_entries (fields : List AgentConfigField) (keyed : WellKeyedFields fields)
    (object values : List (String × Value)) (path : String)
    (held : Value.EveryMember Value.HeldNumber object)
    (entries : ∀ field ∈ fields, EntryFor formats object values path field) :
    FillsFields formats fields object values := by
  match fields with
  | [] =>
    rw [FillsFields]
    trivial
  | field :: fields =>
    obtain ⟨-, -, inner, rest⟩ := wellKeyedFields_cons keyed
    rw [FillsFields]
    refine ⟨?_, fillsFields_of_entries fields rest object values path held fun other mem =>
      entries other (List.mem_cons_of_mem _ mem)⟩
    have entry := entries field (List.mem_cons_self ..)
    unfold EntryFor givenFor at entry
    cases given : Value.member? object field.key with
    | some value =>
      rw [given] at entry
      obtain ⟨stored, found, normalized⟩ := entry
      exact ⟨stored, found,
        normalizeValue_fills field inner value stored _ (.member held given) normalized⟩
    | none =>
      rw [given] at entry
      cases missing : field.defaultValue.isNull with
      | true =>
        rw [missing] at entry
        exact entry.2
      | false =>
        rw [missing] at entry
        obtain ⟨stored, found, normalized⟩ := entry
        exact ⟨stored, _, found, normalized⟩

end

mutual

/-- Stored settings are settings, and are stored as they are. -/
theorem normalizeValue_idem (field : AgentConfigField) (keyed : WellKeyed field)
    (value stored : Value) (path path' : String)
    (h : normalizeValue formats field value path = .ok stored) :
    normalizeValue formats field stored path' = .ok stored := by
  match field with
  | .mk _ (.object fields) _ _ =>
    rw [WellKeyed] at keyed
    obtain ⟨members, values, -, -, inside, rfl⟩ := normalizeValue_object_iff.mp h
    obtain ⟨entries, declared⟩ := normalizeFields_level keyed inside
    exact normalizeValue_object_iff.mpr ⟨values, values, rfl, declared,
      normalizeFields_idem fields keyed members values values [] path path' entries
        (fun _ _ => rfl) inside, rfl⟩
  | .mk _ .json _ _ | .mk _ (.string _) _ _ | .mk _ .boolean _ _ | .mk _ (.integer ..) _ _
  | .mk _ (.number ..) _ _ | .mk _ (.choice _) _ _ | .mk _ (.secretReference _) _ _ =>
    obtain ⟨accepted, rfl⟩ := (normalizeValue_leaf_iff rfl).mp h
    obtain ⟨again, same⟩ := leafValue_conforms accepted
    exact (normalizeValue_leaf_iff rfl).mpr ⟨again, same.symm⟩

/-- A level that holds the entries already gets the same ones in the same order. -/
theorem normalizeFields_idem (fields : List AgentConfigField) (keyed : WellKeyedFields fields)
    (object object' values normalized : List (String × Value)) (path path' : String)
    (entries : ∀ field ∈ fields, EntryFor formats object values path field)
    (same : ∀ field ∈ fields, Value.member? object' field.key = Value.member? values field.key)
    (h : normalizeFields formats fields object path normalized = .ok values) :
    normalizeFields formats fields object' path' normalized = .ok values := by
  match fields with
  | [] =>
    cases h
    rfl
  | field :: fields =>
    obtain ⟨-, -, inner, rest⟩ := wellKeyedFields_cons keyed
    have goesOn := fun normalized' => normalizeFields_idem fields rest object object' values
      normalized' path path' (fun other mem => entries other (List.mem_cons_of_mem _ mem))
      (fun other mem => same other (List.mem_cons_of_mem _ mem))
    have entry := entries field (List.mem_cons_self ..)
    have now := same field (List.mem_cons_self ..)
    unfold EntryFor at entry
    rcases normalizeFields_cons_iff.mp h with ⟨given, stored, found, here, done⟩ |
      ⟨found, optional, done⟩
    · rw [found] at entry
      obtain ⟨stored', held, again⟩ := entry
      cases Except.ok.inj (here.symm.trans again)
      have found' : givenFor field object' = some stored := by
        rw [givenFor, now, held]
        rfl
      exact normalizeFields_cons_iff.mpr (.inl ⟨stored, stored, found',
        normalizeValue_idem field inner given stored _ _ here, goesOn _ done⟩)
    · rw [found] at entry
      have found' : givenFor field object' = none := by
        rw [givenFor, now, entry.2]
        exact (Option.or_eq_none_iff.mp found).2
      exact normalizeFields_cons_iff.mpr (.inr ⟨found', optional, goesOn _ done⟩)

end

mutual

/-- What validation lets through has defaults that are settings. -/
theorem validateValue_defaults (field : AgentConfigField) (path : String)
    (valid : validateValue formats field path = .ok ()) : DefaultsValid formats field := by
  match field with
  | .mk _ (.object fields) _ _ =>
    rw [validateValue] at valid
    rw [DefaultsValid]
    exact validateFields_defaults fields path [] valid
  | .mk _ .json _ _ | .mk _ (.string _) _ _ | .mk _ .boolean _ _ | .mk _ (.integer ..) _ _
  | .mk _ (.number ..) _ _ | .mk _ (.choice _) _ _ | .mk _ (.secretReference _) _ _ =>
    simp only [DefaultsValid]

theorem validateFields_defaults (fields : List AgentConfigField) (path : String)
    (seen : List String) (valid : validateFields formats fields path seen = .ok ()) :
    DefaultsValidFields formats fields := by
  match fields with
  | [] =>
    rw [DefaultsValidFields]
    trivial
  | field :: fields =>
    rw [validateFields] at valid
    obtain ⟨-, valid⟩ := Except.of_check_ok valid
    obtain ⟨-, valid⟩ := Except.of_check_ok valid
    obtain ⟨⟨⟩, nested, valid⟩ := Except.of_bind_ok valid
    have inner := validateValue_defaults field _ nested
    rw [DefaultsValidFields]
    simp only at valid
    split at valid
    · split at valid
      · rename_i stored normalizes
        exact ⟨fun _ => ⟨stored, _, normalizes⟩, inner, validateFields_defaults fields path _ valid⟩
      · cases valid
    · rename_i missing
      refine ⟨fun present => ?_, inner, validateFields_defaults fields path _ valid⟩
      rw [present] at missing
      exact absurd rfl missing

end

namespace AgentDefinition

variable {definition : AgentDefinition} {settings stored : Value}

theorem validate_defaults (valid : definition.validate formats = .ok ()) :
    DefaultsValidFields formats definition.configFields := by
  unfold validate at valid
  split at valid
  · cases valid
  · exact validateFields_defaults _ _ _ valid

/-- Settings are members of an object; where nothing is declared, none may be given at all. -/
theorem normalizeSettings_iff : definition.normalizeSettings formats settings = .ok stored ↔
    (settings.isNull = true ∧ definition.configFields = [] ∧ stored = .object []) ∨
    ∃ members values, settings = .object members ∧ DeclaresAll definition.configFields members ∧
      normalizeFields formats definition.configFields members "config" [] = .ok values ∧
      stored = .object values := by
  unfold normalizeSettings normalizeObject
  split
  · rename_i empty
    rw [Bool.and_eq_true, List.isEmpty_iff] at empty
    constructor
    · intro same
      exact .inl ⟨empty.1, empty.2, (Except.ok.inj same).symm⟩
    · rintro (⟨-, -, rfl⟩ | ⟨members, values, rfl, -⟩)
      · rfl
      · cases empty.1
  · rename_i other
    rw [Bool.and_eq_true, List.isEmpty_iff] at other
    simp only [bind_ok_iff, orError_iff, asObject?_iff, pure_ok_iff]
    constructor
    · rintro ⟨members, rfl, _, known, values, inside, rfl⟩
      exact .inr ⟨members, values, rfl, rejectUnknown_iff.mp known, inside, rfl⟩
    · rintro (⟨null, empty, -⟩ | ⟨members, values, rfl, declared, inside, rfl⟩)
      · exact absurd ⟨null, empty⟩ other
      · exact ⟨members, rfl, ⟨⟩, rejectUnknown_iff.mpr declared, values, inside, rfl⟩

/-- Settings that give declared values only, and everything that is required and has no default. -/
def AcceptsSettings (formats : TextFormats) (definition : AgentDefinition) (settings : Value) :
    Prop :=
  (settings.isNull = true ∧ definition.configFields = []) ∨
    ∃ members, settings = .object members ∧ DeclaresAll definition.configFields members ∧
      AcceptableFields formats definition.configFields members

theorem normalizeSettings_isOk_iff (valid : definition.validate formats = .ok ()) :
    (∃ stored, definition.normalizeSettings formats settings = .ok stored) ↔
      definition.AcceptsSettings formats settings := by
  simp only [normalizeSettings_iff]
  constructor
  · rintro ⟨stored, ⟨null, empty, -⟩ | ⟨members, values, rfl, declared, inside, -⟩⟩
    · exact .inl ⟨null, empty⟩
    · exact .inr ⟨members, rfl, declared,
        (normalizeFields_isOk_iff _ (validate_defaults valid) _ _ _).mp ⟨values, inside⟩⟩
  · rintro (⟨null, empty⟩ | ⟨members, rfl, declared, acceptable⟩)
    · exact ⟨_, .inl ⟨null, empty, rfl⟩⟩
    · obtain ⟨values, inside⟩ :=
        (normalizeFields_isOk_iff _ (validate_defaults valid) _ "config" []).mpr acceptable
      exact ⟨_, .inr ⟨members, values, rfl, declared, inside, rfl⟩⟩

/-- Nothing needs to be given where everything required has a default. -/
theorem acceptableFields_nil {fields : List AgentConfigField}
    (defaults : ∀ field ∈ fields, field.required = true → field.defaultValue.isNull = false) :
    AcceptableFields formats fields [] := by
  induction fields with
  | nil => simp only [AcceptableFields]
  | cons field fields ih =>
    rw [AcceptableFields]
    exact ⟨defaults field (List.mem_cons_self ..),
      ih fun other mem => defaults other (List.mem_cons_of_mem _ mem)⟩

/--
What a validated definition makes of settings: at every level declared, complete and as declared,
with what was given kept and the defaults filled in, and a setting again that is stored as it is.
It accepts exactly the settings whose values are as declared and whose missing fields are optional
or have a default, so nothing where every required field has one.
-/
theorem settings_normalized (valid : definition.validate formats = .ok ())
    (held : settings.Every Value.HeldNumber) :
    (∀ stored, definition.normalizeSettings formats settings = .ok stored →
      (∃ values, stored = .object values ∧ DeclaresAll definition.configFields values ∧
        ConformsFields formats definition.configFields values ∧
        FillsFields formats definition.configFields (settings.asObject?.getD []) values) ∧
      definition.normalizeSettings formats stored = .ok stored) ∧
    ((∃ stored, definition.normalizeSettings formats settings = .ok stored) ↔
      definition.AcceptsSettings formats settings) ∧
    ((∀ field ∈ definition.configFields, field.required = true →
        field.defaultValue.isNull = false) →
      ∃ stored, definition.normalizeSettings formats (.object []) = .ok stored) := by
  have keyed := validate_wellKeyed valid
  refine ⟨fun stored normalized => ?_, normalizeSettings_isOk_iff valid, fun defaults => ?_⟩
  · rcases normalizeSettings_iff.mp normalized with ⟨-, empty, rfl⟩ |
      ⟨members, values, rfl, -, inside, rfl⟩
    · rw [empty]
      refine ⟨⟨[], rfl, nofun, by simp only [ConformsFields], by simp only [FillsFields]⟩, ?_⟩
      exact normalizeSettings_iff.mpr (.inr ⟨[], [], rfl, nofun, by rw [empty]; rfl, rfl⟩)
    · obtain ⟨entries, declared⟩ := normalizeFields_level keyed inside
      rw [Value.Every] at held
      refine ⟨⟨values, rfl, declared, conformsFields_of_entries _ keyed _ _ _ entries,
        fillsFields_of_entries _ keyed _ _ _ held entries⟩, ?_⟩
      exact normalizeSettings_iff.mpr (.inr ⟨values, values, rfl, declared,
        normalizeFields_idem _ keyed _ _ _ _ _ _ entries (fun _ _ => rfl) inside, rfl⟩)
  · exact (normalizeSettings_isOk_iff valid).mpr
      (.inr ⟨[], rfl, nofun, acceptableFields_nil defaults⟩)

end AgentDefinition

def paced : AgentDefinition where
  id := "paced"
  configFields := [
    .mk "pace" (.number (some (.finite 0)) none) true .null,
    .mk "limits" (.object [.mk "turns" (.integer (some 1) none) true (.int 5)]) false (.object [])]

/-- The number becomes a double, and the missing object its default with the default inside. -/
theorem settings_normalized_paced :
    let stored := Value.object [("limits", .object [("turns", .int 5)]), ("pace", .float 3)]
    paced.normalizeSettings noTexts (.object [("pace", .int 3)]) = .ok stored ∧
      (∃ values, stored = .object values ∧ ConformsFields noTexts paced.configFields values ∧
        FillsFields noTexts paced.configFields [("pace", .int 3)] values) ∧
      paced.normalizeSettings noTexts stored = .ok stored := by
  intro stored
  have valid : paced.validate noTexts = .ok () := by rfl
  have normalized : paced.normalizeSettings noTexts (.object [("pace", .int 3)]) = .ok stored := by
    rfl
  have range : -2 ^ 63 ≤ (3 : Int) ∧ (3 : Int) < 2 ^ 64 := by decide
  obtain ⟨stores, -⟩ :=
    @AgentDefinition.settings_normalized noTexts paced (.object [("pace", .int 3)]) valid
      ⟨range, trivial⟩
  obtain ⟨⟨values, same, -, conforms, fills⟩, again⟩ := stores stored normalized
  exact ⟨normalized, ⟨values, same, conforms, fills⟩, again⟩

end Parlando
