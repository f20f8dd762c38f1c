import Parlando.AgentDashboard
import Parlando.Proofs.AgentSettings

namespace Parlando

mutual

def secretPathsOf (parentPath : String) : RegisteredField → List String
  | .mk key _ _ (.secretReference _) _ _ => [fieldPath parentPath key]
  | .mk key _ _ (.object fields) _ _ => secretPaths (fieldPath parentPath key) fields
  | _ => []

def secretPaths (parentPath : String) : List RegisteredField → List String
  | [] => []
  | field :: fields => secretPathsOf parentPath field ++ secretPaths parentPath fields

end

structure Credential where
  factoryId : String
  path : String
  deriving DecidableEq

def RegisteredAgent.credentials (agent : RegisteredAgent) : List Credential :=
  (secretPaths "" agent.configFields).map (⟨agent.id, ·⟩)

/-- The credentials of all definitions, in the order of their fields. -/
def declaredCredentials (agents : List RegisteredAgent) : List Credential :=
  agents.flatMap RegisteredAgent.credentials

def Credential.reference (credential : Credential) : String :=
  "game." ++ derivedAgentSecretKey credential.factoryId credential.path

mutual

def shownField (factoryId parentPath : String) : Value → List (Credential × String)
  | .object members =>
    match (Value.member? members "key").bind Value.asStr? with
    | none => []
    | some key =>
      let path := fieldPath parentPath key
      match (Value.member? members "type").bind Value.asStr? with
      | some "secret_reference" =>
        ((Value.member? members "secret_reference").bind Value.asStr?).toList.map
          (⟨factoryId, path⟩, ·)
      | some "object" => shownChildren factoryId path members
      | _ => []
  | _ => []

def shownChildren (factoryId path : String) : List (String × Value) → List (Credential × String)
  | [] => []
  | (name, child) :: members =>
    (if name = "fields" then shownArray factoryId path child else []) ++
      shownChildren factoryId path members

def shownArray (factoryId path : String) : Value → List (Credential × String)
  | .array fields => shownFields factoryId path fields
  | _ => []

def shownFields (factoryId parentPath : String) : List Value → List (Credential × String)
  | [] => []
  | field :: fields =>
    shownField factoryId parentPath field ++ shownFields factoryId parentPath fields

end

def shownDefinition (definition : Value) : List (Credential × String) :=
  match (definition.get? "id").bind Value.asStr? with
  | none => []
  | some factoryId => shownArray factoryId "" (definition.index "config_fields")

/-- The credentials of the dashboard's list of definitions. -/
def shownCredentials (definitions : Value) : List (Credential × String) :=
  (definitions.asArray?.getD []).flatMap shownDefinition

/-- The descriptor of an object field, its members in key order. -/
theorem toValue_object (key label help : String) (fields : List RegisteredField) (required : Bool)
    (defaultValue : Value) :
    (RegisteredField.mk key label help (.object fields) required defaultValue).toValue =
      .object [("default_value", defaultValue), ("fields", .array (fieldValues fields)),
        ("help", .string help), ("key", .string key), ("label", .string label),
        ("required", .bool required), ("type", .string "object")] := by
  rw [RegisteredField.toValue, valueMembers]
  simp only [Value.json, Value.sortMembers, Value.insertMember, List.cons_append, List.nil_append,
    List.foldr, reduceIte, String.reduceEq, String.reduceLT]

section Leaves

variable (factoryId parentPath key label help : String) (required : Bool) (defaultValue : Value)
  {value : AgentConfigValue RegisteredField}

def descriptorMembers (value : AgentConfigValue RegisteredField) : List (String × Value) :=
  [("key", .string key), ("label", .string label), ("help", .string help)] ++
    valueMembers value ++ [("required", .bool required), ("default_value", defaultValue)]

theorem toValue_eq : (RegisteredField.mk key label help value required defaultValue).toValue =
    .object (Value.sortMembers
      (descriptorMembers key label help required defaultValue value)) := by
  rw [RegisteredField.toValue, Value.json, descriptorMembers]

theorem member?_key : Value.member? (Value.sortMembers
    (descriptorMembers key label help required defaultValue value)) "key" =
      some (.string key) := by
  rw [Value.member?_sortMembers]
  rfl

theorem member?_type : Value.member? (Value.sortMembers
    (descriptorMembers key label help required defaultValue value)) "type" =
      Value.member? (valueMembers value) "type" := by
  rw [Value.member?_sortMembers]
  cases value <;> simp only [descriptorMembers, valueMembers] <;> rfl

/-- A descriptor of another type than the two that are decorated has nothing to show. -/
theorem shownField_leaf {name : String}
    (type : Value.member? (valueMembers value) "type" = some (.string name))
    (leaf : name ≠ "secret_reference" ∧ name ≠ "object") :
    shownField factoryId parentPath (decorateField factoryId parentPath
      (RegisteredField.mk key label help value required defaultValue).toValue) = [] := by
  have same : decorateField factoryId parentPath
      (RegisteredField.mk key label help value required defaultValue).toValue =
        (RegisteredField.mk key label help value required defaultValue).toValue := by
    simp only [toValue_eq, decorateField, member?_key, member?_type, type, Option.bind_some,
      Value.asStr?]
    split
    · rename_i here
      exact absurd (Option.some.inj here) leaf.1
    · rename_i here
      exact absurd (Option.some.inj here) leaf.2
    · rfl
  rw [same]
  simp only [toValue_eq, shownField, member?_key, member?_type, type, Option.bind_some,
    Value.asStr?]
  split
  · rename_i here
    exact absurd (Option.some.inj here) leaf.1
  · rename_i here
    exact absurd (Option.some.inj here) leaf.2
  · rfl

/-- The descriptor of a secret reference is shown with the key derived from its path. -/
theorem shownField_secret (purpose : SecretPurpose) :
    shownField factoryId parentPath (decorateField factoryId parentPath
      (RegisteredField.mk key label help (.secretReference purpose) required
        defaultValue).toValue) =
      [(⟨factoryId, fieldPath parentPath key⟩,
        (Credential.mk factoryId (fieldPath parentPath key)).reference)] := by
  have type : Value.member? (valueMembers (.secretReference purpose)) "type" =
      some (.string "secret_reference") := by
    rw [valueMembers]
    rfl
  simp only [toValue_eq, decorateField, member?_key, member?_type, type, Option.bind_some,
    Value.asStr?, shownField, Value.member?_insertMember]
  rfl

end Leaves

mutual

theorem shownField_decorated (factoryId parentPath : String) (field : RegisteredField) :
    shownField factoryId parentPath (decorateField factoryId parentPath field.toValue) =
      (secretPathsOf parentPath field).map fun path =>
        (⟨factoryId, path⟩, (Credential.mk factoryId path).reference) := by
  match field with
  | .mk key label help (.object fields) required defaultValue =>
    rw [toValue_object, secretPathsOf,
      ← shownFields_decorated factoryId (fieldPath parentPath key) fields]
    simp [decorateField, decorateChildren, decorateArray, shownField, shownChildren, shownArray,
      Value.member?, Value.asStr?]
  | .mk key label help (.secretReference purpose) required defaultValue =>
    rw [shownField_secret, secretPathsOf]
    rfl
  | .mk key label help .json required defaultValue
  | .mk key label help (.string _) required defaultValue
  | .mk key label help .boolean required defaultValue
  | .mk key label help (.integer ..) required defaultValue
  | .mk key label help (.number ..) required defaultValue
  | .mk key label help (.choice _) required defaultValue =>
    simp only [secretPathsOf, List.map_nil]
    exact shownField_leaf factoryId parentPath key label help required defaultValue
      (by rw [valueMembers]; rfl) (by decide)

theorem shownFields_decorated (factoryId parentPath : String) (fields : List RegisteredField) :
    shownFields factoryId parentPath (decorateFields factoryId parentPath (fieldValues fields)) =
      (secretPaths parentPath fields).map fun path =>
        (⟨factoryId, path⟩, (Credential.mk factoryId path).reference) := by
  match fields with
  | [] => simp only [fieldValues, decorateFields, shownFields, secretPaths, List.map_nil]
  | field :: fields =>
    simp only [fieldValues, decorateFields, shownFields, secretPaths, List.map_append]
    rw [shownField_decorated factoryId parentPath field,
      shownFields_decorated factoryId parentPath fields]

end

theorem shownDefinition_decorated (agent : RegisteredAgent) :
    shownDefinition (decorateDefinition agent.toValue) =
      agent.credentials.map fun credential => (credential, credential.reference) := by
  have members : agent.toValue = .object
      [("config_fields", .array (fieldValues agent.configFields)),
        ("description", .string agent.description), ("id", .string agent.id),
        ("name", .string agent.name)] := by
    rw [RegisteredAgent.toValue]
    simp only [Value.json, Value.sortMembers, Value.insertMember, List.foldr, reduceIte,
      String.reduceEq, String.reduceLT]
  rw [members, RegisteredAgent.credentials, List.map_map]
  refine Eq.trans ?_ (shownFields_decorated agent.id "" agent.configFields)
  simp [decorateDefinition, shownDefinition, decorateArray, shownArray, Value.member?, Value.asStr?,
    Value.index, Value.get?]

theorem shownCredentials_dashboard (agents : List RegisteredAgent) :
    shownCredentials (dashboardAgentDefinitions agents) =
      (declaredCredentials agents).map fun credential => (credential, credential.reference) := by
  change ((agents.map fun agent => decorateDefinition agent.toValue).flatMap shownDefinition) = _
  rw [declaredCredentials, List.flatMap_map, List.map_flatMap]
  exact congrArg (agents.flatMap ·) (funext shownDefinition_decorated)

def pathStart (parentPath : String) : List Char :=
  if parentPath.toList.isEmpty then [] else parentPath.toList ++ ['.']

theorem toList_fieldPath (parentPath key : String) :
    (fieldPath parentPath key).toList = pathStart parentPath ++ key.toList := by
  unfold fieldPath pathStart
  split
  · rfl
  · simp

theorem pathStart_fieldPath (parentPath : String) {key : String} (valid : validKey key = true) :
    pathStart (fieldPath parentPath key) = pathStart parentPath ++ key.toList ++ ['.'] := by
  have nonempty : ¬(fieldPath parentPath key).toList.isEmpty = true := by
    rw [toList_fieldPath]
    simp only [validKey, Bool.and_eq_true] at valid
    simp only [List.isEmpty_iff, List.append_eq_nil_iff]
    rintro ⟨-, none⟩
    simp [none] at valid
  rw [pathStart, if_neg nonempty, toList_fieldPath]

/-- Fields of one level whose paths agree up to the next dot have one key. -/
theorem key_of_path {start tail tail' : List Char} {key key' : String}
    (valid : validKey key = true) (valid' : validKey key' = true) (atDot : AtDot tail)
    (atDot' : AtDot tail') (same : start ++ key.toList ++ tail = start ++ key'.toList ++ tail') :
    key = key' := by
  have texts : key.toList ++ tail = key'.toList ++ tail' := by simpa using same
  have keys := congrArg (List.takeWhile fun c => c ≠ '.') texts
  rw [takeWhile_key valid atDot, takeWhile_key valid' atDot'] at keys
  exact String.toList_injective keys

mutual

theorem secretPathsOf_split (field : RegisteredField) (valid : validKey field.field.key = true)
    (keyed : WellKeyed field.field) (parentPath path : String)
    (mem : path ∈ secretPathsOf parentPath field) :
    ∃ tail, path.toList = pathStart parentPath ++ field.field.key.toList ++ tail ∧
      AtDot tail := by
  match field with
  | .mk key label help (.object fields) required defaultValue =>
    rw [secretPathsOf] at mem
    rw [RegisteredField.field] at valid keyed ⊢
    rw [WellKeyed] at keyed
    obtain ⟨inner, -, tail, split, -⟩ := secretPaths_split fields keyed _ path mem
    rw [pathStart_fieldPath parentPath (show validKey key = true from valid)] at split
    exact ⟨'.' :: (inner.key.toList ++ tail), by rw [split]; simp [AgentConfigField.key],
      fun c first => by cases first; rfl⟩
  | .mk key label help (.secretReference purpose) required defaultValue =>
    rw [secretPathsOf] at mem
    rw [List.mem_singleton.mp mem, toList_fieldPath]
    exact ⟨[], by simp [RegisteredField.field, AgentConfigField.key], fun _ none => by cases none⟩
  | .mk _ _ _ .json _ _ | .mk _ _ _ (.string _) _ _ | .mk _ _ _ .boolean _ _
  | .mk _ _ _ (.integer ..) _ _ | .mk _ _ _ (.number ..) _ _ | .mk _ _ _ (.choice _) _ _ =>
    simp only [secretPathsOf] at mem
    exact absurd mem List.not_mem_nil

theorem secretPaths_split (fields : List RegisteredField)
    (keyed : WellKeyedFields (registeredFields fields)) (parentPath path : String)
    (mem : path ∈ secretPaths parentPath fields) :
    ∃ field ∈ registeredFields fields, ∃ tail,
      path.toList = pathStart parentPath ++ field.key.toList ++ tail ∧ AtDot tail := by
  match fields with
  | [] =>
    rw [secretPaths] at mem
    exact absurd mem List.not_mem_nil
  | field :: fields =>
    rw [secretPaths] at mem
    rw [registeredFields] at keyed ⊢
    obtain ⟨valid, -, here, rest⟩ := wellKeyedFields_cons keyed
    rcases List.mem_append.mp mem with mem | mem
    · obtain ⟨tail, found⟩ := secretPathsOf_split field valid here parentPath path mem
      exact ⟨_, List.mem_cons_self .., tail, found⟩
    · obtain ⟨other, otherMem, found⟩ := secretPaths_split fields rest parentPath path mem
      exact ⟨other, List.mem_cons_of_mem _ otherMem, found⟩

end

mutual

theorem secretPathsOf_nodup (field : RegisteredField) (keyed : WellKeyed field.field)
    (parentPath : String) : (secretPathsOf parentPath field).Nodup := by
  match field with
  | .mk key label help (.object fields) required defaultValue =>
    rw [secretPathsOf]
    rw [RegisteredField.field, WellKeyed] at keyed
    exact secretPaths_nodup fields keyed _
  | .mk key label help (.secretReference purpose) required defaultValue =>
    rw [secretPathsOf]
    exact List.nodup_singleton _
  | .mk _ _ _ .json _ _ | .mk _ _ _ (.string _) _ _ | .mk _ _ _ .boolean _ _
  | .mk _ _ _ (.integer ..) _ _ | .mk _ _ _ (.number ..) _ _ | .mk _ _ _ (.choice _) _ _ =>
    simp only [secretPathsOf]
    exact List.nodup_nil

theorem secretPaths_nodup (fields : List RegisteredField)
    (keyed : WellKeyedFields (registeredFields fields)) (parentPath : String) :
    (secretPaths parentPath fields).Nodup := by
  match fields with
  | [] =>
    rw [secretPaths]
    exact List.nodup_nil
  | field :: fields =>
    rw [registeredFields] at keyed
    obtain ⟨valid, distinct, here, rest⟩ := wellKeyedFields_cons keyed
    rw [secretPaths, List.nodup_append]
    refine ⟨secretPathsOf_nodup field here parentPath, secretPaths_nodup fields rest parentPath, ?_⟩
    rintro path mem _ mem' rfl
    obtain ⟨tail, split, atDot⟩ := secretPathsOf_split field valid here parentPath path mem
    obtain ⟨other, otherMem, tail', split', atDot'⟩ :=
      secretPaths_split fields rest parentPath path mem'
    have otherValid := wellKeyedFields_validKey rest other otherMem
    exact distinct other otherMem
      (key_of_path otherValid valid atDot' atDot (split'.symm.trans split))

end

/-- Every credential is declared once. -/
theorem declaredCredentials_nodup {formats : TextFormats} {agents : List RegisteredAgent}
    (ids : (agents.map RegisteredAgent.id).Nodup)
    (valid : ∀ agent ∈ agents, agent.definition.validate formats = .ok ()) :
    (declaredCredentials agents).Nodup := by
  rw [declaredCredentials, List.nodup_flatMap]
  constructor
  · intro agent mem
    refine (secretPaths_nodup agent.configFields ?_ "").map fun path path' same => ?_
    · exact AgentDefinition.validate_wellKeyed (valid agent mem)
    · exact (Credential.mk.inj same).2
  · refine (List.pairwise_map.mp ids).imp fun {agent other} differ credential here there => ?_
    obtain ⟨path, -, rfl⟩ := List.mem_map.mp here
    obtain ⟨path', -, same⟩ := List.mem_map.mp there
    exact differ (Credential.mk.inj same).1.symm

/-- The text that a credential's key is derived from. -/
def Credential.text (credential : Credential) : String :=
  credential.factoryId ++ "_" ++ credential.path

def isKept (c : Char) : Bool := c.isAlphanum || c == '-'

/-- Two texts that differ only in characters which keys do not keep. -/
def Alike (text text' : String) : Prop :=
  List.Forall₂ (fun c c' => c = c' ∨ (isKept c = false ∧ isKept c' = false))
    text.toList text'.toList

instance (text text' : String) : Decidable (Alike text text') :=
  inferInstanceAs (Decidable (List.Forall₂ ..))

def keyChar (c : Char) : Char := if isKeyChar c then c else '_'

theorem isKeyChar_keyChar (c : Char) : isKeyChar (keyChar c) = true := by
  unfold keyChar
  split
  · assumption
  · decide

theorem keyChar_of_isKept {c : Char} (kept : isKept c = true) : keyChar c = c := by
  rw [keyChar, if_pos]
  simp only [isKept, isKeyChar, Bool.or_eq_true] at kept ⊢
  tauto

theorem keyChar_of_not_isKept {c : Char} (dropped : isKept c = false) : keyChar c = '_' := by
  unfold keyChar
  split
  · rename_i char
    simp only [isKept, isKeyChar, Bool.or_eq_true, Bool.or_eq_false_iff] at dropped char
    simpa [dropped.1, dropped.2] using char
  · rfl

theorem keyChar_eq_iff {c c' : Char} :
    keyChar c = keyChar c' ↔ c = c' ∨ (isKept c = false ∧ isKept c' = false) := by
  constructor
  · intro same
    rcases kept : isKept c with _ | _ <;> rcases kept' : isKept c' with _ | _
    · exact .inr ⟨rfl, rfl⟩
    · rw [keyChar_of_not_isKept kept, keyChar_of_isKept kept'] at same
      exact absurd (same ▸ kept') (by decide)
    · rw [keyChar_of_isKept kept, keyChar_of_not_isKept kept'] at same
      exact absurd (same ▸ kept) (by decide)
    · rw [keyChar_of_isKept kept, keyChar_of_isKept kept'] at same
      exact .inl same
  · rintro (rfl | ⟨dropped, dropped'⟩)
    · rfl
    · rw [keyChar_of_not_isKept dropped, keyChar_of_not_isKept dropped']

theorem map_keyChar_eq_iff {text text' : List Char} :
    text.map keyChar = text'.map keyChar ↔
      List.Forall₂ (fun c c' => c = c' ∨ (isKept c = false ∧ isKept c' = false)) text text' := by
  rw [← List.forall₂_eq_eq_eq, List.forall₂_map_left_iff, List.forall₂_map_right_iff]
  simp only [keyChar_eq_iff]

theorem toList_derivedKey (credential : Credential) :
    (derivedAgentSecretKey credential.factoryId credential.path).toList =
      (("agent_".toList ++ credential.text.toList).map keyChar).take 128 := by
  simp only [derivedAgentSecretKey, Credential.text, String.toList_ofList, String.toList_append,
    List.append_assoc]
  rfl

/-- The length of all of a credential's text in a key. -/
def Credential.size (credential : Credential) : Nat :=
  credential.factoryId.toList.length + credential.path.toList.length

theorem length_text (credential : Credential) :
    credential.text.toList.length = credential.size + 1 := by
  simp [Credential.text, Credential.size]
  omega

theorem length_derivedKey (credential : Credential) :
    (derivedAgentSecretKey credential.factoryId credential.path).toList.length =
      min 128 (credential.size + 7) := by
  rw [toList_derivedKey, List.length_take, List.length_map, List.length_append, length_text]
  simp
  omega

/-- The references of credentials that are short enough differ like their texts. -/
theorem reference_eq_iff {credential credential' : Credential} (short : credential.size ≤ 116)
    (short' : credential'.size ≤ 116) :
    credential.reference = credential'.reference ↔ Alike credential.text credential'.text := by
  have whole {credential : Credential} (short : credential.size ≤ 116) :
      (derivedAgentSecretKey credential.factoryId credential.path).toList =
        "agent_".toList.map keyChar ++ credential.text.toList.map keyChar := by
    rw [toList_derivedKey, List.map_append, List.take_of_length_le]
    rw [List.length_append, List.length_map, List.length_map, length_text]
    simp
    omega
  rw [Credential.reference, Credential.reference, String.append_right_inj, ← String.toList_inj,
    whole short, whole short', List.append_cancel_left_eq, map_keyChar_eq_iff, Alike]

theorem derivedKey_chars (credential : Credential) :
    ∀ c ∈ (derivedAgentSecretKey credential.factoryId credential.path).toList,
      isKeyChar c = true := by
  intro c mem
  rw [toList_derivedKey] at mem
  obtain ⟨c', -, rfl⟩ := List.mem_map.mp (List.mem_of_mem_take mem)
  exact isKeyChar_keyChar c'

theorem validKey_derived (credential : Credential) :
    validKey (derivedAgentSecretKey credential.factoryId credential.path) = true := by
  have length := length_derivedKey credential
  have chars := derivedKey_chars credential
  refine validKey_of_chars (fun none => ?_) (by omega) chars
  rw [none] at length
  simp only [List.length_nil] at length
  omega

theorem isSecretReference_reference (credential : Credential) :
    isSecretReference credential.reference = true :=
  isSecretReference_of_validKey (validKey_derived credential)

theorem validateSecretUpdate_credential (credential : Credential) :
    validateSecretUpdate credential.reference none = .ok () ↔ credential.size ≤ 116 := by
  rw [validateSecretUpdate_reference (isSecretReference_reference credential),
    Credential.reference, String.toList_append, List.length_append, length_derivedKey]
  simp
  omega

/-- A value of an admitted size can be stored under every key that is admitted. -/
theorem validateSecretUpdate_some {key value : String} (nonempty : value.toList ≠ [])
    (small : value.utf8ByteSize ≤ 65536) :
    validateSecretUpdate key (some value) = validateSecretUpdate key none := by
  have admitted : (value.toList.isEmpty || decide (value.utf8ByteSize > 65536)) = false := by
    rw [Bool.or_eq_false_iff, List.isEmpty_eq_false_iff, decide_eq_false_iff_not]
    exact ⟨nonempty, by omega⟩
  simp only [validateSecretUpdate, Option.any_some, Option.any_none, admitted]

structure Usable (reference : String) : Prop where
  taken : ∀ formats key purpose required defaultValue path,
    normalizeValue formats (.mk key (.secretReference purpose) required defaultValue)
      (.string reference) path = .ok (.string reference)
  saved : ∀ value : String, value.toList ≠ [] → value.utf8ByteSize ≤ 65536 →
    validateSecretUpdate reference (some value) = .ok ()

/-- The dashboard shows every declared credential, with a usable reference of its own. -/
structure CredentialsSavable (agents : List RegisteredAgent) (shown : List (Credential × String)) :
    Prop where
  declared : shown.map Prod.fst = declaredCredentials agents
  distinct : (shown.map Prod.snd).Nodup
  usable : ∀ entry ∈ shown, Usable entry.2
  /-- Saving one credential supplies it and leaves all others as they are. -/
  separate : ∀ entry ∈ shown, ∀ other ∈ shown, ∀ (stored : Map String String) (secret : String),
    secretOf (applyExperimentSecrets (AList.insert entry.2 secret stored)) other.2 =
      if other = entry then some secret else secretOf (applyExperimentSecrets stored) other.2

theorem usable_reference_iff (credential : Credential) :
    Usable credential.reference ↔ credential.size ≤ 116 := by
  rw [← validateSecretUpdate_credential]
  constructor
  · intro usable
    rw [← @validateSecretUpdate_some credential.reference "k" (by decide) (by decide)]
    exact usable.saved "k" (by decide) (by decide)
  · intro accepted
    refine ⟨fun formats key purpose required defaultValue path => ?_, fun value nonempty small => ?_⟩
    · rw [normalizeValue]
      exact normalizeSecretReference_string (isSecretReference_reference credential) path
    · rw [validateSecretUpdate_some nonempty small, accepted]

section Dashboard

variable {formats : TextFormats} {agents : List RegisteredAgent}

theorem references_nodup_iff (nodup : (declaredCredentials agents).Nodup)
    (short : ∀ credential ∈ declaredCredentials agents, credential.size ≤ 116) :
    ((declaredCredentials agents).map Credential.reference).Nodup ↔
      ∀ credential ∈ declaredCredentials agents, ∀ other ∈ declaredCredentials agents,
        credential ≠ other → ¬Alike credential.text other.text := by
  rw [List.nodup_map_iff_inj_on nodup]
  refine forall₂_congr fun credential mem => forall₂_congr fun other mem' => ?_
  rw [reference_eq_iff (short credential mem) (short other mem')]
  exact not_imp_not.symm.trans Iff.rfl

/-- The dashboard's keys are usable and distinct exactly if no identifier with its path is longer
than 116 characters and no two of these texts differ in separators and replaced characters only. -/
theorem dashboard_credentials_iff (ids : (agents.map RegisteredAgent.id).Nodup)
    (valid : ∀ agent ∈ agents, agent.definition.validate formats = .ok ()) :
    CredentialsSavable agents (shownCredentials (dashboardAgentDefinitions agents)) ↔
      (∀ credential ∈ declaredCredentials agents, credential.size ≤ 116) ∧
        ∀ credential ∈ declaredCredentials agents, ∀ other ∈ declaredCredentials agents,
          credential ≠ other → ¬Alike credential.text other.text := by
  have nodup := declaredCredentials_nodup ids valid
  have references : (shownCredentials (dashboardAgentDefinitions agents)).map Prod.snd =
      (declaredCredentials agents).map Credential.reference := by
    rw [shownCredentials_dashboard, List.map_map]
    rfl
  constructor
  · intro savable
    have short : ∀ credential ∈ declaredCredentials agents, credential.size ≤ 116 := by
      intro credential mem
      refine (usable_reference_iff credential).mp (savable.usable (credential, _) ?_)
      rw [shownCredentials_dashboard]
      exact List.mem_map.mpr ⟨credential, mem, rfl⟩
    have distinct := savable.distinct
    rw [references] at distinct
    exact ⟨short, (references_nodup_iff nodup short).mp distinct⟩
  · rintro ⟨short, differ⟩
    have distinct := (references_nodup_iff nodup short).mpr differ
    rw [shownCredentials_dashboard]
    refine ⟨?_, ?_, ?_, ?_⟩
    · rw [List.map_map]
      exact List.map_id _
    · rw [← references, shownCredentials_dashboard] at distinct
      exact distinct
    · intro entry mem
      obtain ⟨credential, declared, rfl⟩ := List.mem_map.mp mem
      exact (usable_reference_iff credential).mpr (short credential declared)
    · intro entry mem other mem' stored secret
      obtain ⟨credential, declared, rfl⟩ := List.mem_map.mp mem
      obtain ⟨credential', declared', rfl⟩ := List.mem_map.mp mem'
      have one := (List.nodup_map_iff_inj_on nodup).mp distinct credential' declared'
        credential declared
      simp only [secretOf_applyExperimentSecrets _ (isSecretReference_reference _),
        Map.lookup_insert_eq]
      refine if_congr ⟨fun same => ?_, fun same => ?_⟩ rfl rfl
      · rw [one same]
      · exact (Prod.mk.inj same).2

end Dashboard

/-- An agent with a credential beside an object that has one of its own. -/
def withKeys (key inner : String) : RegisteredAgent where
  id := "bridge"
  name := "Bridge"
  description := ""
  configFields := [
    .mk key "Token" "" (.secretReference .factory) true .null,
    .mk "api" "Service" "" (.object [
      .mk inner "Key" "" (.secretReference .agentInstance) true .null]) true .null]

theorem declaredCredentials_withKeys (key inner : String) :
    declaredCredentials [withKeys key inner] =
      [⟨"bridge", key⟩, ⟨"bridge", "api" ++ "." ++ inner⟩] := rfl

theorem withKeys_savable : CredentialsSavable [withKeys "token" "key"]
    (shownCredentials (dashboardAgentDefinitions [withKeys "token" "key"])) := by
  have valid : (withKeys "token" "key").definition.validate noTexts = .ok () := by rfl
  refine (@dashboard_credentials_iff noTexts [withKeys "token" "key"] (by decide)
    (List.forall_mem_singleton.mpr valid)).mpr ?_
  rw [declaredCredentials_withKeys]
  decide

/-- The separator of the path and the underscore of a key become the same character. -/
theorem withKeys_not_savable :
    (withKeys "api_key" "key").definition.validate noTexts = .ok () ∧
      ¬CredentialsSavable [withKeys "api_key" "key"]
        (shownCredentials (dashboardAgentDefinitions [withKeys "api_key" "key"])) := by
  refine ⟨by rfl, fun savable => ?_⟩
  have distinct := savable.distinct
  rw [shownCredentials_dashboard, declaredCredentials_withKeys, List.map_map] at distinct
  exact absurd distinct (by decide)

end Parlando
