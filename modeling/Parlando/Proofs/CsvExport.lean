import Parlando.CsvExport
import Parlando.Data.Csv
import Parlando.Proofs.Corpus

namespace Parlando

open Csv

section Fields

variable (field : List Char) (record : List String) (records : List (List String))

theorem read_plain {text : List Char} (place : Place) (begun : place = .start ∨ place = .plain)
    (plain : ∀ c ∈ text, (c == ',' || c == '"' || c == '\n' || c == '\r') = false) :
    ∃ place', text.foldlM Reader.step ⟨place, field, record, records⟩ =
        some ⟨place', text.reverse ++ field, record, records⟩ ∧
      (place' = .start ∨ place' = .plain) := by
  induction text generalizing place field with
  | nil => exact ⟨place, rfl, begun⟩
  | cons c text ih =>
    have here := plain c (List.mem_cons_self ..)
    simp only [Bool.or_eq_false_iff, beq_eq_false_iff_ne] at here
    obtain ⟨⟨⟨comma, quote⟩, feed⟩, cr⟩ := here
    have nothing : Reader.delimit ⟨place, field, record, records⟩ c = none := by
      unfold Reader.delimit
      split <;> first | rfl | exact absurd rfl ‹_›
    have step : Reader.step ⟨place, field, record, records⟩ c =
        some ⟨.plain, c :: field, record, records⟩ := by
      rcases begun with rfl | rfl
      · simp only [Reader.step, if_neg quote, nothing, Option.none_or, Reader.push]
      · simp only [Reader.step, if_neg quote, nothing, Option.none_or, Reader.push]
    obtain ⟨place', read, ended⟩ := ih (c :: field) .plain (.inr rfl) fun c mem =>
      plain c (List.mem_cons_of_mem _ mem)
    refine ⟨place', ?_, ended⟩
    rw [List.foldlM_cons, step, Option.bind_eq_bind, Option.bind_some, read]
    simp

/-- In a quoted field every character stands for itself, a doubled quote for one. -/
theorem read_quoted (text : List Char) :
    (text.flatMap fun c => if c = '"' then ['"', '"'] else [c]).foldlM Reader.step
        ⟨.quoted, field, record, records⟩ =
      some ⟨.quoted, text.reverse ++ field, record, records⟩ := by
  induction text generalizing field with
  | nil => rfl
  | cons c text ih =>
    rw [List.flatMap_cons, List.foldlM_append]
    have step : (if c = '"' then ['"', '"'] else [c]).foldlM Reader.step
        ⟨.quoted, field, record, records⟩ = some ⟨.quoted, c :: field, record, records⟩ := by
      split
      · rename_i quote
        rw [quote]
        rfl
      · rename_i other
        rw [List.foldlM_cons]
        simp only [Reader.step, if_neg other]
        rfl
    rw [step, Option.bind_eq_bind, Option.bind_some, ih]
    simp

/-- An escaped field is read as the text that it was made from. -/
theorem read_csvEscape (value : String) :
    ∃ place, (csvEscape value).toList.foldlM Reader.step ⟨.start, [], record, records⟩ =
        some ⟨place, value.toList.reverse, record, records⟩ ∧
      (place = .start ∨ place = .plain ∨ place = .quote) := by
  unfold csvEscape
  split
  · refine ⟨.quote, ?_, .inr (.inr rfl)⟩
    rw [String.toList_ofList, List.cons_append, List.foldlM_cons]
    change (List.foldlM Reader.step ⟨.quoted, [], record, records⟩ _) = _
    rw [List.foldlM_append, read_quoted, List.append_nil]
    rfl
  · rename_i plain
    obtain ⟨place, read, ended⟩ := read_plain [] record records .start (.inl rfl)
      (by simpa using plain)
    exact ⟨place, by rw [read, List.append_nil], by tauto⟩

theorem step_delimiter {place : Place} (ended : place = .start ∨ place = .plain ∨ place = .quote)
    {c : Char} (other : c ≠ '"') {reader : Reader}
    (delimited : Reader.delimit ⟨place, field, record, records⟩ c = some reader) :
    Reader.step ⟨place, field, record, records⟩ c = some reader := by
  rcases ended with rfl | rfl | rfl
  · simp only [Reader.step, if_neg other, delimited, Option.some_or]
  · simp only [Reader.step, if_neg other, delimited, Option.some_or]
  · simp only [Reader.step, if_neg other, delimited]

end Fields

def Records (output : String) (records : List (List String)) : Prop :=
  output.toList.foldlM Reader.step {} = some { records := records.reverse }

theorem Records.read {output : String} {records : List (List String)}
    (written : Records output records) : Csv.read output = some records := by
  rw [Csv.read, written]
  change some records.reverse.reverse = _
  rw [List.reverse_reverse]

section Rows

variable (floats : FloatText) {output : String} {records : List (List String)}

/-- A pushed row is one more record of two fields. -/
theorem Records.push (written : Records output records) (table : String) (row : Value) :
    Records (pushCsvRow floats output table row) (records ++ [[table, jsonText floats row]]) := by
  obtain ⟨place, first, ended⟩ := read_csvEscape [] records.reverse table
  obtain ⟨place', second, ended'⟩ := read_csvEscape [table] records.reverse (jsonText floats row)
  have comma : Reader.step ⟨place, table.toList.reverse, [], records.reverse⟩ ',' =
      some ⟨.start, [], [table], records.reverse⟩ :=
    step_delimiter _ _ _ ended (by decide) (by
      simp [Reader.delimit, Reader.endField])
  have feed : Reader.step ⟨place', (jsonText floats row).toList.reverse, [table],
      records.reverse⟩ '\n' =
        some ⟨.start, [], [], [table, jsonText floats row] :: records.reverse⟩ :=
    step_delimiter _ _ _ ended' (by decide) (by
      simp [Reader.delimit, Reader.endField, Reader.endRecord])
  rw [Records] at written ⊢
  rw [pushCsvRow, String.toList_append, String.toList_append, String.toList_append,
    String.toList_append, List.foldlM_append, List.foldlM_append, List.foldlM_append,
    List.foldlM_append, written]
  simp only [Option.bind_eq_bind, Option.bind_some, first]
  change (Reader.step _ ',' >>= fun reader => some reader).bind _ >>= _ = _
  simp only [comma, Option.bind_eq_bind, Option.bind_some, second]
  change (Reader.step _ '\n' >>= fun reader => some reader) = _
  rw [feed, List.reverse_append]
  rfl

theorem Records.pushAll {rows : List (String × Value)} (written : Records output records) :
    Records (rows.foldl (fun output row => pushCsvRow floats output row.1 row.2) output)
      (records ++ rows.map fun row => [row.1, jsonText floats row.2]) := by
  induction rows generalizing output records with
  | nil => simpa using written
  | cons row rows ih =>
    have rest := ih (written.push floats row.1 row.2)
    rw [List.append_assoc] at rest
    exact rest

def tableRows (exported : Value) (table : String) : List (String × Value) :=
  match exported.get? table with
  | none | some .null => []
  | some (.array rows) => rows.map (table, ·)
  | some value => [(table, value)]

def csvRows (exported : Value) : List (String × Value) :=
  if (exported.get? "export_schema_version").isSome then
    ("manifest", manifestRow exported) ::
      match exported.get? "experiment" with
      | none => []
      | some experiment =>
        ("experiment", (experiment.remove "sessions").2) ::
          ((((experiment.remove "sessions").1.getD (.array [])).asArray?).getD []).map
            ("session", ·)
  else exportTables.flatMap (tableRows exported)

theorem foldl_rows (table : String) (rows : List Value) (output : String) :
    rows.foldl (fun output row => pushCsvRow floats output table row) output =
      (rows.map (table, ·)).foldl (fun output row => pushCsvRow floats output row.1 row.2)
        output := by
  rw [List.foldl_map]

theorem pushCsvTable_eq (exported : Value) (output table : String) :
    pushCsvTable floats exported output table = (tableRows exported table).foldl
      (fun output row => pushCsvRow floats output row.1 row.2) output := by
  unfold pushCsvTable tableRows
  cases exported.get? table with
  | none => rfl
  | some value =>
    cases value with
    | array rows => exact foldl_rows floats table rows output
    | _ => rfl

theorem exportCsv_eq (exported : Value) : exportCsv floats exported =
    (csvRows exported).foldl (fun output row => pushCsvRow floats output row.1 row.2)
      "table,row_json\n" := by
  unfold exportCsv csvRows
  split
  · simp only [List.foldl_cons]
    cases exported.get? "experiment" with
    | none => rfl
    | some experiment =>
      simp only [List.foldl_cons]
      cases ((experiment.remove "sessions").1.getD (.array [])).asArray? with
      | none => rfl
      | some rows => exact foldl_rows floats "session" rows _
  · rw [List.foldl_flatMap]
    exact congrArg (fun push => exportTables.foldl push "table,row_json\n")
      (funext₂ (pushCsvTable_eq floats exported))

/-- Every export is read as its header and one record for each row. -/
theorem read_exportCsv (exported : Value) : Csv.read (exportCsv floats exported) =
    some (["table", "row_json"] :: (csvRows exported).map fun row =>
      [row.1, jsonText floats row.2]) := by
  have header : Records "table,row_json\n" [["table", "row_json"]] := by
    rw [Records]
    rfl
  rw [exportCsv_eq]
  exact (header.pushAll floats).read

end Rows

structure CorpusFields where
  exportSchemaVersion : Value
  exportVariant : Value
  releaseStatus : Value
  contentReviewRequired : Value
  privacyContractVersion : Value
  dataInventory : Value
  experimentId : Value
  game : Value
  configuration : Value
  participants : Value
  sessions : List Value

namespace CorpusFields

variable (fields : CorpusFields)

def manifestMembers : List (String × Value) :=
  [("export_schema_version", fields.exportSchemaVersion), ("export_variant", fields.exportVariant),
    ("release_status", fields.releaseStatus),
    ("content_review_required", fields.contentReviewRequired),
    ("privacy_contract_version", fields.privacyContractVersion),
    ("data_inventory", fields.dataInventory)]

def metadataMembers : List (String × Value) :=
  [("experiment_id", fields.experimentId), ("game", fields.game),
    ("configuration", fields.configuration), ("participants", fields.participants)]

def document : Value :=
  .json (fields.manifestMembers ++
    [("experiment", .json (fields.metadataMembers ++ [("sessions", .array fields.sessions)]))])

/-- The rows that the document is to be split into. -/
def rows : List (String × Value) :=
  ("manifest", .json fields.manifestMembers) :: ("experiment", .json fields.metadataMembers) ::
    fields.sessions.map ("session", ·)

/-- The document in the order of its keys. -/
theorem document_eq : fields.document = .object
    [("content_review_required", fields.contentReviewRequired),
      ("data_inventory", fields.dataInventory),
      ("experiment", .object [("configuration", fields.configuration),
        ("experiment_id", fields.experimentId), ("game", fields.game),
        ("participants", fields.participants), ("sessions", .array fields.sessions)]),
      ("export_schema_version", fields.exportSchemaVersion),
      ("export_variant", fields.exportVariant),
      ("privacy_contract_version", fields.privacyContractVersion),
      ("release_status", fields.releaseStatus)] := by
  simp only [document, manifestMembers, metadataMembers, Value.json, Value.sortMembers,
    Value.insertMember, List.cons_append, List.nil_append, List.foldr, reduceIte, String.reduceEq,
    String.reduceLT]

theorem manifest_eq : Value.json fields.manifestMembers = .object
    [("content_review_required", fields.contentReviewRequired),
      ("data_inventory", fields.dataInventory),
      ("export_schema_version", fields.exportSchemaVersion),
      ("export_variant", fields.exportVariant),
      ("privacy_contract_version", fields.privacyContractVersion),
      ("release_status", fields.releaseStatus)] := by
  simp only [manifestMembers, Value.json, Value.sortMembers, Value.insertMember, List.foldr,
    reduceIte, String.reduceEq, String.reduceLT]

theorem metadata_eq : Value.json fields.metadataMembers = .object
    [("configuration", fields.configuration), ("experiment_id", fields.experimentId),
      ("game", fields.game), ("participants", fields.participants)] := by
  simp only [metadataMembers, Value.json, Value.sortMembers, Value.insertMember, List.foldr,
    reduceIte, String.reduceEq, String.reduceLT]

theorem csvRows_document : csvRows fields.document = fields.rows := by
  have manifest : manifestRow fields.document = .json fields.manifestMembers := by
    rw [document_eq]
    rfl
  rw [csvRows, manifest, rows, metadata_eq, document_eq]
  rfl

end CorpusFields

section Reconstruction

variable (floats : FloatText)

def recordValue : List String → Option Value
  | [_, text] => JsonSyntax.read floats text
  | _ => none

/-- A document put together again from its records, the header first. -/
def rebuildCorpus : List (List String) → Option Value
  | _ :: manifest :: experiment :: sessions => do
    let manifest ← (← recordValue floats manifest).asObject?
    let experiment ← (← recordValue floats experiment).asObject?
    let sessions ← sessions.mapM (recordValue floats)
    return .object (Value.insertMember "experiment"
      (.object (Value.insertMember "sessions" (.array sessions) experiment)) manifest)
  | _ => none

variable {floats}

theorem mapM_recordValue {rows : List (String × Value)} (back : ∀ row ∈ rows,
    recordValue floats [row.1, jsonText floats row.2] = some row.2) :
    (rows.map fun row => [row.1, jsonText floats row.2]).mapM (recordValue floats) =
      some (rows.map Prod.snd) := by
  induction rows with
  | nil => rfl
  | cons row rows ih =>
    rw [List.map_cons, List.mapM_cons, back row (List.mem_cons_self ..),
      ih fun row mem => back row (List.mem_cons_of_mem _ mem)]
    rfl

variable (exact : ∀ x, IsDouble x → floats.Exact x)
include exact

theorem read_jsonText {row : Value} (held : row.Every Value.HeldNumber) :
    JsonSyntax.read floats (jsonText floats row) = some row := by
  refine JsonSyntax.read_write (Value.Every.imp (fun value number => ?_) row held)
  cases value with
  | float x => exact exact x number
  | _ => trivial

theorem recordValue_row {table : String} {row : Value} (held : row.Every Value.HeldNumber) :
    recordValue floats [table, jsonText floats row] = some row := by
  rw [recordValue, read_jsonText exact held]

namespace CorpusFields

variable {fields : CorpusFields}

omit exact in
theorem held_rows (held : fields.document.Every Value.HeldNumber) :
    ∀ row ∈ fields.rows, row.2.Every Value.HeldNumber := by
  rw [document_eq] at held
  simp only [Value.Every, Value.EveryMember] at held
  obtain ⟨review, inventory, ⟨configuration, id, game, participants, sessions, -⟩, schema, variant,
    privacy, release, -⟩ := held
  intro row mem
  rw [rows, manifest_eq, metadata_eq] at mem
  rcases List.mem_cons.mp mem with rfl | mem
  · simp only [Value.Every, Value.EveryMember]
    exact ⟨review, inventory, schema, variant, privacy, release, trivial⟩
  · rcases List.mem_cons.mp mem with rfl | mem
    · simp only [Value.Every, Value.EveryMember]
      exact ⟨configuration, id, game, participants, trivial⟩
    · obtain ⟨session, kept, rfl⟩ := List.mem_map.mp mem
      exact Value.Every.item sessions kept

theorem rebuildCorpus_rows (held : fields.document.Every Value.HeldNumber) :
    rebuildCorpus floats (["table", "row_json"] :: fields.rows.map fun row =>
      [row.1, jsonText floats row.2]) = some fields.document := by
  have rows := held_rows held
  have value {row : String × Value} (mem : row ∈ fields.rows) :
      recordValue floats [row.1, jsonText floats row.2] = some row.2 :=
    recordValue_row exact (rows row mem)
  have sessions : ((fields.sessions.map ("session", ·)).map fun row =>
      [row.1, jsonText floats row.2]).mapM (recordValue floats) = some fields.sessions := by
    have all := mapM_recordValue fun row (mem : row ∈ fields.sessions.map ("session", ·)) =>
      value (List.mem_cons_of_mem _ (List.mem_cons_of_mem _ mem))
    rw [all, List.map_map]
    exact congrArg some (List.map_id _)
  have manifest := value (List.mem_cons_self ..)
  have metadata := value (List.mem_cons_of_mem _ (List.mem_cons_self ..))
  rw [manifest_eq] at manifest
  rw [metadata_eq] at metadata
  rw [CorpusFields.rows, List.map_cons, List.map_cons, manifest_eq, metadata_eq, rebuildCorpus]
  simp only [manifest, metadata, sessions, Option.bind_eq_bind, Option.bind_some, Value.asObject?,
    Option.pure_def]
  rw [document_eq]
  simp only [Value.insertMember, reduceIte, String.reduceEq, String.reduceLT]

end CorpusFields

end Reconstruction

/-- What the corpus projection makes is a corpus document. -/
theorem exists_corpusFields {times : TimeTexts} {raw corpus : Value} {version : String}
    (projected : corpusExperimentExport times raw version = .ok corpus) :
    ∃ fields : CorpusFields, corpus = fields.document := by
  obtain ⟨value, participants, sessions, -, -, rfl⟩ := corpusExperimentExport_ok projected
  exact ⟨⟨_, _, _, _, _, _, _, _, _, _, sessions⟩, rfl⟩

theorem documentKeys_plain : ∀ key ∈ ["content_review_required", "data_inventory", "experiment",
    "export_schema_version", "export_variant", "privacy_contract_version", "release_status",
    "configuration", "experiment_id", "game", "participants", "sessions"],
    isRedactedKey key = false := by decide +kernel

/-- The redaction of a corpus document is one again, as none of its own keys is redacted. -/
theorem redact_document (fields : CorpusFields) :
    ∃ redacted : CorpusFields, redactSecretFields fields.document = redacted.document := by
  refine ⟨⟨redactSecretFields fields.exportSchemaVersion, redactSecretFields fields.exportVariant,
    redactSecretFields fields.releaseStatus, redactSecretFields fields.contentReviewRequired,
    redactSecretFields fields.privacyContractVersion, redactSecretFields fields.dataInventory,
    redactSecretFields fields.experimentId, redactSecretFields fields.game,
    redactSecretFields fields.configuration, redactSecretFields fields.participants,
    redactItems fields.sessions⟩, ?_⟩
  have plain := documentKeys_plain
  simp only [List.forall_mem_cons] at plain
  obtain ⟨review, inventory, experiment, schema, variant, privacy, release, configuration, id, game,
    participants, sessions, -⟩ := plain
  rw [CorpusFields.document_eq, CorpusFields.document_eq]
  simp only [redactSecretFields, redactMembers, review, inventory, experiment, schema, variant,
    privacy, release, configuration, id, game, participants, sessions, Bool.false_eq_true,
    if_false]

section Lossless

variable {floats : FloatText}

/--
The CSV of a corpus document is read as the header and one record for each row, whose second field
is the JSON text of the row, and the document can be put together again from them. The exported
documents are corpus documents, before and after redaction.
-/
theorem csv_export_lossless (exact : ∀ x, IsDouble x → floats.Exact x) :
    (∀ fields : CorpusFields, fields.document.Every Value.HeldNumber →
      (∃ records, Csv.read (exportCsv floats fields.document) =
          some (["table", "row_json"] :: records) ∧
        List.Forall₂ (fun row record => ∃ text, record = [row.1, text] ∧
          JsonSyntax.read floats text = some row.2) fields.rows records) ∧
      (Csv.read (exportCsv floats fields.document)).bind (rebuildCorpus floats) =
        some fields.document) ∧
    (∀ fields fields' : CorpusFields, fields.document.Every Value.HeldNumber →
      fields'.document.Every Value.HeldNumber →
      exportCsv floats fields.document = exportCsv floats fields'.document →
        fields.document = fields'.document) ∧
    ∀ times raw version corpus, corpusExperimentExport times raw version = .ok corpus →
      (∃ fields : CorpusFields, corpus = fields.document) ∧
        ∃ fields : CorpusFields, redactSecretFields corpus = fields.document := by
  have back (fields : CorpusFields) (held : fields.document.Every Value.HeldNumber) :
      (Csv.read (exportCsv floats fields.document)).bind (rebuildCorpus floats) =
        some fields.document := by
    rw [read_exportCsv, CorpusFields.csvRows_document, Option.bind_some,
      CorpusFields.rebuildCorpus_rows exact held]
  refine ⟨fun fields held => ⟨⟨fields.rows.map fun row => [row.1, jsonText floats row.2], ?_, ?_⟩,
    back fields held⟩, fun fields fields' held held' same => ?_,
    fun times raw version corpus projected => ?_⟩
  · rw [read_exportCsv, CorpusFields.csvRows_document]
  · rw [List.forall₂_map_right_iff, List.forall₂_same]
    intro row mem
    exact ⟨jsonText floats row.2, rfl, read_jsonText exact (CorpusFields.held_rows held row mem)⟩
  · have here := back fields held
    rw [same, back fields' held'] at here
    exact (Option.some.inj here).symm
  · obtain ⟨fields, rfl⟩ := exists_corpusFields projected
    exact ⟨⟨fields, rfl⟩, redact_document fields⟩

end Lossless

/-- The decimal places that every double does with. -/
def places : Nat := 1074

def allDigits : FloatText where
  write x := .ofList ((x * 10 ^ places).num.repr.toList ++ ['e', '-', '1', '0', '7', '4'])
  read text :=
    some (JsonSyntax.integerValue (text.toList.takeWhile fun c => c != 'e') / 10 ^ places)

/-- A double is a multiple of the least power of two, and so of that power of ten. -/
theorem isInt_of_isDouble {x : Rat} (double : IsDouble x) :
    ((x * 10 ^ places).num : Rat) = x * 10 ^ places := by
  obtain ⟨m, e, -, low, -, rfl⟩ := double
  obtain ⟨k, power⟩ := Int.eq_ofNat_of_zero_le (show 0 ≤ e + (places : Int) by
    change 0 ≤ e + 1074
    omega)
  have two : (2 : Rat) ^ e * 2 ^ places = 2 ^ k := by
    rw [← zpow_natCast, ← zpow_add₀ (by norm_num), power]
    exact zpow_natCast ..
  have whole : (m : Rat) * 2 ^ e * 10 ^ places = ((m * 2 ^ k * 5 ^ places : Int) : Rat) := by
    push_cast
    rw [show (10 : Rat) = 2 * 5 by norm_num, mul_pow, ← mul_assoc, mul_assoc (m : Rat), two]
  rw [whole, Rat.num_intCast]

theorem allDigits_exact (x : Rat) (double : IsDouble x) : allDigits.Exact x := by
  obtain ⟨integer, value, -⟩ := JsonSyntax.repr_isInteger (x * 10 ^ places).num
  have written : (allDigits.write x).toList =
      (x * 10 ^ places).num.repr.toList ++ ['e', '-', '1', '0', '7', '4'] := String.toList_ofList
  have chars := JsonSyntax.isInteger_chars integer
  generalize (x * 10 ^ places).num.repr.toList = digits at integer value written chars
  have part : ∀ c ∈ digits, (c.isDigit || c == '-') = true := by
    intro c mem
    rcases chars c mem with digit | rfl
    · rw [digit, Bool.true_or]
    · rfl
  have letter : ∀ c ∈ digits, (c != 'e') = true := by
    intro c mem
    rcases chars c mem with digit | rfl
    · rw [bne_iff_ne]
      rintro rfl
      cases digit
    · rfl
  refine ⟨?_, ?_, ?_⟩
  · rw [written, JsonSyntax.isNumber]
    simp only [List.takeWhile_append_of_pos part, List.dropWhile_append_of_pos part]
    have tail : JsonSyntax.isTail ['e', '-', '1', '0', '7', '4'] = true := by decide
    simp [integer, tail]
  · rw [Bool.eq_false_iff]
    intro whole
    have e := JsonSyntax.isInteger_chars whole 'e' (by rw [written]; simp)
    exact absurd e (by decide)
  · change some (JsonSyntax.integerValue ((allDigits.write x).toList.takeWhile
      fun c => c != 'e') / 10 ^ places : Rat) = some x
    rw [written, List.takeWhile_append_of_pos letter]
    have rest : ['e', '-', '1', '0', '7', '4'].takeWhile (fun c => c != 'e') = [] := rfl
    rw [rest, List.append_nil, value, isInt_of_isDouble double,
      mul_div_cancel_right₀ x (by positivity)]

def escapedDocument : CorpusFields where
  exportSchemaVersion := .string "parlando.corpus.v1"
  exportVariant := .string "corpus"
  releaseStatus := .string "corpus_candidate"
  contentReviewRequired := .bool true
  privacyContractVersion := .string "2"
  dataInventory := .json [("sessions", .int 1)]
  experimentId := .string "demo"
  game := .json [("version", .string "1.0.0")]
  configuration := .json [("prompt", .string "Say \"hello\",\nthen wait…")]
  participants := .array []
  sessions := [.json [("session_id", .string "d\r1, \\")]]

theorem csv_export_escapedDocument :
    (Csv.read (exportCsv allDigits escapedDocument.document)).bind (rebuildCorpus allDigits) =
      some escapedDocument.document := by
  refine ((csv_export_lossless allDigits_exact).1 escapedDocument ?_).2
  rw [CorpusFields.document_eq]
  simp [Value.Every, Value.EveryMember, Value.EveryItem, Value.HeldNumber, escapedDocument,
    Value.json, Value.sortMembers, Value.insertMember]

end Parlando
