import Parlando.Data.JsonSyntax
import Parlando.Export

namespace Parlando

def csvEscape (value : String) : String :=
  if value.toList.any fun c => c == ',' || c == '"' || c == '\n' || c == '\r' then
    .ofList ('"' :: (value.toList.flatMap fun c => if c = '"' then ['"', '"'] else [c]) ++ ['"'])
  else value

def Value.remove (key : String) : Value → Option Value × Value
  | .object members => (member? members key, .object (members.filter fun member => member.1 != key))
  | value => (none, value)

section

variable (floats : FloatText)

def jsonText (value : Value) : String := .ofList (JsonSyntax.write floats value)

def pushCsvRow (output table : String) (row : Value) : String :=
  output ++ csvEscape table ++ "," ++ csvEscape (jsonText floats row) ++ "\n"

def exportTables : List String :=
  ["experiment", "participants", "sessions", "session_participants", "consent_declarations",
    "session_events", "events", "messages"]

def pushCsvTable (exported : Value) (output table : String) : String :=
  match exported.get? table with
  | none => output
  | some (.array rows) => rows.foldl (fun output row => pushCsvRow floats output table row) output
  | some .null => output
  | some value => pushCsvRow floats output table value

/-- The six members of a corpus document beside its experiment. -/
def manifestRow (exported : Value) : Value :=
  .json [("export_schema_version", exported.index "export_schema_version"),
    ("export_variant", exported.index "export_variant"),
    ("release_status", exported.index "release_status"),
    ("content_review_required", exported.index "content_review_required"),
    ("privacy_contract_version", exported.index "privacy_contract_version"),
    ("data_inventory", exported.index "data_inventory")]

/-- Serializes all tables in an export variant into a two-column CSV stream. -/
def exportCsv (exported : Value) : String :=
  let output := "table,row_json\n"
  if (exported.get? "export_schema_version").isSome then
    let output := pushCsvRow floats output "manifest" (manifestRow exported)
    match exported.get? "experiment" with
    | none => output
    | some experiment =>
      let (sessions, metadata) := experiment.remove "sessions"
      let output := pushCsvRow floats output "experiment" metadata
      match (sessions.getD (.array [])).asArray? with
      | none => output
      | some rows => rows.foldl (fun output row => pushCsvRow floats output "session" row) output
  else exportTables.foldl (pushCsvTable floats exported) output

end

end Parlando
