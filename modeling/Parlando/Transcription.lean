import Parlando.AgentConfig
import Parlando.Conversation
import Parlando.Data.Except
import Parlando.Data.Json

namespace Parlando

/-- The values in a message nest at most this deep, where its parser gives up. -/
def jsonDepth : Nat := 128

/-- Converts a required, nonnegative provider timestamp without guessing. -/
def secondsMs (value : Value) : Except String Int :=
  match value.asF64? with
  | none => .error "missing timestamp"
  | some seconds =>
    let millis := Double.nearest (seconds * 1000)
    if seconds < 0 ∨ 2 ^ 63 ≤ millis then .error "invalid timestamp"
    else .ok (millis + 1 / 2).floor

/-- The double 0.0045 lies below 4.5 ms, and its product with 1000 is 4.5. -/
example : secondsMs (.float (5188146770730811 / 2 ^ 60)) = .ok 5 := by decide +kernel

def parseToken (result : Value) : Except String TranscriptToken := do
  let kind ← orError (result.index "type").asStr? "missing result type"
  if kind ≠ "word" ∧ kind ≠ "punctuation" then throw ("unsupported result type: " ++ kind)
  let alternative ← orError ((result.index "alternatives").asArray?.bind List.head?)
    "missing alternative"
  let text ← orError (alternative.index "content").asStr? "missing token text"
  let startTimeMs ← secondsMs (result.index "start_time")
  let endTimeMs ← secondsMs (result.index "end_time")
  if endTimeMs < startTimeMs then throw "reversed token interval"
  let confidence := (alternative.index "confidence").asF64?
  if confidence.any fun value => value < 0 ∨ 1 < value then throw "invalid confidence"
  return { kind, text, startTimeMs, endTimeMs, confidence }

/-- Extracts spoken words recursively; entity written forms stay in the utterance's text. -/
def parseTokens : Nat → List Value → Except String (List TranscriptToken)
  | 0, _ => .error "recursion limit exceeded"
  | depth + 1, results => do
    let tokens ← results.mapM fun result =>
      if (result.index "type").asStr? = some "entity" then do
        parseTokens depth (← orError (result.index "spoken_form").asArray? "entity lacks spoken form")
      else (parseToken result).map fun token => [token]
    return tokens.flatten

def trim (text : String) : String :=
  .ofList ((text.toList.dropWhile isBlankChar).reverse.dropWhile isBlankChar).reverse

/-- Parses one final fragment, keeping absolute stream offsets and provider formatting. -/
def parseFragment (payload : Value) : Except String (Option FinalTranscriptUtterance) := do
  let metadata := payload.index "metadata"
  let text ← orError (metadata.index "transcript").asStr? "missing final text"
  if isBlank text then return none
  let startTimeMs ← secondsMs (metadata.index "start_time")
  let endTimeMs ← secondsMs (metadata.index "end_time")
  if endTimeMs < startTimeMs then throw "reversed utterance interval"
  let tokens ← match (payload.index "results").asArray? with
    | some results => parseTokens jsonDepth results
    | none => .ok []
  let resultIds := (payload.index "id").asStr?.toList
  return some { startTimeMs, endTimeMs, text, resultIds, tokens }

/-- Combines final fragments into one parent utterance without altering formatting. -/
def takeUtterance : List FinalTranscriptUtterance → Option FinalTranscriptUtterance
  | [] => none
  | first :: rest =>
    let pending := first :: rest
    some {
      startTimeMs := rest.foldl (fun least part => min least part.startTimeMs) first.startTimeMs
      endTimeMs := rest.foldl (fun most part => max most part.endTimeMs) first.endTimeMs
      text := trim (String.join (pending.map FinalTranscriptUtterance.text))
      resultIds := pending.flatMap FinalTranscriptUtterance.resultIds
      tokens := pending.flatMap FinalTranscriptUtterance.tokens }

end Parlando
