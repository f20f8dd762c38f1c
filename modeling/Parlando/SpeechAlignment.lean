import Parlando.AgentConfig
import Parlando.Conversation
import Parlando.Data.Except
import Parlando.Data.Json

namespace Parlando

/-- Character boundaries returned alongside one audio chunk; their times are exact rationals. -/
structure CharacterAlignment where
  chars : List String
  charStartTimesMs : List Rat
  charDurationsMs : List Rat

namespace CharacterAlignment

def ofValues (chars starts durations : Value) : Except String CharacterAlignment := do
  let chars ← orError chars.asArray? "expected a sequence"
  let starts ← orError starts.asArray? "expected a sequence"
  let durations ← orError durations.asArray? "expected a sequence"
  return {
    chars := ← chars.mapM fun text => orError text.asStr? "expected a string"
    charStartTimesMs := ← starts.mapM fun time => orError time.asF64? "expected f64"
    charDurationsMs := ← durations.mapM fun time => orError time.asF64? "expected f64" }

/-- The field under its name or its alias, but not under both. -/
def field (members : List (String × Value)) (name otherName : String) : Except String Value :=
  match Value.member? members name, Value.member? members otherName with
  | some value, none | none, some value => .ok value
  | none, none => .error ("missing field " ++ name)
  | some _, some _ => .error ("duplicate field " ++ name)

/-- A structure is read from its fields in an object, or from their sequence in an array. -/
def decode : Value → Except String CharacterAlignment
  | .object members => do
    let chars ← orError (Value.member? members "chars") "missing field chars"
    let starts ← field members "char_start_times_ms" "charStartTimesMs"
    let durations ← field members "char_durations_ms" "charDurationsMs"
    ofValues chars starts durations
  | .array [chars, starts, durations] => ofValues chars starts durations
  | _ => .error "invalid type"

def entries (alignment : CharacterAlignment) : List ((String × Rat) × Rat) :=
  (alignment.chars.zip alignment.charStartTimesMs).zip alignment.charDurationsMs

end CharacterAlignment

/-- One normalized spoken character in the concatenated audio clock. -/
structure TimedCharacter where
  character : Char
  startMs : Int
  endMs : Int
  deriving DecidableEq, Repr

/-- A nonnegative time in whole milliseconds; the conversion stops at the largest integer. -/
def roundMs (time : Rat) : Int := min (time + 1 / 2).floor 9223372036854775807

def appendEntry (output : List TimedCharacter) : (String × Rat) × Rat →
    Except String (List TimedCharacter)
  | ((text, start), duration) =>
    if start < 0 ∨ duration < 0 ∨ 2 ^ 63 ≤ start + duration then
      .error "invalid TTS character interval"
    else if output.getLast?.any fun previous => decide (roundMs start < previous.startMs) then
      .error "TTS alignment clock moved backwards"
    else
      .ok (output ++ text.toList.map fun character =>
        { character, startMs := roundMs start, endMs := roundMs (start + duration) })

/-- Validates alignment offsets, which remain cumulative within one synthesis request. -/
def appendAlignment (output : List TimedCharacter) (value : Value) :
    Except String (List TimedCharacter) := do
  let alignment ← CharacterAlignment.decode value
  if alignment.chars.length ≠ alignment.charStartTimesMs.length ∨
      alignment.chars.length ≠ alignment.charDurationsMs.length then
    throw "TTS alignment array lengths differ"
  else alignment.entries.foldlM appendEntry output

/-- The characters of the payloads of one synthesis request. -/
def appendAlignments (payloads : List Value) : Except String (List TimedCharacter) :=
  payloads.foldlM appendAlignment []

def isConnector (c : Char) : Bool := c == .ofNat 0x27 || c == .ofNat 0x2019 || c == '-'

def extendWord (tokens : List TranscriptToken) (item : TimedCharacter) : List TranscriptToken :=
  match tokens.getLast? with
  | some token => tokens.dropLast ++ [{ token with
      text := token.text.push item.character
      endTimeMs := max token.endTimeMs item.endMs }]
  | none => tokens

section

-- `char::is_alphanumeric`, whose table of characters is a parameter.
variable (isAlphanumeric : Char → Bool)

/-- The loop of `alignment_tokens`, with its tokens and its flag. -/
def tokensFrom (tokens : List TranscriptToken) (inWord : Bool) :
    List TimedCharacter → List TranscriptToken
  | [] => tokens
  | item :: rest =>
    if isBlankChar item.character then tokensFrom tokens false rest
    else
      let connector := isConnector item.character && inWord &&
        rest.head?.any fun next => isAlphanumeric next.character
      if isAlphanumeric item.character || connector then
        if inWord then tokensFrom (extendWord tokens item) true rest
        else
          tokensFrom (tokens ++ [{
            kind := "word"
            text := .ofList [item.character]
            startTimeMs := item.startMs
            endTimeMs := item.endMs
            confidence := none }]) true rest
      else
        tokensFrom (tokens ++ [{
          kind := "punctuation"
          text := .ofList [item.character]
          startTimeMs := item.startMs
          endTimeMs := item.startMs
          confidence := none }]) false rest

/-- Groups normalized characters into spoken words, including words split across chunks. -/
def alignmentTokens (characters : List TimedCharacter) : List TranscriptToken :=
  tokensFrom isAlphanumeric [] false characters

end

end Parlando
