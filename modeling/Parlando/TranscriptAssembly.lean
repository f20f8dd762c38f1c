import Parlando.Transcription

namespace Parlando

/-- What reading the provider's socket yields; a stream that closes yields nothing more. -/
inductive ProviderMessage where
  /-- A text that holds a JSON document. -/
  | payload (value : Value)
  /-- Another text, or no text. -/
  | unreadable
  | failed

inductive TranscriptionEvent where
  | ready
  | finalUtterance (utterance : FinalTranscriptUtterance)
  | failed (error : String)

namespace Speechmatics

/-- Emits the accumulated final fragments at the provider's utterance boundary. -/
def flushUtterance (pending : List FinalTranscriptUtterance) : List TranscriptionEvent :=
  (takeUtterance pending).toList.map .finalUtterance

def closed : List TranscriptionEvent :=
  [.failed "Speechmatics closed before EndOfTranscript"]

section

-- The text of a JSON document.
variable (toText : Value → String) (endOfUtteranceSilenceTrigger : Rat)

/-- The receive loop after `RecognitionStarted`: the events for a consumer that takes all of them. -/
def receive (pending : List FinalTranscriptUtterance) :
    List ProviderMessage → List TranscriptionEvent
  | [] => closed
  | .failed :: _ => closed
  | .unreadable :: rest => receive pending rest
  | .payload value :: rest =>
    match (value.index "message").asStr? with
    | some "AddTranscript" =>
      match parseFragment value with
      | .ok (some fragment) =>
        if endOfUtteranceSilenceTrigger ≤ 0 then
          flushUtterance (pending ++ [fragment]) ++ receive [] rest
        else receive (pending ++ [fragment]) rest
      | .ok none => receive pending rest
      | .error error => .failed ("Invalid Speechmatics final: " ++ error) :: closed
    | some "EndOfUtterance" => flushUtterance pending ++ receive [] rest
    | some "EndOfTranscript" => flushUtterance pending
    | some "Error" => .failed (toText value) :: closed
    | _ => receive pending rest

end

end Speechmatics

end Parlando
