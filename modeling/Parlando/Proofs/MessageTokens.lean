import Parlando.Proofs.Export
import Parlando.RuntimeStore

namespace Parlando

variable {members : List SessionParticipantRow} {record : SessionEventRecord}

theorem required_some {α : Type} {value : Option α} {a : α} (found : value = some a)
    (message : String) : required value message = .ok a := by
  rw [found]
  rfl

theorem filter_of_some {α : Type} {value : Option α} {a : α} {p : α → Bool}
    (found : value = some a) (holds : p a = true) : value.filter p = some a := by
  rw [found, Option.filter_some, if_pos holds]

theorem of_required_filter {α : Type} {value : Option α} {a : α} {p : α → Bool} {message : String}
    (h : required (value.filter p) message = .ok a) : value = some a ∧ p a = true :=
  Option.filter_eq_some_iff.mp (required_ok h)

structure TokenShaped (token : Value) : Prop where
  kind : ∃ kind, (token.index "kind").asStr? = some kind ∧
    (kind = "word" ∨ kind = "punctuation")
  text : ∃ text, (token.index "text").asStr? = some text
  confidence : ∀ confidence, token.get? "confidence" = some confidence →
    ∃ value, confidence.asF64? = some value ∧ 0 ≤ value ∧ value ≤ 1

def TokenInGame (token : Value) : Prop :=
  ∃ start stop, (token.index "start_ms").asI64? = some start ∧
    (token.index "end_ms").asI64? = some stop ∧ 0 ≤ start ∧ start ≤ stop

theorem exportTranscriptToken_iff {token : Value} (shaped : TokenShaped token) :
    (∃ doc, exportTranscriptToken token = .ok doc) ↔ TokenInGame token := by
  constructor
  · intro ⟨doc, h⟩
    unfold exportTranscriptToken at h
    obtain ⟨kind, -, h⟩ := Except.of_bind_ok h
    obtain ⟨text, -, h⟩ := Except.of_bind_ok h
    obtain ⟨start, begins, h⟩ := Except.of_bind_ok h
    obtain ⟨stop, ends, -⟩ := Except.of_bind_ok h
    obtain ⟨begins, inGame⟩ := of_required_filter begins
    obtain ⟨ends, forward⟩ := of_required_filter ends
    exact ⟨start, stop, begins, ends, of_decide_eq_true inGame, of_decide_eq_true forward⟩
  · intro ⟨start, stop, begins, ends, inGame, forward⟩
    obtain ⟨kind, isKind, known⟩ := shaped.kind
    obtain ⟨text, isText⟩ := shaped.text
    have listed : ((token.index "kind").asStr?.filter fun kind =>
        kind == "word" || kind == "punctuation") = some kind :=
      filter_of_some isKind (by rcases known with rfl | rfl <;> rfl)
    have onset : ((token.index "start_ms").asI64?.filter fun value => decide (0 ≤ value)) =
        some start := filter_of_some begins (decide_eq_true inGame)
    have endpoint : ((token.index "end_ms").asI64?.filter fun value =>
        decide (start ≤ value)) = some stop := filter_of_some ends (decide_eq_true forward)
    simp only [exportTranscriptToken, required_some listed, required_some isText,
      required_some onset, required_some endpoint, bind, Except.bind]
    cases given : token.get? "confidence" with
    | none => exact ⟨_, rfl⟩
    | some confidence =>
      obtain ⟨value, number, low, high⟩ := shaped.confidence confidence given
      have inRange : (confidence.asF64?.filter fun value =>
          decide (0 ≤ value) && decide (value ≤ 1)) = some value :=
        filter_of_some number (by simp [low, high])
      simp only [required_some inRange]
      exact ⟨_, rfl⟩

def TokensShaped (tokens : Value) : Prop :=
  ∃ items, tokens = .array items ∧ ∀ token ∈ items, TokenShaped token

def TokensInGame (tokens : Value) : Prop := ∀ token ∈ tokens.asArray?.getD [], TokenInGame token

theorem exportTranscriptTokens_iff {tokens : Value} (shaped : TokensShaped tokens) :
    (∃ doc, exportTranscriptTokens tokens = .ok doc) ↔ TokensInGame tokens := by
  obtain ⟨items, rfl, shaped⟩ := shaped
  constructor
  · intro ⟨doc, h⟩ token mem
    unfold exportTranscriptTokens at h
    obtain ⟨items', array, h⟩ := Except.of_bind_ok h
    obtain ⟨documents, mapped, -⟩ := Except.of_bind_ok h
    cases required_ok array
    obtain ⟨document, -, image⟩ := Except.mapM_image mapped mem
    exact (exportTranscriptToken_iff (shaped token mem)).mp ⟨document, image⟩
  · intro inGame
    obtain ⟨documents, mapped⟩ := Except.mapM_total fun token mem =>
      (exportTranscriptToken_iff (shaped token mem)).mpr (inGame token mem)
    refine ⟨.array documents, ?_⟩
    simp only [exportTranscriptTokens, required_some (show (Value.array items).asArray? = some items
      from rfl), bind, Except.bind, mapped]
    rfl

theorem kind_of_parseToken {result : Value} {token : TranscriptToken}
    (h : parseToken result = .ok token) : (token.kind = "word" ∨ token.kind = "punctuation") ∧
      ∀ confidence, token.confidence = some confidence → 0 ≤ confidence ∧ confidence ≤ 1 := by
  unfold parseToken at h
  obtain ⟨kind, -, h⟩ := Except.of_bind_ok h
  obtain ⟨known, h⟩ := Except.of_check_ok h
  obtain ⟨alternative, -, h⟩ := Except.of_bind_ok h
  obtain ⟨text, -, h⟩ := Except.of_bind_ok h
  obtain ⟨start, -, h⟩ := Except.of_bind_ok h
  obtain ⟨stop, -, h⟩ := Except.of_bind_ok h
  obtain ⟨-, h⟩ := Except.of_check_ok h
  obtain ⟨valid, h⟩ := Except.of_check_ok h
  cases h
  refine ⟨by by_contra neither; exact known (not_or.mp neither), ?_⟩
  intro confidence given
  simp only at given
  rw [given, Option.any_some] at valid
  exact ⟨Rat.not_lt.mp fun low => valid (decide_eq_true (.inl low)),
    Rat.not_lt.mp fun high => valid (decide_eq_true (.inr high))⟩

theorem tokenShaped_json {streamStart : Int} {token : TranscriptToken} {value : Value}
    (recognized : token.Recognized) (h : token.json streamStart = .ok value) :
    TokenShaped value := by
  obtain ⟨result, parsed, ok, is⟩ := recognized
  obtain ⟨kind, confidence⟩ := kind_of_parseToken ok
  have sameKind : token.kind = parsed.kind := by rw [is]
  have sameConfidence : token.confidence = parsed.confidence := by rw [is]
  unfold TranscriptToken.json at h
  split at h <;> cases h
  constructor
  · refine ⟨token.kind, ?_, sameKind ▸ kind⟩
    cases token.confidence <;> rfl
  · refine ⟨token.text, ?_⟩
    cases token.confidence <;> rfl
  · intro given found
    cases own : token.confidence with
    | none =>
      rw [own] at found
      cases found
    | some value =>
      rw [own] at found
      cases found
      exact ⟨value, rfl, confidence value (sameConfidence ▸ own)⟩

theorem kind_of_tokensFrom (isAlphanumeric : Char → Bool) (characters : List TimedCharacter)
    {tokens : List TranscriptToken} {inWord : Bool}
    (known : ∀ token ∈ tokens, token.kind = "word" ∨ token.kind = "punctuation") :
    ∀ token ∈ tokensFrom isAlphanumeric tokens inWord characters,
      token.kind = "word" ∨ token.kind = "punctuation" := by
  induction characters generalizing tokens inWord with
  | nil => exact known
  | cons item rest ih =>
    have append (token : TranscriptToken) (kind : token.kind = "word" ∨ token.kind = "punctuation") :
        ∀ other ∈ tokens ++ [token], other.kind = "word" ∨ other.kind = "punctuation" := by
      intro other mem
      rcases List.mem_append.mp mem with old | new
      · exact known other old
      · rw [List.mem_singleton.mp new]
        exact kind
    have extend : ∀ other ∈ extendWord tokens item,
        other.kind = "word" ∨ other.kind = "punctuation" := by
      unfold extendWord
      split
      · rename_i last found
        intro other mem
        rcases List.mem_append.mp mem with old | new
        · exact known other (List.dropLast_subset _ old)
        · rw [List.mem_singleton.mp new]
          exact known last (List.mem_of_getLast? found)
      · exact known
    unfold tokensFrom
    simp only
    split
    · exact ih known
    · split
      · split
        · exact ih extend
        · exact ih (append _ (.inl rfl))
      · exact ih (append _ (.inr rfl))

theorem tokenShaped_published {originMs : Int} {token : TranscriptToken} {value : Value}
    (kind : token.kind = "word" ∨ token.kind = "punctuation")
    (h : publishedToken originMs token = .ok value) : TokenShaped value := by
  unfold publishedToken at h
  split at h <;> cases h
  refine ⟨⟨token.kind, ?_, kind⟩, ⟨token.text, ?_⟩, ?_⟩
  · rw [index_json]
    rfl
  · rw [index_json]
    rfl
  · intro confidence found
    rw [Value.get?_json] at found
    cases found

def messageTokens (timings : List Value) (payload : Value) : Option Value :=
  ((attachSpeechTiming timings payload).get? "metadata").bind fun metadata =>
    metadata.get? "tokens"

theorem mem_extend {members fields : List (String × Value)} {key : String} {value : Value}
    (found : Value.member? (Value.extend members fields) key = some value) :
    (key, value) ∈ fields ∨ Value.member? members key = some value := by
  induction fields generalizing members with
  | nil => exact .inr found
  | cons field fields ih =>
    rcases ih found with later | here
    · exact .inl (.tail _ later)
    · rw [Value.member?_insertMember] at here
      split at here
      · rename_i same
        cases here
        exact .inl (same ▸ .head _)
      · exact .inr here

/-- The payload of a speech timing, as `record_agent_speech_timing` writes it. -/
def TimingPayload (payload : Value) : Prop :=
  ∃ isAlphanumeric characters originMs messageId summary,
    agentSpeechTiming originMs messageId (alignmentTokens isAlphanumeric characters) summary =
      .ok payload

theorem TimingPayload.metadata {payload : Value} (timing : TimingPayload payload) :
    ∃ members tokens, payload.get? "metadata" = some (.object members) ∧ TokensShaped tokens ∧
      ∀ value, ("tokens", value) ∈ members → value = tokens := by
  obtain ⟨isAlphanumeric, characters, originMs, messageId, summary, h⟩ := timing
  unfold agentSpeechTiming at h
  simp only at h
  obtain ⟨-, h⟩ := Except.of_check_ok h
  obtain ⟨-, h⟩ := Except.of_check_ok h
  obtain ⟨endMs, -, h⟩ := Except.of_bind_ok h
  obtain ⟨tokens, mapped, h⟩ := Except.of_bind_ok h
  cases h
  refine ⟨_, .array tokens, by rw [Value.get?_json]; rfl, ⟨tokens, rfl, ?_⟩, ?_⟩
  · intro value mem
    obtain ⟨token, tokenMem, published⟩ := Except.mapM_preimage mapped mem
    exact tokenShaped_published
      (kind_of_tokensFrom isAlphanumeric characters (by simp) token tokenMem) published
  · intro value mem
    have listed := Value.mem_sortMembers mem
    simpa using listed

/-- The own tokens of a message, before its speech timing is attached. -/
theorem tokens_of_message {payload tokens : Value} {texts : SessionTexts} {call : MessageCall}
    {id : String} {role : PlayerRole} (is : payload = call.payload texts id role)
    (found : ((payload.get? "metadata").bind fun metadata => metadata.get? "tokens") =
      some tokens) : call.metadata.get? "tokens" = some tokens := by
  rw [is] at found
  exact found

theorem tokensShaped_transcript {call : TranscriptCall} {streamStart start stop : Int}
    {tokens : List Value} (recognized : ∀ token ∈ call.utterance.tokens, token.Recognized)
    (clocked : call.onGameClock streamStart = .ok (start, stop, tokens)) :
    TokensShaped (.array tokens) := by
  refine ⟨tokens, rfl, ?_⟩
  unfold TranscriptCall.onGameClock at clocked
  split at clocked
  · cases clocked
  · cases clocked
  · cases mapped : call.utterance.tokens.mapM (TranscriptToken.json streamStart) with
    | error error =>
      rw [mapped] at clocked
      cases clocked
    | ok values =>
      rw [mapped] at clocked
      cases clocked
      intro value mem
      obtain ⟨token, tokenMem, json⟩ := Except.mapM_preimage mapped mem
      exact tokenShaped_json (recognized token tokenMem) json

theorem tokensShaped_of_record (written : RuntimeRecord members record)
    (message : record.eventType = "conversation_message") {tokens : Value}
    (found : ((record.payload.get? "metadata").bind fun metadata => metadata.get? "tokens") =
      some tokens) : TokensShaped tokens := by
  cases written with
  | action kind | speechTiming kind | log kind =>
    exact absurd (message.symm.trans kind) (by decide)
  | other kind =>
    rw [message] at kind
    cases kind
  | message kind actor texts call id role plain payload =>
    have own := tokens_of_message payload found
    rw [plain] at own
    cases own
  | transcript kind actor texts call id role recognized segment streamStart start stop items
      clocked payload =>
    have own := tokens_of_message payload found
    cases own
    exact tokensShaped_transcript recognized clocked

theorem attachSpeechTiming_cases (timings : List Value) (payload : Value) :
    attachSpeechTiming timings payload = payload ∨
      ∃ timing ∈ timings, ∃ members fields, timing.get? "metadata" = some (.object fields) ∧
        payload = .object members ∧ attachSpeechTiming timings payload =
          .object (Value.insertMember "metadata" (.object (Value.extend
            (((payload.index "metadata").asObject?).getD []) fields)) members) := by
  unfold attachSpeechTiming
  split
  · rename_i fields found
    obtain ⟨id, -, found⟩ := Option.bind_eq_some_iff.mp found
    obtain ⟨timing, last, metadata⟩ := Option.bind_eq_some_iff.mp found
    have mem := List.mem_of_mem_filter (List.mem_of_getLast? last)
    cases payload with
    | object members => exact .inr ⟨timing, mem, members, fields, metadata, rfl, rfl⟩
    | _ => exact .inl rfl
  · exact .inl rfl

/-- A message has no tokens or tokens in order, also where they come with its speech timing. -/
theorem tokensShaped_messageTokens (written : RuntimeRecord members record)
    (message : record.eventType = "conversation_message") {timings : List Value}
    (published : ∀ timing ∈ timings, TimingPayload timing) {tokens : Value}
    (found : messageTokens timings record.payload = some tokens) : TokensShaped tokens := by
  unfold messageTokens at found
  rcases attachSpeechTiming_cases timings record.payload with same |
    ⟨timing, mem, objects, fields, metadata, is, attached⟩
  · rw [same] at found
    exact tokensShaped_of_record written message found
  · rw [attached, Value.get?_object, Value.member?_insertMember, if_pos rfl, Option.bind_some,
      Value.get?_object] at found
    rcases mem_extend found with new | own
    · obtain ⟨fields', items, metadata', shaped, only⟩ := (published timing mem).metadata
      cases metadata.symm.trans metadata'
      rw [only tokens new]
      exact shaped
    · refine tokensShaped_of_record written message ?_
      rw [Value.index] at own
      cases inner : record.payload.get? "metadata" with
      | none =>
        rw [inner] at own
        cases own
      | some value =>
        rw [inner, Option.getD_some] at own
        cases value with
        | object fields' => exact own
        | _ => cases own

section

variable (times : TimeTexts)

theorem stringMember_read (key : String) (v : Value) :
    stringMember key (times.read v) = stringMember key v := by
  rw [stringMember, stringMember, TimeTexts.read, Value.get?_readBack]
  cases v.get? key with
  | none => rfl
  | some child => exact Value.asStr?_readBack times.readDouble child

theorem speechTiming_read (payloads : List Value) (messageId : String) :
    speechTiming (payloads.map times.read) messageId =
      (speechTiming payloads messageId).map times.read := by
  have published : (fun payload => stringMember "message_id" payload == some messageId &&
      (payload.get? "metadata").isSome) ∘ times.read =
        fun payload => stringMember "message_id" payload == some messageId &&
          (payload.get? "metadata").isSome := by
    funext payload
    rw [Function.comp_apply, stringMember_read, TimeTexts.read, Value.get?_readBack,
      Option.isSome_map]
  rw [speechTiming, List.filter_map, published, List.getLast?_map, speechTiming]
  cases (payloads.filter _).getLast? with
  | none => rfl
  | some payload => exact Value.get?_readBack times.readDouble payload "metadata"

theorem extend_readBack (f : Rat → Rat) (members fields : List (String × Value)) :
    Value.extend (Value.readBackMembers f members) (Value.readBackMembers f fields) =
      Value.readBackMembers f (Value.extend members fields) := by
  induction fields generalizing members with
  | nil => rfl
  | cons field fields ih =>
    obtain ⟨key, value⟩ := field
    have insert := Value.insertMember_map (f := fun _ => Value.readBack f) key value members
    rw [← Value.readBackMembers_eq_map, ← Value.readBackMembers_eq_map] at insert
    change Value.extend (Value.insertMember key (value.readBack f) (Value.readBackMembers f members))
      (Value.readBackMembers f fields) = _
    rw [insert, ih]
    rfl

/-- A payload and its speech timings, read back, are joined to what their join is read back as. -/
theorem attachSpeechTiming_read (timings : List Value) (payload : Value) :
    attachSpeechTiming (timings.map times.read) (times.read payload) =
      times.read (attachSpeechTiming timings payload) := by
  have found : (stringMember "id" (times.read payload)).bind (speechTiming (timings.map times.read)) =
      ((stringMember "id" payload).bind (speechTiming timings)).map times.read := by
    rw [stringMember_read]
    cases stringMember "id" payload with
    | none => rfl
    | some id => exact speechTiming_read times timings id
  rw [attachSpeechTiming, attachSpeechTiming, found]
  cases (stringMember "id" payload).bind (speechTiming timings) with
  | none => rfl
  | some timing =>
    cases timing with
    | object fields =>
      cases payload with
      | object members =>
        have own : (((times.read (.object members)).index "metadata").asObject?).getD [] =
            Value.readBackMembers times.readDouble
              ((((Value.object members).index "metadata").asObject?).getD []) := by
          rw [TimeTexts.read, Value.index_readBack, Value.asObject?_readBack]
          cases ((Value.object members).index "metadata").asObject? <;> rfl
        have insert := Value.insertMember_map (f := fun _ => Value.readBack times.readDouble)
          "metadata" (.object (Value.extend
            ((((Value.object members).index "metadata").asObject?).getD []) fields)) members
        rw [← Value.readBackMembers_eq_map, ← Value.readBackMembers_eq_map, Value.readBack,
          ← extend_readBack, ← own] at insert
        exact congrArg Value.object insert
      | _ => rfl
    | _ => rfl

theorem messageTokens_read (timings : List Value) (payload : Value) :
    messageTokens (timings.map times.read) (times.read payload) =
      (messageTokens timings payload).map times.read := by
  rw [messageTokens, attachSpeechTiming_read, messageTokens, TimeTexts.read, Value.get?_readBack]
  cases (attachSpeechTiming timings payload).get? "metadata" with
  | none => rfl
  | some metadata => exact Value.get?_readBack times.readDouble metadata "tokens"

theorem TokenShaped.read {token : Value} (shaped : TokenShaped token) :
    TokenShaped (times.read token) where
  kind := by
    rw [TimeTexts.read, Value.index_readBack, Value.asStr?_readBack]
    exact shaped.kind
  text := by
    rw [TimeTexts.read, Value.index_readBack, Value.asStr?_readBack]
    exact shaped.text
  confidence := by
    intro confidence found
    rw [TimeTexts.read, Value.get?_readBack] at found
    obtain ⟨own, given, rfl⟩ := Option.map_eq_some_iff.mp found
    obtain ⟨value, number, low, high⟩ := shaped.confidence own given
    cases own with
    | float x =>
      cases number
      exact ⟨_, rfl, times.readDouble_unit value low high⟩
    | int n => exact ⟨value, number, low, high⟩
    | null | bool _ | string _ | array _ | object _ => cases number

theorem TokensShaped.read {tokens : Value} (shaped : TokensShaped tokens) :
    TokensShaped (times.read tokens) := by
  obtain ⟨items, rfl, shaped⟩ := shaped
  refine ⟨items.map times.read, congrArg Value.array (Value.readBackItems_eq_map _ items), ?_⟩
  intro token mem
  obtain ⟨own, ownMem, rfl⟩ := List.mem_map.mp mem
  exact (shaped own ownMem).read times

theorem tokenInGame_read (token : Value) : TokenInGame (times.read token) ↔ TokenInGame token := by
  rw [TokenInGame, TimeTexts.read, Value.index_readBack, Value.asI64?_readBack,
    Value.index_readBack, Value.asI64?_readBack]
  rfl

theorem tokensInGame_read (tokens : Value) :
    TokensInGame (times.read tokens) ↔ TokensInGame tokens := by
  rw [TokensInGame, TimeTexts.read, Value.asArray?_readBack, TokensInGame]
  cases tokens.asArray? with
  | none => rfl
  | some items =>
    rw [Option.map_some, Option.getD_some, Option.getD_some, List.forall_mem_map]
    exact forall_congr' fun token => imp_congr_right fun _ => tokenInGame_read times token

end

end Parlando
