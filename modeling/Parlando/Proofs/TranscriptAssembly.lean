import Parlando.TranscriptAssembly
import Mathlib.Data.List.Forall2
import Mathlib.Data.List.Basic

namespace Parlando

namespace Speechmatics

variable {toText : Value → String} {trigger : Rat} {pending group : List FinalTranscriptUtterance}
  {utterance : FinalTranscriptUtterance}

inductive Reading where
  | fragment (fragment : FinalTranscriptUtterance)
  | nothing
  | utteranceEnd
  | transcriptEnd
  /-- The loop is left. -/
  | broken

def read : ProviderMessage → Reading
  | .failed => .broken
  | .unreadable => .nothing
  | .payload value => match (value.index "message").asStr? with
    | some "AddTranscript" => match parseFragment value with
      | .ok (some fragment) => .fragment fragment
      | .ok none => .nothing
      | .error _ => .broken
    | some "EndOfUtterance" => .utteranceEnd
    | some "EndOfTranscript" => .transcriptEnd
    | some "Error" => .broken
    | _ => .nothing

/-- The fragments that arrive before the stream ends. -/
def accepted : List ProviderMessage → List FinalTranscriptUtterance
  | [] => []
  | message :: rest => match read message with
    | .fragment fragment => fragment :: accepted rest
    | .nothing | .utteranceEnd => accepted rest
    | .transcriptEnd | .broken => []

/-- The fragments that are waiting for a boundary where the stream ends without one. -/
def unflushed (trigger : Rat) (pending : List FinalTranscriptUtterance) :
    List ProviderMessage → List FinalTranscriptUtterance
  | [] => pending
  | message :: rest => match read message with
    | .fragment fragment =>
      if trigger ≤ 0 then unflushed trigger [] rest
      else unflushed trigger (pending ++ [fragment]) rest
    | .nothing => unflushed trigger pending rest
    | .utteranceEnd => unflushed trigger [] rest
    | .transcriptEnd => []
    | .broken => pending

/-- The utterances among events. -/
def utterances (events : List TranscriptionEvent) : List FinalTranscriptUtterance :=
  events.filterMap fun event => match event with
    | .finalUtterance utterance => some utterance
    | _ => none

structure Assembled (group : List FinalTranscriptUtterance)
    (utterance : FinalTranscriptUtterance) : Prop where
  some : group ≠ []
  starts : ∀ part ∈ group, utterance.startTimeMs ≤ part.startTimeMs
  ends : ∀ part ∈ group, part.endTimeMs ≤ utterance.endTimeMs
  first : ∃ part ∈ group, part.startTimeMs = utterance.startTimeMs
  last : ∃ part ∈ group, part.endTimeMs = utterance.endTimeMs
  text : utterance.text = trim (String.join (group.map (·.text)))
  resultIds : utterance.resultIds = group.flatMap (·.resultIds)
  tokens : utterance.tokens = group.flatMap (·.tokens)

/-- Every fragment is in exactly one utterance, and both stand in the order of arrival. -/
def Conserves (fragments : List FinalTranscriptUtterance)
    (utterances : List FinalTranscriptUtterance) : Prop :=
  ∃ groups, groups.flatten = fragments ∧ List.Forall₂ Assembled groups utterances

theorem foldl_min {α : Type} (f : α → Int) (rest : List α) (start : Int) :
    (rest.foldl (fun least part => min least (f part)) start ≤ start ∧
      ∀ part ∈ rest, rest.foldl (fun least part => min least (f part)) start ≤ f part) ∧
    (rest.foldl (fun least part => min least (f part)) start = start ∨
      ∃ part ∈ rest, f part = rest.foldl (fun least part => min least (f part)) start) := by
  induction rest generalizing start with
  | nil => simp
  | cons first rest ih =>
    obtain ⟨⟨below, all⟩, reached⟩ := ih (min start (f first))
    rw [List.foldl_cons]
    refine ⟨⟨by omega, List.forall_mem_cons.mpr ⟨by omega, all⟩⟩, ?_⟩
    obtain same | ⟨part, mem, same⟩ := reached
    · obtain left | right := Int.le_total start (f first)
      · exact .inl (same.trans (Int.min_eq_left left))
      · exact .inr ⟨first, .head _, (same.trans (Int.min_eq_right right)).symm⟩
    · exact .inr ⟨part, .tail _ mem, same⟩

theorem foldl_max {α : Type} (f : α → Int) (rest : List α) (start : Int) :
    (start ≤ rest.foldl (fun most part => max most (f part)) start ∧
      ∀ part ∈ rest, f part ≤ rest.foldl (fun most part => max most (f part)) start) ∧
    (rest.foldl (fun most part => max most (f part)) start = start ∨
      ∃ part ∈ rest, f part = rest.foldl (fun most part => max most (f part)) start) := by
  induction rest generalizing start with
  | nil => simp
  | cons first rest ih =>
    obtain ⟨⟨above, all⟩, reached⟩ := ih (max start (f first))
    rw [List.foldl_cons]
    refine ⟨⟨by omega, List.forall_mem_cons.mpr ⟨by omega, all⟩⟩, ?_⟩
    obtain same | ⟨part, mem, same⟩ := reached
    · obtain left | right := Int.le_total start (f first)
      · exact .inr ⟨first, .head _, (same.trans (Int.max_eq_right left)).symm⟩
      · exact .inl (same.trans (Int.max_eq_left right))
    · exact .inr ⟨part, .tail _ mem, same⟩

/-- Pending fragments that are taken together make an utterance. -/
theorem assembled_of_take (taken : takeUtterance group = some utterance) :
    Assembled group utterance := by
  cases group with
  | nil => cases taken
  | cons first rest =>
    obtain rfl := Option.some.inj taken
    obtain ⟨⟨below, least⟩, starts⟩ := foldl_min (·.startTimeMs) rest first.startTimeMs
    obtain ⟨⟨above, most⟩, ends⟩ := foldl_max (·.endTimeMs) rest first.endTimeMs
    refine ⟨List.cons_ne_nil _ _, List.forall_mem_cons.mpr ⟨below, least⟩,
      List.forall_mem_cons.mpr ⟨above, most⟩, ?_, ?_, rfl, rfl, rfl⟩
    · obtain same | ⟨part, mem, same⟩ := starts
      · exact ⟨first, .head _, same.symm⟩
      · exact ⟨part, .tail _ mem, same⟩
    · obtain same | ⟨part, mem, same⟩ := ends
      · exact ⟨first, .head _, same.symm⟩
      · exact ⟨part, .tail _ mem, same⟩

theorem utterances_append (events more : List TranscriptionEvent) :
    utterances (events ++ more) = utterances events ++ utterances more :=
  List.filterMap_append

/-- A flush conserves what is pending. -/
theorem conserves_flush (pending : List FinalTranscriptUtterance) :
    Conserves pending (utterances (flushUtterance pending)) := by
  unfold flushUtterance
  cases taken : takeUtterance pending with
  | none =>
    cases pending with
    | nil => exact ⟨[], rfl, .nil⟩
    | cons => cases taken
  | some utterance =>
    exact ⟨[pending], List.append_nil _, .cons (assembled_of_take taken) .nil⟩

theorem Conserves.append {fragments more parts moreParts : List FinalTranscriptUtterance}
    (first : Conserves fragments parts) (second : Conserves more moreParts) :
    Conserves (fragments ++ more) (parts ++ moreParts) := by
  obtain ⟨groups, rfl, assembled⟩ := first
  obtain ⟨groups', rfl, assembled'⟩ := second
  exact ⟨groups ++ groups', List.flatten_append, List.rel_append assembled assembled'⟩

/-- The loop, from what its messages mean. -/
theorem receive_cons (message : ProviderMessage) (rest : List ProviderMessage) :
    utterances (receive toText trigger pending (message :: rest)) = match read message with
      | .fragment fragment =>
        if trigger ≤ 0 then utterances (flushUtterance (pending ++ [fragment])) ++
          utterances (receive toText trigger [] rest)
        else utterances (receive toText trigger (pending ++ [fragment]) rest)
      | .nothing => utterances (receive toText trigger pending rest)
      | .utteranceEnd => utterances (flushUtterance pending) ++
          utterances (receive toText trigger [] rest)
      | .transcriptEnd => utterances (flushUtterance pending)
      | .broken => [] := by
  cases message with
  | failed => rfl
  | unreadable => rfl
  | payload value =>
    rw [receive, read]
    generalize (value.index "message").asStr? = kind
    generalize parseFragment value = parsed
    split
    · obtain error | fragment | fragment := parsed
      · rfl
      · rfl
      · simp only
        split
        · exact utterances_append _ _
        · rfl
    · exact utterances_append _ _
    · rfl
    · rfl
    · simp only

/-- Fragments are conserved but for those that wait where the stream ends without a boundary. -/
theorem receive_conserves (toText : Value → String) (trigger : Rat)
    (messages : List ProviderMessage) (pending : List FinalTranscriptUtterance) :
    ∃ kept, kept ++ unflushed trigger pending messages = pending ++ accepted messages ∧
      Conserves kept (utterances (receive toText trigger pending messages)) := by
  induction messages generalizing pending with
  | nil => exact ⟨[], by simp [unflushed, accepted], [], rfl, .nil⟩
  | cons message rest ih =>
    rw [receive_cons, unflushed, accepted]
    cases read message with
    | fragment fragment =>
      simp only
      split
      · obtain ⟨kept, same, conserved⟩ := ih []
        refine ⟨(pending ++ [fragment]) ++ kept, ?_, (conserves_flush _).append conserved⟩
        rw [List.append_assoc, same]
        simp
      · obtain ⟨kept, same, conserved⟩ := ih (pending ++ [fragment])
        exact ⟨kept, by simpa using same, conserved⟩
    | nothing => exact ih pending
    | utteranceEnd =>
      obtain ⟨kept, same, conserved⟩ := ih []
      refine ⟨pending ++ kept, ?_, (conserves_flush pending).append conserved⟩
      rw [List.append_assoc, same, List.nil_append]
    | transcriptEnd => exact ⟨pending, rfl, conserves_flush pending⟩
    | broken => exact ⟨[], by simp, [], rfl, .nil⟩

def visible (fragments : List FinalTranscriptUtterance) : List Char :=
  fragments.flatMap fun fragment => fragment.text.toList.filter fun c => !isBlankChar c

theorem filter_dropWhile_blank (text : List Char) :
    (text.dropWhile isBlankChar).filter (fun c => !isBlankChar c) =
      text.filter fun c => !isBlankChar c := by
  induction text with
  | nil => rfl
  | cons c text ih =>
    rw [List.dropWhile_cons]
    cases blank : isBlankChar c with
    | true => simp [ih, blank]
    | false => simp

theorem filter_trim (text : String) :
    (trim text).toList.filter (fun c => !isBlankChar c) =
      text.toList.filter fun c => !isBlankChar c := by
  rw [trim, String.toList_ofList, List.filter_reverse, filter_dropWhile_blank,
    ← List.filter_reverse,
    List.reverse_reverse, filter_dropWhile_blank]

theorem visible_of_conserves {fragments parts : List FinalTranscriptUtterance}
    (conserves : Conserves fragments parts) : visible parts = visible fragments := by
  obtain ⟨groups, rfl, assembled⟩ := conserves
  induction assembled with
  | nil => rfl
  | cons here _ ih =>
    unfold visible at ih ⊢
    rw [List.flatMap_cons, here.text, filter_trim, List.flatten_cons, List.flatMap_append, ih,
      String.toList_join, List.filter_flatMap, List.flatMap_map]

theorem visible_ne_nil {payload : Value} {fragment : FinalTranscriptUtterance}
    (parsed : parseFragment payload = .ok (some fragment)) :
    (fragment.text.toList.filter fun c => !isBlankChar c) ≠ [] := by
  unfold parseFragment at parsed
  obtain ⟨text, -, parsed⟩ := Except.of_bind_ok parsed
  split at parsed
  · cases parsed
  · rename_i some
    obtain ⟨start, -, parsed⟩ := Except.of_bind_ok parsed
    obtain ⟨stop, -, parsed⟩ := Except.of_bind_ok parsed
    obtain ⟨-, parsed⟩ := Except.of_check_ok parsed
    have same : fragment.text = text := by
      simp only at parsed
      split at parsed
      · obtain ⟨tokens, -, parsed⟩ := Except.of_bind_ok parsed
        cases parsed
        rfl
      · obtain ⟨tokens, -, parsed⟩ := Except.of_bind_ok parsed
        cases parsed
        rfl
    intro none
    rw [same] at none
    refine some (List.all_eq_true.mpr fun c mem => ?_)
    simpa using List.filter_eq_nil_iff.mp none c mem

theorem of_mem_accepted {messages : List ProviderMessage} {fragment : FinalTranscriptUtterance}
    (mem : fragment ∈ accepted messages) : ∃ payload, parseFragment payload = .ok (some fragment) := by
  induction messages with
  | nil => cases mem
  | cons message rest ih =>
    rw [accepted] at mem
    cases meaning : read message with
    | fragment first =>
      rw [meaning] at mem
      obtain rfl | later := List.mem_cons.mp mem
      · cases message with
        | failed => cases meaning
        | unreadable => cases meaning
        | payload value =>
          rw [read] at meaning
          split at meaning
          · split at meaning
            · rename_i parsed
              cases meaning
              exact ⟨value, parsed⟩
            · cases meaning
            · cases meaning
          all_goals cases meaning
      · exact ih later
    | nothing =>
      rw [meaning] at mem
      exact ih mem
    | utteranceEnd =>
      rw [meaning] at mem
      exact ih mem
    | transcriptEnd =>
      rw [meaning] at mem
      cases mem
    | broken =>
      rw [meaning] at mem
      cases mem

/--
No fragment is lost exactly when none is waiting where the stream ends without
`EndOfTranscript`.
-/
theorem transcript_assembly_iff (toText : Value → String) (trigger : Rat)
    (messages : List ProviderMessage) :
    Conserves (accepted messages) (utterances (receive toText trigger [] messages)) ↔
      unflushed trigger [] messages = [] := by
  obtain ⟨kept, same, conserved⟩ := receive_conserves toText trigger messages []
  rw [List.nil_append] at same
  constructor
  · intro whole
    have equal := (visible_of_conserves conserved).symm.trans (visible_of_conserves whole)
    rw [← same, visible, visible, List.flatMap_append] at equal
    have none := List.self_eq_append_right.mp equal
    refine List.eq_nil_iff_forall_not_mem.mpr fun fragment lost => ?_
    obtain ⟨payload, parsed⟩ := of_mem_accepted (same ▸ List.mem_append_right kept lost)
    exact visible_ne_nil parsed (List.flatMap_eq_nil_iff.mp none fragment lost)
  · intro none
    rw [none, List.append_nil] at same
    rwa [same] at conserved

def finalFragment (text : String) (startTime endTime : Rat) : ProviderMessage := .payload (.object [
  ("message", .string "AddTranscript"),
  ("metadata", .object [
    ("end_time", .float endTime),
    ("start_time", .float startTime),
    ("transcript", .string text)])])

/-- Two fragments, the second of them as long as a rounding, and the end of the transcript. -/
def wholeTranscript : List ProviderMessage :=
  [finalFragment "stop " 0 0,
    finalFragment "now" (5072854620270127 / 2 ^ 60) (5188146770730811 / 2 ^ 60),
    .payload (.object [("message", .string "EndOfTranscript")])]

theorem whole_transcript_assembled :
    Conserves (accepted wholeTranscript)
      (utterances (receive (fun _ => "") (1 / 2) [] wholeTranscript)) ∧
    (accepted wholeTranscript).map FinalTranscriptUtterance.endTimeMs = [0, 5] :=
  ⟨(transcript_assembly_iff _ _ wholeTranscript).mpr (List.isEmpty_iff.mp (by decide +kernel)),
    by decide +kernel⟩

def lastWords : List ProviderMessage := [.payload (.object [
  ("message", .string "AddTranscript"),
  ("metadata", .object [
    ("end_time", .int 2),
    ("start_time", .int 1),
    ("transcript", .string "stop")])])]

theorem closed_stream_loses_fragment :
    ¬∀ (toText : Value → String) (trigger : Rat) (messages : List ProviderMessage),
      Conserves (accepted messages) (utterances (receive toText trigger [] messages)) := by
  intro conserves
  obtain ⟨groups, all, assembled⟩ := conserves (fun _ => "") (1 / 2) lastWords
  have silent : (utterances (receive (fun _ => "") (1 / 2) [] lastWords)).length = 0 := by
    decide +kernel
  have spoken : (accepted lastWords).length = 1 := by decide +kernel
  rw [List.length_eq_zero_iff.mp silent] at assembled
  cases assembled
  rw [← all] at spoken
  cases spoken

end Speechmatics

end Parlando
