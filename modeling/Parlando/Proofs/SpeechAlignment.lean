import Parlando.SpeechAlignment
import Mathlib.Data.List.Basic
import Mathlib.Data.List.Induction
import Mathlib.Algebra.Order.Ring.Rat
import Mathlib.Tactic.Linarith

namespace Parlando

variable {isAlphanumeric : Char → Bool} {output characters : List TimedCharacter}

def InSpeechOrder (characters : List TimedCharacter) : Prop :=
  characters.Pairwise fun a b => a.startMs ≤ b.startMs

structure Timed (characters : List TimedCharacter) : Prop where
  ordered : InSpeechOrder characters
  forward : ∀ item ∈ characters, item.startMs ≤ item.endMs

def entryCharacters (entry : (String × Rat) × Rat) : List TimedCharacter :=
  entry.1.1.toList.map fun character =>
    { character, startMs := roundMs entry.1.2, endMs := roundMs (entry.1.2 + entry.2) }

theorem roundMs_mono {x y : Rat} (le : x ≤ y) : roundMs x ≤ roundMs y := by
  unfold roundMs
  have := Rat.floor_monotone (by linarith : x + 1 / 2 ≤ y + 1 / 2)
  omega

/-- An entry that is accepted has a proper interval, not before the last character. -/
theorem of_appendEntry {entry : (String × Rat) × Rat}
    (h : appendEntry output entry = .ok characters) :
    characters = output ++ entryCharacters entry ∧ 0 ≤ entry.2 ∧
      ∀ previous, output.getLast? = some previous → previous.startMs ≤ roundMs entry.1.2 := by
  obtain ⟨⟨text, start⟩, duration⟩ := entry
  rw [appendEntry] at h
  by_cases invalid : start < 0 ∨ duration < 0 ∨ 2 ^ 63 ≤ start + duration
  · rw [if_pos invalid] at h
    cases h
  · rw [if_neg invalid] at h
    split at h
    · cases h
    · rename_i forward
      refine ⟨(Except.ok.inj h).symm, by simp only; grind, fun previous last => ?_⟩
      rw [last] at forward
      simpa using forward

theorem timed_append {entry : (String × Rat) × Rat} (timed : Timed output)
    (long : 0 ≤ entry.2)
    (forward : ∀ previous, output.getLast? = some previous →
      previous.startMs ≤ roundMs entry.1.2) : Timed (output ++ entryCharacters entry) := by
  have here : ∀ item ∈ entryCharacters entry, item.startMs = roundMs entry.1.2 ∧
      item.endMs = roundMs (entry.1.2 + entry.2) := by
    intro item mem
    obtain ⟨character, -, rfl⟩ := List.mem_map.mp mem
    exact ⟨rfl, rfl⟩
  constructor
  · refine List.pairwise_append.mpr ⟨timed.ordered, ?_, fun a mem b mem' => ?_⟩
    · refine List.pairwise_map.mpr (List.pairwise_of_forall fun _ _ => Int.le_refl _)
    · rw [(here b mem').1]
      cases output using List.reverseRecOn with
      | nil => cases mem
      | append_singleton front last =>
        have after := forward last List.getLast?_concat
        obtain before | is := List.mem_append.mp mem
        · exact ((List.pairwise_append.mp timed.ordered).2.2 a before last
            (List.mem_singleton_self _)).trans after
        · rw [List.mem_singleton.mp is]
          exact after
  · intro item mem
    obtain before | is := List.mem_append.mp mem
    · exact timed.forward item before
    · rw [(here item is).1, (here item is).2]
      exact roundMs_mono (by linarith)

theorem of_appendEntries {entries : List ((String × Rat) × Rat)} (timed : Timed output)
    (h : entries.foldlM appendEntry output = .ok characters) :
    characters = output ++ entries.flatMap entryCharacters ∧ Timed characters := by
  induction entries generalizing output with
  | nil =>
    cases h
    exact ⟨(List.append_nil _).symm, timed⟩
  | cons entry entries ih =>
    obtain ⟨next, appended, h⟩ := Except.of_bind_ok h
    obtain ⟨rfl, long, forward⟩ := of_appendEntry appended
    obtain ⟨rfl, timed⟩ := ih (timed_append timed long forward) h
    exact ⟨by rw [List.flatMap_cons, List.append_assoc], timed⟩

/-- A payload that is accepted decodes, and its arrays are equally long. -/
theorem of_appendAlignment {value : Value} (timed : Timed output)
    (h : appendAlignment output value = .ok characters) :
    ∃ alignment, CharacterAlignment.decode value = .ok alignment ∧
      alignment.chars.length = alignment.charStartTimesMs.length ∧
      alignment.chars.length = alignment.charDurationsMs.length ∧
      characters = output ++ alignment.entries.flatMap entryCharacters ∧ Timed characters := by
  obtain ⟨alignment, decoded, h⟩ := Except.of_bind_ok h
  split at h
  · cases h
  · rename_i equal
    obtain ⟨same, timed⟩ := of_appendEntries timed h
    exact ⟨alignment, decoded, by grind, by grind, same, timed⟩

def decodedAlignments (payloads : List Value) : List CharacterAlignment :=
  payloads.filterMap fun value => (CharacterAlignment.decode value).toOption

/-- The three arrays of all payloads, each concatenated. -/
def concatenated (payloads : List Value) : CharacterAlignment where
  chars := (decodedAlignments payloads).flatMap (·.chars)
  charStartTimesMs := (decodedAlignments payloads).flatMap (·.charStartTimesMs)
  charDurationsMs := (decodedAlignments payloads).flatMap (·.charDurationsMs)

theorem decodedAlignments_cons {value : Value} {alignment : CharacterAlignment}
    (decoded : CharacterAlignment.decode value = .ok alignment) (payloads : List Value) :
    decodedAlignments (value :: payloads) = alignment :: decodedAlignments payloads := by
  rw [decodedAlignments, List.filterMap_cons, decoded]
  rfl

/-- How the arrays are split into payloads makes no difference. -/
theorem of_appendAlignments {payloads : List Value} (timed : Timed output)
    (h : payloads.foldlM appendAlignment output = .ok characters) :
    characters = output ++ (concatenated payloads).entries.flatMap entryCharacters ∧
      Timed characters := by
  induction payloads generalizing output with
  | nil =>
    cases h
    exact ⟨(List.append_nil _).symm, timed⟩
  | cons value payloads ih =>
    obtain ⟨next, appended, h⟩ := Except.of_bind_ok h
    obtain ⟨alignment, decoded, starts, durations, rfl, timed⟩ := of_appendAlignment timed appended
    obtain ⟨rfl, timed⟩ := ih timed h
    refine ⟨?_, timed⟩
    have joined : (concatenated (value :: payloads)).entries =
        alignment.entries ++ (concatenated payloads).entries := by
      unfold concatenated CharacterAlignment.entries
      rw [decodedAlignments_cons decoded]
      simp only [List.flatMap_cons]
      rw [List.zip_append starts, List.zip_append (by simp [← starts, durations])]
    rw [joined, List.flatMap_append, List.append_assoc]

section

variable (isAlphanumeric)

def goesOn (next : Option TimedCharacter) (item : TimedCharacter) : Prop :=
  isAlphanumeric item.character = true ∨
    isConnector item.character = true ∧ ∃ after, next = some after ∧
      isAlphanumeric after.character = true

inductive WordGoesOn (rest : List TimedCharacter) : List TimedCharacter → Prop where
  | ends (maximal : ∀ item ∈ rest.head?, isBlankChar item.character = true ∨
      ¬goesOn isAlphanumeric rest.tail.head? item) : WordGoesOn rest []
  | goesOn {item : TimedCharacter} {more : List TimedCharacter}
      (visible : isBlankChar item.character = false)
      (inner : goesOn isAlphanumeric (more ++ rest).head? item) (further : WordGoesOn rest more) :
      WordGoesOn rest (item :: more)

end

structure IsWord (run : List TimedCharacter) (token : TranscriptToken) : Prop where
  kind : token.kind = "word"
  text : token.text.toList = run.map (·.character)
  starts : run.head?.map (·.startMs) = some token.startTimeMs
  ends : ∃ item ∈ run, token.endTimeMs = item.endMs
  covers : ∀ item ∈ run, token.startTimeMs ≤ item.startMs ∧ item.endMs ≤ token.endTimeMs

structure IsPunctuation (item : TimedCharacter) (token : TranscriptToken) : Prop where
  kind : token.kind = "punctuation"
  text : token.text.toList = [item.character]
  starts : token.startTimeMs = item.startMs
  ends : token.endTimeMs = item.startMs

/-- Tokens of characters: every maximal run of a word, and every other character but blanks. -/
inductive Segments (isAlphanumeric : Char → Bool) :
    List TimedCharacter → List TranscriptToken → Prop where
  | nil : Segments isAlphanumeric [] []
  | blank {item : TimedCharacter} {rest : List TimedCharacter} {tokens : List TranscriptToken}
      (blank : isBlankChar item.character = true) (after : Segments isAlphanumeric rest tokens) :
      Segments isAlphanumeric (item :: rest) tokens
  | word {first : TimedCharacter} {more rest : List TimedCharacter} {token : TranscriptToken}
      {tokens : List TranscriptToken} (visible : isBlankChar first.character = false)
      (alphanumeric : isAlphanumeric first.character = true)
      (run : WordGoesOn isAlphanumeric rest more) (word : IsWord (first :: more) token)
      (after : Segments isAlphanumeric rest tokens) :
      Segments isAlphanumeric (first :: (more ++ rest)) (token :: tokens)
  | punctuation {item : TimedCharacter} {rest : List TimedCharacter} {token : TranscriptToken}
      {tokens : List TranscriptToken} (visible : isBlankChar item.character = false)
      (other : isAlphanumeric item.character = false) (mark : IsPunctuation item token)
      (after : Segments isAlphanumeric rest tokens) :
      Segments isAlphanumeric (item :: rest) (token :: tokens)

theorem isPunctuation_mark (item : TimedCharacter) : IsPunctuation item
    ⟨"punctuation", .ofList [item.character], item.startMs, item.startMs, none⟩ where
  kind := rfl
  text := String.toList_ofList
  starts := rfl
  ends := rfl

theorem isWord_singleton (first : TimedCharacter) :
    IsWord [first] ⟨"word", .ofList [first.character], first.startMs, first.endMs, none⟩ where
  kind := rfl
  text := String.toList_ofList
  starts := rfl
  ends := ⟨first, .head _, rfl⟩
  covers := by simp

/-- A word stays one when it is lengthened by the next character. -/
theorem IsWord.extend {run : List TimedCharacter} {token : TranscriptToken} {item : TimedCharacter}
    (word : IsWord run token) (later : ∀ before ∈ run, before.startMs ≤ item.startMs) :
    IsWord (run ++ [item]) { token with
      text := token.text.push item.character
      endTimeMs := max token.endTimeMs item.endMs } where
  kind := word.kind
  text := by simp [word.text]
  starts := by
    have starts := word.starts
    cases run with
    | nil => cases starts
    | cons => exact starts
  ends := by
    obtain ⟨last, mem, same⟩ := word.ends
    obtain longer | shorter := Int.le_total token.endTimeMs item.endMs
    · exact ⟨item, List.mem_append_right _ (.head _), Int.max_eq_right longer⟩
    · exact ⟨last, List.mem_append_left _ mem, (Int.max_eq_left shorter).trans same⟩
  covers := by
    intro other mem
    obtain before | is := List.mem_append.mp mem
    · have := word.covers other before
      simp only
      omega
    · obtain rfl := List.mem_singleton.mp is
      obtain ⟨first, mem, same⟩ : ∃ first ∈ run, first.startMs = token.startTimeMs := by
        have starts := word.starts
        cases run with
        | nil => cases starts
        | cons first more => exact ⟨first, .head _, Option.some.inj starts⟩
      have := later first mem
      simp only
      omega

theorem extendWord_append (tokens : List TranscriptToken) (token : TranscriptToken)
    (item : TimedCharacter) : extendWord (tokens ++ [token]) item = tokens ++ [{ token with
      text := token.text.push item.character
      endTimeMs := max token.endTimeMs item.endMs }] := by
  unfold extendWord
  rw [List.getLast?_concat]
  simp only [List.dropLast_concat]

/-- The test of the loop inside a word. -/
theorem goesOn_iff {next : Option TimedCharacter} {item : TimedCharacter} :
    (isAlphanumeric item.character || isConnector item.character && true &&
      next.any fun after => isAlphanumeric after.character) = true ↔
      goesOn isAlphanumeric next item := by
  unfold goesOn
  cases next with
  | none => simp
  | some after => simp

/-- What the loop appends, out of a word and within one. -/
theorem tokensFrom_segments (items : List TimedCharacter) (ordered : InSpeechOrder items) :
    (∀ tokens, ∃ more, tokensFrom isAlphanumeric tokens false items = tokens ++ more ∧
      Segments isAlphanumeric items more) ∧
    (∀ tokens run token, IsWord run token →
      (∀ before ∈ run, ∀ item ∈ items, before.startMs ≤ item.startMs) →
      ∃ inner rest word more, items = inner ++ rest ∧ WordGoesOn isAlphanumeric rest inner ∧
        IsWord (run ++ inner) word ∧ Segments isAlphanumeric rest more ∧
        tokensFrom isAlphanumeric (tokens ++ [token]) true items = tokens ++ word :: more) := by
  induction items with
  | nil =>
    refine ⟨fun tokens => ⟨[], (List.append_nil _).symm, .nil⟩, fun tokens run token word later => ?_⟩
    exact ⟨[], [], token, [], rfl, .ends (by simp), by rwa [List.append_nil], .nil, rfl⟩
  | cons item items ih =>
    obtain ⟨first, ordered⟩ := List.pairwise_cons.mp ordered
    obtain ⟨outside, inside⟩ := ih ordered
    have punctuation (tokens : List TranscriptToken) (visible : isBlankChar item.character = false)
        (other : isAlphanumeric item.character = false) :
        ∃ more, tokensFrom isAlphanumeric (tokens ++ [⟨"punctuation", .ofList [item.character],
          item.startMs, item.startMs, none⟩]) false items = tokens ++ more ∧
          Segments isAlphanumeric (item :: items) more := by
      obtain ⟨more, same, after⟩ := outside (tokens ++ [⟨"punctuation", .ofList [item.character],
        item.startMs, item.startMs, none⟩])
      refine ⟨_ :: more, ?_, .punctuation visible other (isPunctuation_mark item) after⟩
      rw [same, List.append_assoc, List.singleton_append]
    constructor
    · intro tokens
      rw [tokensFrom]
      cases visible : isBlankChar item.character with
      | true =>
        obtain ⟨more, same, after⟩ := outside tokens
        exact ⟨more, by simpa using same, .blank visible after⟩
      | false =>
        cases alphanumeric : isAlphanumeric item.character with
        | true =>
          obtain ⟨inner, rest, word, more, rfl, run, is, after, same⟩ :=
            inside tokens [item] _ (isWord_singleton item) (by simpa using first)
          exact ⟨word :: more, by simpa using same, .word visible alphanumeric run is after⟩
        | false => simpa using punctuation tokens visible alphanumeric
    · intro tokens run token word later
      rw [tokensFrom]
      cases visible : isBlankChar item.character with
      | true =>
        obtain ⟨more, same, after⟩ := outside (tokens ++ [token])
        refine ⟨[], item :: items, token, more, rfl, .ends ?_, by rwa [List.append_nil],
          .blank visible after, ?_⟩
        · simp [visible]
        · simpa using same
      | false =>
        by_cases goes : goesOn isAlphanumeric items.head? item
        · obtain ⟨inner, rest, longer, more, rfl, further, is, after, same⟩ :=
            inside tokens (run ++ [item]) _ (word.extend fun before mem =>
              later before mem item (.head _)) fun before mem other mem' => by
                obtain mem | is := List.mem_append.mp mem
                · exact later before mem other (.tail _ mem')
                · obtain rfl := List.mem_singleton.mp is
                  exact first other mem'
          refine ⟨item :: inner, rest, longer, more, rfl, .goesOn visible goes further,
            by simpa using is, after, ?_⟩
          simp only [goesOn_iff.mpr goes, Bool.false_eq_true, ↓reduceIte, extendWord_append]
          exact same
        · have other : isAlphanumeric item.character = false :=
            Bool.eq_false_iff.mpr fun alphanumeric => goes (.inl alphanumeric)
          obtain ⟨more, same, after⟩ := punctuation (tokens ++ [token]) visible other
          refine ⟨[], item :: items, token, more, rfl, .ends ?_, by rwa [List.append_nil], after, ?_⟩
          · simp [goes]
          · have stops := Bool.eq_false_iff.mpr fun yes => goes (goesOn_iff.mp yes)
            simp only [stops, Bool.false_eq_true, ↓reduceIte]
            rw [same, List.append_assoc]
            rfl

variable {tokens : List TranscriptToken}

theorem WordGoesOn.visible {rest more : List TimedCharacter}
    (run : WordGoesOn isAlphanumeric rest more) :
    ∀ item ∈ more, isBlankChar item.character = false := by
  induction run with
  | ends => exact fun _ mem => absurd mem List.not_mem_nil
  | goesOn visible _ _ ih =>
    intro item mem
    cases mem with
    | head => exact visible
    | tail _ mem => exact ih item mem

theorem Segments.texts (segments : Segments isAlphanumeric characters tokens) :
    tokens.flatMap (·.text.toList) =
      (characters.filter fun item => !isBlankChar item.character).map (·.character) := by
  induction segments with
  | nil => rfl
  | blank blank _ ih => simp [ih, blank]
  | @word _ more _ _ _ visible _ run word _ ih =>
    have whole : more.filter (fun item => !isBlankChar item.character) = more :=
      List.filter_eq_self.mpr fun item mem => by simp [run.visible item mem]
    rw [List.flatMap_cons, word.text, ih, List.filter_cons_of_pos (by simp [visible]),
      List.filter_append, whole]
    simp
  | punctuation visible _ mark _ ih => simp [ih, visible, mark.text]

theorem Segments.starts (segments : Segments isAlphanumeric characters tokens) :
    (tokens.map (·.startTimeMs)).Sublist (characters.map (·.startMs)) := by
  induction segments with
  | nil => exact .slnil
  | blank _ _ ih => exact ih.cons _
  | word _ _ _ word _ ih =>
    have starts := Option.some.inj word.starts
    rw [List.map_cons, List.map_cons, ← starts, List.map_append]
    exact (ih.trans (List.sublist_append_right _ _)).cons_cons _
  | punctuation _ _ mark _ ih =>
    rw [List.map_cons, List.map_cons, mark.starts]
    exact ih.cons_cons _

theorem Segments.forward (segments : Segments isAlphanumeric characters tokens)
    (forward : ∀ item ∈ characters, item.startMs ≤ item.endMs) :
    ∀ token ∈ tokens, token.startTimeMs ≤ token.endTimeMs := by
  induction segments with
  | nil => exact fun _ mem => absurd mem List.not_mem_nil
  | blank _ _ ih => exact ih fun item mem => forward item (.tail _ mem)
  | word _ _ _ word _ ih =>
    intro token mem
    cases mem with
    | head =>
      have here := word.covers _ (.head _)
      have := forward _ (.head _)
      omega
    | tail _ mem =>
      exact ih (fun item mem => forward item (.tail _ (List.mem_append_right _ mem))) token mem
  | punctuation _ _ mark _ ih =>
    intro token mem
    cases mem with
    | head => rw [mark.starts, mark.ends]
    | tail _ mem => exact ih (fun item mem => forward item (.tail _ mem)) token mem

/--
The characters of accepted payloads depend on their concatenated arrays only; their tokens are
words and punctuation in order, and each stands where it was spoken.
-/
theorem speech_alignment (isAlphanumeric : Char → Bool) {payloads : List Value}
    (accepted : appendAlignments payloads = .ok characters) :
    (∀ payloads' characters', appendAlignments payloads' = .ok characters' →
      concatenated payloads' = concatenated payloads → characters' = characters) ∧
    Segments isAlphanumeric characters (alignmentTokens isAlphanumeric characters) ∧
    (alignmentTokens isAlphanumeric characters).flatMap (·.text.toList) =
      (characters.filter fun item => !isBlankChar item.character).map (·.character) ∧
    (∀ token ∈ alignmentTokens isAlphanumeric characters,
      token.startTimeMs ≤ token.endTimeMs) ∧
    (alignmentTokens isAlphanumeric characters).Pairwise
      (fun a b => a.startTimeMs ≤ b.startTimeMs) := by
  have empty : Timed [] := ⟨.nil, fun _ mem => absurd mem List.not_mem_nil⟩
  obtain ⟨same, timed⟩ := of_appendAlignments empty accepted
  obtain ⟨tokens, made, segments⟩ :=
    (@tokensFrom_segments isAlphanumeric characters timed.ordered).1 []
  have whole : alignmentTokens isAlphanumeric characters = tokens := made
  rw [whole]
  refine ⟨fun payloads' characters' accepted' equal => ?_, segments, segments.texts,
    segments.forward timed.forward, ?_⟩
  · rw [(of_appendAlignments empty accepted').1, same, equal]
  · have ordered : (characters.map (·.startMs)).Pairwise (· ≤ ·) :=
      List.pairwise_map.mpr timed.ordered
    exact List.pairwise_map.mp (ordered.sublist segments.starts)

/-- A word whose characters come in two payloads, one of them in camel case. -/
def splitWord : List Value := [
  .object [("chars", .array [.string "H", .string "i"]),
    ("charStartTimesMs", .array [.int 0, .int 100]),
    ("charDurationsMs", .array [.int 100, .float (1 / 2)])],
  .object [("chars", .array [.string "s", .string "."]),
    ("char_start_times_ms", .array [.int 200, .int 300]),
    ("char_durations_ms", .array [.int 100, .int 100])]]

theorem speech_alignment_split_word : ∃ characters,
    appendAlignments splitWord = .ok characters ∧
    (alignmentTokens Char.isAlphanum characters).flatMap (·.text.toList) =
      (characters.filter fun item => !isBlankChar item.character).map (·.character) := by
  obtain ⟨characters, accepted⟩ : ∃ characters, appendAlignments splitWord = .ok characters :=
    Except.exists_ok (by decide +kernel)
  exact ⟨characters, accepted, (speech_alignment Char.isAlphanum accepted).2.2.1⟩

example : ((appendAlignments splitWord).toOption.map (alignmentTokens Char.isAlphanum)).map
    (·.map fun token => (token.text, token.startTimeMs, token.endTimeMs)) =
    some [("His", 0, 300), (".", 300, 300)] := by decide +kernel

end Parlando
