import Mathlib.Data.List.Basic

namespace Parlando

namespace Text

def startsWith (start text : String) : Bool := start.toList.isPrefixOf text.toList

def endsWith (ending text : String) : Bool := ending.toList.isSuffixOf text.toList

def stripPrefix (start text : String) : Option String :=
  if startsWith start text then some (.ofList (text.toList.drop start.toList.length)) else none

/-- Drops leading occurrences as long as there are any, `fuel` times at most. -/
def trimStart (start : List Char) : Nat → List Char → List Char
  | 0, text => text
  | fuel + 1, text =>
    if start.isPrefixOf text then trimStart start fuel (text.drop start.length) else text

def trimStartMatches (start text : String) : String :=
  .ofList (trimStart start.toList text.toList.length text.toList)

def trimEndMatches (ending text : String) : String :=
  .ofList (trimStart ending.toList.reverse text.toList.length text.toList.reverse).reverse

/-- The text without the characters of a set at its end. -/
def trimEndOf (ending : List Char) (text : String) : String :=
  .ofList (text.toList.reverse.dropWhile ending.contains).reverse

def contains (pattern text : String) : Bool :=
  text.toList.tails.any fun tail => pattern.toList.isPrefixOf tail

def lower (text : String) : String := .ofList (text.toList.map Char.toLower)

variable {start text rest : String}

theorem startsWith_append (start rest : String) : startsWith start (start ++ rest) = true := by
  simp [startsWith]

theorem stripPrefix_append (start rest : String) :
    stripPrefix start (start ++ rest) = some rest := by
  rw [stripPrefix, if_pos (startsWith_append start rest)]
  simp

theorem stripPrefix_eq_some : stripPrefix start text = some rest ↔ text = start ++ rest := by
  constructor
  · intro stripped
    unfold stripPrefix at stripped
    split at stripped
    · rename_i starts
      obtain ⟨tail, split⟩ := List.isPrefixOf_iff_prefix.mp starts
      cases stripped
      apply String.toList_injective
      simp [← split]
    · cases stripped
  · rintro rfl
    exact stripPrefix_append start rest

theorem exists_of_startsWith (starts : startsWith start text = true) :
    ∃ rest, text = start ++ rest :=
  ⟨_, stripPrefix_eq_some.mp (if_pos starts)⟩

/-- What holds of the characters of the pattern and of the trimmed text holds of all characters. -/
theorem forall_of_trimStart {p : Char → Prop} {start : List Char} (inStart : ∀ c ∈ start, p c)
    (fuel : Nat) (text : List Char) (inRest : ∀ c ∈ trimStart start fuel text, p c) :
    ∀ c ∈ text, p c := by
  induction fuel generalizing text with
  | zero => exact inRest
  | succ fuel ih =>
    rw [trimStart] at inRest
    split at inRest
    · rename_i starts
      obtain ⟨tail, rfl⟩ := List.isPrefixOf_iff_prefix.mp starts
      rw [List.drop_left] at inRest
      intro c mem
      rcases List.mem_append.mp mem with first | later
      · exact inStart c first
      · exact ih tail inRest c later
    · exact inRest

theorem forall_of_trimStartMatches {p : Char → Prop} (inStart : ∀ c ∈ start.toList, p c)
    (inRest : ∀ c ∈ (trimStartMatches start text).toList, p c) : ∀ c ∈ text.toList, p c := by
  rw [trimStartMatches, String.toList_ofList] at inRest
  exact forall_of_trimStart inStart _ _ inRest

end Text

end Parlando
