import Mathlib.Data.List.Basic

/-!
How a script is cut into tokens: maximal runs of word characters, and every other character
as a token of its own unless it is blank.
-/

namespace Tokens

variable (isWord isBlank : Char → Bool)

def endWord : List Char → List (List Char)
  | [] => []
  | word => [word.reverse]

def separator (c : Char) : List (List Char) := if isBlank c then [] else [[c]]

def tokensFrom : List Char → List Char → List (List Char)
  | [], word => endWord word
  | c :: rest, word =>
      if isWord c then tokensFrom rest (c :: word)
      else endWord word ++ separator isBlank c ++ tokensFrom rest []

def tokens (text : List Char) : List (List Char) := tokensFrom isWord isBlank text []

variable {isWord isBlank}

@[simp] theorem tokens_nil : tokens isWord isBlank [] = [] := rfl

theorem tokensFrom_word {word : List Char} (letters : ∀ c ∈ word, isWord c = true)
    (rest before : List Char) :
    tokensFrom isWord isBlank (word ++ rest) before =
      tokensFrom isWord isBlank rest (word.reverse ++ before) := by
  induction word generalizing before with
  | nil => rfl
  | cons c word ih =>
      rw [List.cons_append, tokensFrom, if_pos (letters c (by simp)),
        ih (fun other member => letters other (by simp [member]))]
      simp

theorem tokens_word {word : List Char} (letters : ∀ c ∈ word, isWord c = true)
    (some : word ≠ []) : tokens isWord isBlank word = [word] := by
  have read := @tokensFrom_word isWord isBlank word letters [] []
  rw [List.append_nil] at read
  rw [tokens, read, List.append_nil, tokensFrom]
  cases reversed : word.reverse with
  | nil => exact absurd (by simpa using reversed) some
  | cons c rest => rw [endWord, ← reversed, List.reverse_reverse]; simp

theorem tokensFrom_separator {c : Char} (separates : isWord c = false) (text rest before : List Char) :
    tokensFrom isWord isBlank (text ++ c :: rest) before =
      tokensFrom isWord isBlank text before ++ separator isBlank c ++ tokens isWord isBlank rest := by
  induction text generalizing before with
  | nil => simp [tokensFrom, separates, tokens]
  | cons d text ih =>
      rw [List.cons_append, tokensFrom, tokensFrom]
      split
      · exact ih (d :: before)
      · rw [ih []]
        simp [List.append_assoc]

theorem tokens_separator {c : Char} (separates : isWord c = false) (text rest : List Char) :
    tokens isWord isBlank (text ++ c :: rest) =
      tokens isWord isBlank text ++ separator isBlank c ++ tokens isWord isBlank rest :=
  tokensFrom_separator separates text rest []

theorem tokens_append {c : Char} (separates : isWord c = false) (text rest : List Char) :
    tokens isWord isBlank (text ++ [c] ++ rest) =
      tokens isWord isBlank (text ++ [c]) ++ tokens isWord isBlank rest := by
  rw [List.append_assoc, List.singleton_append, tokens_separator separates, tokens_separator separates,
    tokens_nil, List.append_nil]

theorem tokens_append_cons {c : Char} (separates : isWord c = false) (text rest : List Char) :
    tokens isWord isBlank (text ++ c :: rest) =
      tokens isWord isBlank text ++ tokens isWord isBlank (c :: rest) := by
  have alone := @tokens_separator isWord isBlank c separates [] rest
  rw [List.nil_append, tokens_nil, List.nil_append] at alone
  rw [tokens_separator separates, alone, List.append_assoc]

end Tokens
