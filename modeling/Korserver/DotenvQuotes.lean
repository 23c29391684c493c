import Korserver.ConfigSourcesCore
import Korserver.TextParts
import Mathlib.Data.List.Infix

/-!
Which texts come back from double quotes in a `.env` file, once they are escaped.
-/

namespace Korserver

open PythonText

/-- The escapes that undo what `_unescape_double_quoted_dotenv` is for. -/
def escapeDotenvChar (c : Char) : List Char :=
  if c = '\n' then [backslash, 'n']
  else if c = '\r' then [backslash, 'r']
  else if c = '\t' then [backslash, 't']
  else if c = doubleQuote then [backslash, doubleQuote]
  else if c = backslash then [backslash, backslash]
  else [c]

def escapeDotenv (text : List Char) : List Char := text.flatMap escapeDotenvChar

def IsTrailer (trailer : List Char) : Prop :=
  trailer = [] ∨ ∃ blank comment, isSpace blank = true ∧ trailer = blank :: '#' :: comment

def DecodesBack (text : String) : Prop :=
  ∀ trailer, IsTrailer trailer →
    parseDotenvValue (doubleQuote :: escapeDotenv text.toList ++ doubleQuote :: trailer) = text

/-- A letter that stands for a line break or a tab comes right after a backslash. -/
def HasEscapeLike (letter : Char) (text : List Char) : Prop := [backslash, letter] <:+: text

theorem escapeDotenvChar_cases (c : Char) :
    (∃ second, escapeDotenvChar c = [backslash, second]) ∨
      escapeDotenvChar c = [c] ∧ c ≠ backslash ∧ c ≠ doubleQuote := by
  unfold escapeDotenvChar
  repeat' split
  · exact Or.inl ⟨_, rfl⟩
  · exact Or.inl ⟨_, rfl⟩
  · exact Or.inl ⟨_, rfl⟩
  · exact Or.inl ⟨_, rfl⟩
  · exact Or.inl ⟨_, rfl⟩
  · rename_i quote slash
    exact Or.inr ⟨rfl, slash, quote⟩

theorem stripInlineCommentFrom_escaped (text rest passed : List Char) :
    stripInlineCommentFrom (escapeDotenv text ++ rest) passed (some doubleQuote) false =
      stripInlineCommentFrom rest ((escapeDotenv text).reverse ++ passed) (some doubleQuote) false := by
  induction text generalizing passed with
  | nil => rfl
  | cons c text ih =>
      have step (passed : List Char) :
          stripInlineCommentFrom (escapeDotenvChar c ++ (escapeDotenv text ++ rest)) passed (some doubleQuote)
              false =
            stripInlineCommentFrom (escapeDotenv text ++ rest) ((escapeDotenvChar c).reverse ++ passed)
              (some doubleQuote) false := by
        rcases escapeDotenvChar_cases c with ⟨second, token⟩ | ⟨token, slash, quote⟩
        · rw [token]
          simp [stripInlineCommentFrom]
        · rw [token]
          by_cases single : c = singleQuote
          · subst single
            simp [stripInlineCommentFrom, singleQuote, doubleQuote, backslash]
          · simp [stripInlineCommentFrom, slash, quote, single]
      rw [escapeDotenv, List.flatMap_cons, ← escapeDotenv, List.append_assoc, step, ih, List.reverse_append,
        List.append_assoc]

theorem stripInlineComment_quoted {trailer : List Char} (ends : IsTrailer trailer) (text : List Char) :
    stripInlineComment (doubleQuote :: escapeDotenv text ++ doubleQuote :: trailer) =
      doubleQuote :: escapeDotenv text ++ [doubleQuote] := by
  have opened (rest : List Char) : stripInlineComment (doubleQuote :: rest) =
      stripInlineCommentFrom rest [doubleQuote] (some doubleQuote) false := by
    simp [stripInlineComment, stripInlineCommentFrom, doubleQuote, singleQuote]
  have closed (rest passed : List Char) :
      stripInlineCommentFrom (doubleQuote :: rest) passed (some doubleQuote) false =
        stripInlineCommentFrom rest (doubleQuote :: passed) none false := by
    simp [stripInlineCommentFrom, doubleQuote, singleQuote, backslash]
  rw [List.cons_append, opened, stripInlineCommentFrom_escaped, closed]
  rcases ends with rfl | ⟨blank, comment, space, rfl⟩
  · simp [stripInlineCommentFrom]
  · have plain : blank ≠ singleQuote ∧ blank ≠ doubleQuote ∧ blank ≠ '#' := by
      refine ⟨?_, ?_, ?_⟩
      all_goals
        rintro rfl
        exact absurd space (by decide)
    have sign : '#' ≠ singleQuote ∧ '#' ≠ doubleQuote := by decide
    simp only [stripInlineCommentFrom, Bool.false_eq_true, if_false, reduceCtorEq, false_and, plain.1, plain.2.1,
      plain.2.2, or_self, sign.1, sign.2, List.head?_cons, Option.all_some, space, and_self, if_true]
    rw [List.reverse_cons, dropEndWhile]
    simp only [List.reverse_append, List.reverse_cons, List.reverse_nil, List.nil_append, List.singleton_append,
      List.dropWhile_cons_of_pos space, List.reverse_reverse]
    rw [List.dropWhile_cons_of_neg (by decide)]
    simp

section

variable {first second new : Char}

theorem replacePair_match (rest : List Char) :
    replacePair first second new (first :: second :: rest) = new :: replacePair first second new rest := by
  rw [replacePair, if_pos ⟨rfl, rfl⟩]

theorem replacePair_keep {c : Char} {rest : List Char}
    (apart : c ≠ first ∨ rest.head? ≠ some second) :
    replacePair first second new (c :: rest) = c :: replacePair first second new rest := by
  cases rest with
  | nil => rfl
  | cons next rest =>
      rw [replacePair, if_neg]
      rintro ⟨rfl, rfl⟩
      rcases apart with other | other
      · exact other rfl
      · exact other rfl

theorem replacePair_token {c : Char} (other : c ≠ second) {rest : List Char}
    (apart : c ≠ first ∨ rest.head? ≠ some second) :
    replacePair first second new (first :: c :: rest) = first :: c :: replacePair first second new rest := by
  rw [replacePair_keep (Or.inr _), replacePair_keep apart]
  exact fun same => other (Option.some.inj same)

theorem count_replacePair_le {c : Char} (other : c ≠ new) (text : List Char) :
    (replacePair first second new text).count c ≤ text.count c := by
  induction text using replacePair.induct first second with
  | case1 d next rest same ih =>
      rw [replacePair, if_pos same, List.count_cons_of_ne other.symm]
      exact ih.trans (((List.sublist_cons_self _ _).trans (List.sublist_cons_self _ _)).count_le _)
  | case2 d next rest different ih =>
      rw [replacePair, if_neg different, List.count_cons, List.count_cons]
      omega
  | case3 rest short => rw [replacePair.eq_def]; split <;> simp_all

end

/-- Escapes of which the one for `new` is next; all others stay as they are. -/
structure IsStage (second new : Char) (before after : Char → List Char) : Prop where
  escaped : before new = [backslash, second]
  restored : after new = [new]
  kept : ∀ c, c ≠ new → after c = before c
  tokens : ∀ c, c ≠ new → (before c = [c] ∧ c ≠ backslash) ∨
    (c = backslash ∧ before c = [backslash, backslash]) ∨
      c ≠ second ∧ c ≠ backslash ∧
        ∃ letter, letter ≠ second ∧ letter ≠ backslash ∧ before c = [backslash, letter]
  letter : second ≠ backslash

section

variable {second new : Char} {before after : Char → List Char}

/-- The first character of what follows is the letter only if it is that letter, unescaped. -/
theorem IsStage.head (stage : IsStage second new before after) {text : List Char}
    (head : (text.flatMap before).head? = some second) : text.head? = some second ∧ second ≠ new := by
  cases text with
  | nil => simp at head
  | cons c rest =>
      rw [List.flatMap_cons] at head
      by_cases isNew : c = new
      · subst isNew
        rw [stage.escaped] at head
        exact absurd (Option.some.inj head).symm stage.letter
      · rcases stage.tokens c isNew with ⟨token, -⟩ | ⟨-, token⟩ | ⟨-, -, letter, -, -, token⟩
        · rw [token] at head
          obtain rfl := Option.some.inj head
          exact ⟨rfl, isNew⟩
        · rw [token] at head
          exact absurd (Option.some.inj head).symm stage.letter
        · rw [token] at head
          exact absurd (Option.some.inj head).symm stage.letter

theorem IsStage.replace (stage : IsStage second new before after) {text : List Char}
    (free : second ≠ new → ¬HasEscapeLike second text) :
    replacePair backslash second new (text.flatMap before) = text.flatMap after := by
  induction text with
  | nil => rfl
  | cons c rest ih =>
      have later : second ≠ new → ¬HasEscapeLike second rest := fun differ pair =>
        free differ (pair.trans (List.suffix_cons c rest).isInfix)
      rw [List.flatMap_cons, List.flatMap_cons]
      by_cases isNew : c = new
      · subst isNew
        rw [stage.escaped, stage.restored, List.cons_append, List.cons_append, replacePair_match]
        exact congrArg _ (ih later)
      · rw [stage.kept c isNew]
        rcases stage.tokens c isNew with ⟨token, slash⟩ | ⟨rfl, token⟩ | ⟨-, -, letter, other, plain, token⟩
        · rw [token]
          exact (replacePair_keep (Or.inl slash)).trans (congrArg _ (ih later))
        · have head : (rest.flatMap before).head? ≠ some second := by
            intro follows
            obtain ⟨next, differ⟩ := stage.head follows
            cases rest with
            | nil => nomatch next
            | cons other rest =>
                obtain rfl := Option.some.inj next
                exact free differ (List.prefix_append [backslash, other] rest).isInfix
          rw [token, List.cons_append, List.singleton_append, replacePair_token stage.letter.symm (Or.inr head),
            ih later]
          rfl
        · rw [token, List.cons_append, List.singleton_append, replacePair_token other (Or.inl plain), ih later]
          rfl

theorem not_escapeLike_cons {c : Char} (slash : c ≠ backslash) {rest : List Char} :
    HasEscapeLike second (c :: rest) ↔ HasEscapeLike second rest := by
  unfold HasEscapeLike
  rw [List.infix_cons_iff, List.cons_prefix_cons]
  exact or_iff_right fun both => slash both.1.symm

theorem IsStage.count (stage : IsStage second new before after) (fresh : new ≠ second)
    (notSlash : new ≠ backslash) (text : List Char) :
    (replacePair backslash second new (text.flatMap before)).count second ≤ text.count second ∧
      (HasEscapeLike second text →
        (replacePair backslash second new (text.flatMap before)).count second < text.count second) := by
  match text with
  | [] => exact ⟨Nat.le_refl _, fun pair => absurd (List.eq_nil_of_infix_nil pair) (by simp)⟩
  | c :: rest =>
      have ih := stage.count fresh notSlash rest
      rw [List.flatMap_cons]
      by_cases isNew : c = new
      · subst isNew
        rw [stage.escaped, List.cons_append, List.cons_append, List.nil_append, replacePair_match,
          List.count_cons_of_ne fresh, List.count_cons_of_ne fresh, not_escapeLike_cons notSlash]
        exact ih
      · rcases stage.tokens c isNew with ⟨token, slash⟩ | ⟨rfl, token⟩ | ⟨other, slash, letter, differ, plain, token⟩
        · rw [token, not_escapeLike_cons slash, List.singleton_append, replacePair_keep (Or.inl slash),
            List.count_cons, List.count_cons]
          exact ⟨by omega, fun pair => by have := ih.2 pair; omega⟩
        · by_cases pairs : ∃ more, rest = second :: more
          · obtain ⟨more, rfl⟩ := pairs
            have inner := stage.count fresh notSlash more
            have unescaped : before second = [second] := by
              rcases stage.tokens second fresh.symm with ⟨token, -⟩ | ⟨same, -⟩ | ⟨same, -⟩
              · exact token
              · exact absurd same stage.letter
              · exact absurd rfl same
            have notLetter : (backslash :: second :: more.flatMap before).head? ≠ some second :=
              fun same => stage.letter (Option.some.inj same).symm
            rw [token, List.flatMap_cons, unescaped, List.cons_append, List.singleton_append,
              List.singleton_append, replacePair_keep (Or.inr notLetter), replacePair_match,
              List.count_cons_of_ne stage.letter.symm, List.count_cons_of_ne fresh,
              List.count_cons_of_ne stage.letter.symm, List.count_cons_self]
            exact ⟨by omega, fun _ => by omega⟩
          · have head : (rest.flatMap before).head? ≠ some second := by
              intro follows
              have next := (stage.head follows).1
              cases rest with
              | nil => nomatch next
              | cons other rest => exact pairs ⟨rest, by rw [Option.some.inj next]⟩
            have later : HasEscapeLike second (backslash :: rest) → HasEscapeLike second rest := by
              unfold HasEscapeLike
              rw [List.infix_cons_iff, List.cons_prefix_cons]
              rintro (⟨-, before⟩ | inner)
              · obtain ⟨more, rfl⟩ := before
                exact absurd ⟨more, rfl⟩ pairs
              · exact inner
            rw [token, List.cons_append, List.singleton_append,
              replacePair_token stage.letter.symm (Or.inr head), List.count_cons_of_ne stage.letter.symm,
              List.count_cons_of_ne stage.letter.symm, List.count_cons_of_ne stage.letter.symm]
            exact ⟨ih.1, fun pair => ih.2 (later pair)⟩
        · rw [token, not_escapeLike_cons slash, List.cons_append, List.singleton_append,
            replacePair_token differ (Or.inl plain), List.count_cons_of_ne stage.letter.symm,
            List.count_cons_of_ne differ, List.count_cons_of_ne other]
          exact ih
termination_by text.length

end

/-! The five replacements. -/

/-- The escapes that are left once those of some characters are undone. -/
def escapesExcept (done : List Char) (c : Char) : List Char :=
  if c ∈ done then [c] else escapeDotenvChar c

theorem isStage_of {done : List Char} {second new : Char} (escaped : escapesExcept done new = [backslash, second])
    (letter : second ≠ backslash)
    (other : ∀ c ∈ ['\n', '\r', '\t', doubleQuote], c ∉ done → c ≠ new → c ≠ second ∧
      (escapeDotenvChar c).getLast? ≠ some second)
    (kept : backslash ∉ done) :
    IsStage second new (escapesExcept done) (escapesExcept (new :: done)) where
  escaped := escaped
  restored := by simp [escapesExcept]
  kept c differ := by simp [escapesExcept, differ]
  letter := letter
  tokens c differ := by
    unfold escapesExcept
    by_cases undone : c ∈ done
    · rw [if_pos undone]
      exact Or.inl ⟨rfl, fun same => kept (same ▸ undone)⟩
    · rw [if_neg undone]
      by_cases special : c ∈ ['\n', '\r', '\t', doubleQuote]
      · have apart := other c special undone differ
        refine Or.inr (Or.inr ⟨apart.1, ?_, ?_⟩)
        · rintro rfl
          exact absurd special (by decide)
        · have tail := apart.2
          simp only [List.mem_cons, List.not_mem_nil, or_false] at special
          rcases special with rfl | rfl | rfl | rfl
          · exact ⟨'n', fun same => tail (same ▸ rfl), by decide, rfl⟩
          · exact ⟨'r', fun same => tail (same ▸ rfl), by decide, rfl⟩
          · exact ⟨'t', fun same => tail (same ▸ rfl), by decide, rfl⟩
          · exact ⟨doubleQuote, fun same => tail (same ▸ rfl), by decide, rfl⟩
      · by_cases same : c = backslash
        · exact Or.inr (Or.inl ⟨same, by rw [same]; rfl⟩)
        · refine Or.inl ⟨?_, same⟩
          simp only [List.mem_cons, List.not_mem_nil, or_false, not_or] at special
          simp [escapeDotenvChar, special, same]

theorem newlineStage : IsStage 'n' '\n' (escapesExcept []) (escapesExcept ['\n']) :=
  isStage_of rfl (by decide) (by simp [escapeDotenvChar, doubleQuote, backslash]) (by decide)

theorem returnStage : IsStage 'r' '\r' (escapesExcept ['\n']) (escapesExcept ['\r', '\n']) :=
  isStage_of rfl (by decide) (by simp [escapeDotenvChar, doubleQuote, backslash]) (by decide)

theorem tabStage : IsStage 't' '\t' (escapesExcept ['\r', '\n']) (escapesExcept ['\t', '\r', '\n']) :=
  isStage_of rfl (by decide) (by simp [escapeDotenvChar, doubleQuote, backslash]) (by decide)

theorem quoteStage : IsStage doubleQuote doubleQuote (escapesExcept ['\t', '\r', '\n'])
    (escapesExcept [doubleQuote, '\t', '\r', '\n']) :=
  isStage_of rfl (by decide) (by simp [escapeDotenvChar, doubleQuote, backslash]) (by decide)

theorem replacePair_backslashes (text : List Char) :
    replacePair backslash backslash backslash
      (text.flatMap (escapesExcept [doubleQuote, '\t', '\r', '\n'])) = text := by
  induction text with
  | nil => rfl
  | cons c rest ih =>
      rw [List.flatMap_cons]
      by_cases slash : c = backslash
      · subst slash
        rw [show escapesExcept [doubleQuote, '\t', '\r', '\n'] backslash = [backslash, backslash] by decide,
          List.cons_append, List.singleton_append, replacePair_match, ih]
      · have token : escapesExcept [doubleQuote, '\t', '\r', '\n'] c = [c] := by
          unfold escapesExcept
          split
          · rfl
          · rename_i special
            simp only [List.mem_cons, List.not_mem_nil, or_false, not_or] at special
            simp [escapeDotenvChar, special, slash]
        rw [token, List.singleton_append, replacePair_keep (Or.inl slash), ih]

theorem escapeDotenv_eq (text : List Char) : escapeDotenv text = text.flatMap (escapesExcept []) := by
  rw [escapeDotenv]
  refine congrArg text.flatMap (funext fun c => ?_)
  rw [escapesExcept, if_neg (by simp)]

def replaceEscapes (replacements : List (Char × Char)) (text : List Char) : List Char :=
  replacements.foldl (fun text replacement => replacePair backslash replacement.1 replacement.2 text) text

theorem count_replaceEscapes_le {c : Char} {replacements : List (Char × Char)}
    (other : ∀ replacement ∈ replacements, c ≠ replacement.2) (text : List Char) :
    (replaceEscapes replacements text).count c ≤ text.count c := by
  induction replacements generalizing text with
  | nil => exact Nat.le_refl _
  | cons replacement rest ih =>
      have first := @count_replacePair_le backslash replacement.1 replacement.2 c
        (other replacement (List.mem_cons_self ..)) text
      exact (ih (fun more member => other more (List.mem_cons_of_mem _ member)) _).trans first

theorem lost_letter {letter new : Char} {before after : Char → List Char}
    (stage : IsStage letter new before after) (fresh : new ≠ letter) (notSlash : new ≠ backslash)
    {later : List (Char × Char)} (other : ∀ replacement ∈ later, letter ≠ replacement.2) {text : List Char}
    (same : replaceEscapes later (replacePair backslash letter new (text.flatMap before)) = text) :
    ¬HasEscapeLike letter text := by
  intro pair
  have lost := (stage.count fresh notSlash text).2 pair
  have fewer := count_replaceEscapes_le other (replacePair backslash letter new (text.flatMap before))
  rw [same] at fewer
  omega

theorem unescape_escape_iff (text : List Char) :
    unescapeDoubleQuotedDotenv (escapeDotenv text) = text ↔
      ∀ letter ∈ ['n', 'r', 't'], ¬HasEscapeLike letter text := by
  have steps : unescapeDoubleQuotedDotenv (escapeDotenv text) =
      replaceEscapes [('r', '\r'), ('t', '\t'), (doubleQuote, doubleQuote), (backslash, backslash)]
        (replacePair backslash 'n' '\n' (text.flatMap (escapesExcept []))) := by
    rw [escapeDotenv_eq]
    rfl
  have afterN (free : ¬HasEscapeLike 'n' text) : unescapeDoubleQuotedDotenv (escapeDotenv text) =
      replaceEscapes [('t', '\t'), (doubleQuote, doubleQuote), (backslash, backslash)]
        (replacePair backslash 'r' '\r' (text.flatMap (escapesExcept ['\n']))) := by
    rw [steps, newlineStage.replace fun _ => free]
    rfl
  have afterR (free : ¬HasEscapeLike 'n' text) (freeR : ¬HasEscapeLike 'r' text) :
      unescapeDoubleQuotedDotenv (escapeDotenv text) =
        replaceEscapes [(doubleQuote, doubleQuote), (backslash, backslash)]
          (replacePair backslash 't' '\t' (text.flatMap (escapesExcept ['\r', '\n']))) := by
    rw [afterN free, returnStage.replace fun _ => freeR]
    rfl
  constructor
  · intro same
    have noNewline := lost_letter newlineStage (by decide) (by decide) (by decide) (steps.symm.trans same)
    have noReturn := lost_letter returnStage (by decide) (by decide) (by decide)
      ((afterN noNewline).symm.trans same)
    have noTab := lost_letter tabStage (by decide) (by decide) (by decide)
      ((afterR noNewline noReturn).symm.trans same)
    intro letter member
    simp only [List.mem_cons, List.not_mem_nil, or_false] at member
    rcases member with rfl | rfl | rfl
    · exact noNewline
    · exact noReturn
    · exact noTab
  · intro free
    rw [afterR (free 'n' (by simp)) (free 'r' (by simp)), tabStage.replace fun _ => free 't' (by simp)]
    change replacePair backslash backslash backslash (replacePair backslash doubleQuote doubleQuote _) = text
    rw [quoteStage.replace fun differ => absurd rfl differ, replacePair_backslashes]

theorem stripChars_quoted {trailer : List Char} (ends : IsTrailer trailer) (text : List Char) :
    ∃ shorter, IsTrailer shorter ∧
      stripChars isSpace (doubleQuote :: text ++ doubleQuote :: trailer) =
        doubleQuote :: text ++ doubleQuote :: shorter := by
  have quote : isSpace doubleQuote = false := by decide
  have start := @stripChars_start isSpace [] (by simp) doubleQuote quote (text ++ doubleQuote :: trailer)
  rw [List.nil_append] at start
  rw [List.cons_append, start, dropEndWhile_append_cons quote]
  rcases ends with rfl | ⟨blank, comment, space, rfl⟩
  · exact ⟨[], Or.inl rfl, rfl⟩
  · have whole := @dropEndWhile_append_cons isSpace '#' (by decide) [blank] comment
    rw [List.singleton_append, List.singleton_append] at whole
    rw [whole]
    exact ⟨_, Or.inr ⟨blank, dropEndWhile isSpace comment, space, rfl⟩, rfl⟩

theorem parseDotenvValue_quoted {trailer : List Char} (ends : IsTrailer trailer) (text : List Char) :
    parseDotenvValue (doubleQuote :: escapeDotenv text ++ doubleQuote :: trailer) =
      String.ofList (unescapeDoubleQuotedDotenv (escapeDotenv text)) := by
  obtain ⟨shorter, shorterEnds, stripped⟩ := stripChars_quoted ends (escapeDotenv text)
  unfold parseDotenvValue
  rw [stripped, stripInlineComment_quoted shorterEnds]
  have last : (doubleQuote :: escapeDotenv text ++ [doubleQuote]).getLast? = some doubleQuote :=
    List.getLast?_concat
  have first : (doubleQuote :: escapeDotenv text ++ [doubleQuote]).head? = some doubleQuote := rfl
  have inner : (doubleQuote :: escapeDotenv text ++ [doubleQuote]).tail.dropLast = escapeDotenv text := by
    rw [List.cons_append, List.tail_cons, List.dropLast_concat]
  dsimp only
  rw [first, last, inner, if_neg (by decide), if_pos ⟨rfl, rfl⟩]

/-- The texts that come back from double quotes. -/
theorem decodesBack_iff (text : String) :
    DecodesBack text ↔ ∀ letter ∈ ['n', 'r', 't'], ¬HasEscapeLike letter text.toList := by
  rw [← unescape_escape_iff]
  constructor
  · intro decodes
    have bare := decodes [] (Or.inl rfl)
    rw [parseDotenvValue_quoted (Or.inl rfl)] at bare
    rw [← String.toList_inj, String.toList_ofList] at bare
    exact bare
  · intro same trailer ends
    rw [parseDotenvValue_quoted ends, same, String.ofList_toList]

/-- A directory of a Windows path begins like a line break. -/
theorem windowsPath_garbled : ¬∀ text : String, DecodesBack text := by
  intro decodes
  have one := decodes (String.ofList ['C', ':', backslash, 'n', 'e', 'w']) [] (Or.inl rfl)
  revert one
  decide +kernel

end Korserver
