import Korserver.MaskedValuesCore

/-!
When a value that was shown masked is restored to what it was.
-/

namespace Korserver

open PythonText PythonValue

def maskedTexts : List String := ["***", maskedReference]

/-- A text that is shown under one key and restored under another. A mask takes the old value, and
a reference inside a longer text is lost. -/
def RecoversText (shown restored : Option String) (old : Json) (text : String) : Prop :=
  if shown.any isSecretKey = true ∧ text ≠ "" ∨
      restored.any isSecretKey = true ∧ maskReferences text ∈ maskedTexts then old = .str text
  else if maskReferences text = maskedReference then
    old = .str text ∨ text = maskedReference ∧ ∀ oldText, old ≠ .str oldText
  else maskReferences text = text

mutual

def Recovers (shown restored : Option String) (old : Json) : Json → Prop
  | .dict entries => RecoversEntries (oldEntries old) entries
  | .list items => RecoversItems restored (oldItems old) items
  | .str text => RecoversText shown restored old text
  | value => shown.any isSecretKey = true → value.truthy = true → old = value
termination_by structural value => value

def RecoversEntries (old : List (String × Json)) : List (String × Json) → Prop
  | [] => True
  | entry :: rest => RecoversEntry old entry ∧ RecoversEntries old rest
termination_by structural entries => entries

def RecoversEntry (old : List (String × Json)) : String × Json → Prop
  | (key, value) => Recovers (some key) (some key) ((dictGet key old).getD .null) value
termination_by structural entry => entry

def RecoversItems (key : Option String) (old : List Json) : List Json → Prop
  | [] => True
  | item :: rest => Recovers none key (old.head?.getD .null) item ∧ RecoversItems key old.tail rest
termination_by structural items => items

end

def KeyKept (shown restored : Option String) : Prop :=
  shown.any isSecretKey = true → restored.any isSecretKey = true

theorem restore_str (key : Option String) (old : Json) (text : String) :
    restoreMaskedValues key old (.str text) =
      if key.any isSecretKey = true ∧ text ∈ maskedTexts then old
      else match old with
        | .str oldText => .str (if text = maskedReference then oldText else text)
        | _ => .str text := by
  cases old <;> rfl

theorem restore_dict (key : Option String) (old : Json) (entries : List (String × Json)) :
    restoreMaskedValues key old (.dict entries) = .dict (restoreEntries (oldEntries old) entries) := by
  cases old <;> rfl

theorem restore_list (key : Option String) (old : Json) (items : List Json) :
    restoreMaskedValues key old (.list items) = .list (restoreItems key (oldItems old) items) := by
  cases old <;> rfl

theorem restore_scalar {shown restored : Option String} (kept : KeyKept shown restored)
    (old value : Json) (asIs : restoreMaskedValues restored old value = value)
    (redacted : redactValue shown value =
      if shown.any isSecretKey = true ∧ value.truthy = true then .str "***" else value) :
    restoreMaskedValues restored old (redactValue shown value) = value ↔
      (shown.any isSecretKey = true → value.truthy = true → old = value) := by
  rw [redacted]
  by_cases secret : shown.any isSecretKey = true ∧ value.truthy = true
  · rw [if_pos secret, restore_str, if_pos ⟨kept secret.1, by simp [maskedTexts]⟩]
    simp [secret]
  · rw [if_neg secret, asIs]
    simp only [true_iff]
    exact fun isSecret isTruthy => absurd ⟨isSecret, isTruthy⟩ secret

theorem restore_text {shown restored : Option String} (kept : KeyKept shown restored) (old : Json)
    (text : String) :
    restoreMaskedValues restored old (redactValue shown (.str text)) = .str text ↔
      RecoversText shown restored old text := by
  by_cases secret : shown.any isSecretKey = true ∧ text ≠ ""
  · simp [redactValue, restore_str, maskedTexts, RecoversText, secret, kept secret.1]
  · rw [redactValue, if_neg secret, restore_str, RecoversText]
    by_cases masked : restored.any isSecretKey = true ∧ maskReferences text ∈ maskedTexts
    · rw [if_pos masked, if_pos (Or.inr masked)]
    · rw [if_neg masked, if_neg (not_or.mpr ⟨secret, masked⟩)]
      by_cases whole : maskReferences text = maskedReference
      · rw [if_pos whole, whole]
        cases old <;> simp [eq_comm]
      · rw [if_neg whole]
        cases old <;> simp [whole]

mutual

theorem restore_redact {shown restored : Option String} (kept : KeyKept shown restored) (old value : Json) :
    restoreMaskedValues restored old (redactValue shown value) = value ↔
      Recovers shown restored old value := by
  cases value with
  | dict entries =>
      rw [redactValue, restore_dict, Recovers, Json.dict.injEq]
      exact restore_redactEntries _ entries
  | list items =>
      rw [redactValue, restore_list, Recovers, Json.list.injEq]
      exact restore_redactItems restored _ items
  | str text => exact restore_text kept old text
  | null => exact restore_scalar kept old .null rfl rfl
  | bool flag => exact restore_scalar kept old (.bool flag) rfl rfl
  | int number => exact restore_scalar kept old (.int number) rfl rfl
  | float text => exact restore_scalar kept old (.float text) rfl rfl
termination_by structural value

theorem restore_redactEntries (old entries : List (String × Json)) :
    restoreEntries old (redactEntries entries) = entries ↔ RecoversEntries old entries := by
  cases entries with
  | nil => simp [redactEntries, restoreEntries, RecoversEntries]
  | cons entry rest =>
      rw [redactEntries, restoreEntries, RecoversEntries, List.cons.injEq, restore_redactEntry,
        restore_redactEntries]
termination_by structural entries

theorem restore_redactEntry (old : List (String × Json)) (entry : String × Json) :
    restoreEntry old (redactEntry entry) = entry ↔ RecoversEntry old entry := by
  obtain ⟨key, value⟩ := entry
  rw [redactEntry, restoreEntry, RecoversEntry, Prod.mk.injEq]
  simp only [true_and]
  exact restore_redact id _ value
termination_by structural entry

theorem restore_redactItems (key : Option String) (old items : List Json) :
    restoreItems key old (redactItems items) = items ↔ RecoversItems key old items := by
  cases items with
  | nil => simp [redactItems, restoreItems, RecoversItems]
  | cons item rest =>
      have hidden : KeyKept none key := fun secret => by simp at secret
      rw [redactItems, restoreItems, RecoversItems, List.cons.injEq, restore_redact hidden,
        restore_redactItems]
termination_by structural items

end

end Korserver
