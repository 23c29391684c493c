import Korserver.IpAddressCore

/-!
Values that `json.loads` can return and the exceptions Python code raises while it
handles them.
-/

namespace PythonValue

open IpAddress

inductive PyError
  | valueError (message : String)
  | typeError
  | attributeError
  | keyError
  | osError
  | commandError
  | structError
  | overflowError
  | recursionError
  | indexError
  | unicodeEncodeError
  deriving DecidableEq, Repr

/-- A decoded JSON value. A float is kept as its text; a dictionary lists its entries in
insertion order. -/
inductive Json
  | null
  | bool (value : Bool)
  | int (value : Int)
  | float (text : String)
  | str (text : String)
  | list (items : List Json)
  | dict (entries : List (String × Json))

/-- What `json.loads` makes of a text: a value, `JSONDecodeError`, or another exception, as for a number
of too many digits. -/
inductive JsonLoaded
  | value (json : Json)
  | undecodable
  | raised (error : PyError)

/-- What a file holds for `json.loads(path.read_text())`: nothing, something that is
unreadable or no JSON, or a value. -/
inductive JsonFile
  | missing
  | malformed
  | value (json : Json)

def Json.truthy : Json → Bool
  | .null => false
  | .bool value => value
  | .int value => value ≠ 0
  | .float text => text ≠ "0.0" && text ≠ "-0.0"
  | .str text => text ≠ ""
  | .list items => !items.isEmpty
  | .dict entries => !entries.isEmpty

def Json.items : Json → Except PyError (List Json)
  | .str text => .ok (text.toList.map fun c => .str (String.ofList [c]))
  | .list items => .ok items
  | .dict entries => .ok (entries.map fun entry => .str entry.1)
  | _ => .error .typeError

/-- The text of a string; any other value has no `strip` or `lower` method. -/
def Json.asText : Json → Except PyError String
  | .str text => .ok text
  | _ => .error .attributeError

def textsOf : List Json → Except PyError (List String)
  | [] => .ok []
  | item :: rest => do
      let text ← item.asText
      let texts ← textsOf rest
      return text :: texts

def stringItems : Option Json → List String
  | some (.list items) => items.filterMap fun item =>
      match item with
      | .str text => some text
      | _ => none
  | _ => []

/-- `str(value)`; `repr` writes lists and dictionaries. -/
def Json.pyStr (repr : Json → String) : Json → String
  | .null => "None"
  | .bool value => if value then "True" else "False"
  | .int value => toString value
  | .float text => text
  | .str text => text
  | value => repr value

/-- `entries[key]`, the last entry winning as in a decoded object. -/
def lookup (key : String) (entries : List (String × Json)) : Option Json :=
  (entries.reverse.find? (·.1 = key)).map (·.2)

/-- `entries[key] = value` on a dictionary. -/
def dictSet {α : Type} (key : String) (value : α) : List (String × α) → List (String × α)
  | [] => [(key, value)]
  | entry :: rest =>
      if entry.1 = key then (key, value) :: rest else entry :: dictSet key value rest

/-- The dictionary of a comprehension: a later item replaces the value of an earlier one. -/
def dictOf {α : Type} (items : List (String × α)) : List (String × α) :=
  items.foldl (fun entries item => dictSet item.1 item.2 entries) []

def dictGet {α : Type} (key : String) : List (String × α) → Option α
  | [] => none
  | entry :: rest => if entry.1 = key then some entry.2 else dictGet key rest

/-- `ipaddress.ip_network(value)`; `none` stands for the `ValueError`. Numbers name
addresses, and the text of any other value is no address. -/
def Json.ipNetwork : Json → Option Network
  | .str text => ipNetworkStrict text
  | .int value => if 0 ≤ value then ipNetworkOfNumber value.natAbs else none
  | .bool value => ipNetworkOfNumber value.toNat
  | _ => none

def texts (items : List String) : Json := .list (items.map .str)

theorem bind_ok {ε α β : Type} {first : Except ε α} {next : α → Except ε β} {result : β} :
    (first >>= next) = .ok result ↔ ∃ value, first = .ok value ∧ next value = .ok result := by
  cases first with
  | error error => simp [bind, Except.bind]
  | ok value => simp [bind, Except.bind]

theorem pure_ok {ε α : Type} {value result : α} :
    (pure value : Except ε α) = .ok result ↔ value = result := by
  simp [pure, Except.pure]

theorem dictSet_absent {α : Type} {key : String} {value : α} {entries : List (String × α)}
    (absent : key ∉ entries.map Prod.fst) : dictSet key value entries = entries ++ [(key, value)] := by
  induction entries with
  | nil => rfl
  | cons entry rest ih =>
      simp only [List.map_cons, List.mem_cons, not_or] at absent
      rw [dictSet, if_neg (Ne.symm absent.1), ih absent.2, List.cons_append]

theorem dictOf_nodup {α : Type} {items : List (String × α)} (distinct : (items.map Prod.fst).Nodup) :
    dictOf items = items := by
  have extend : ∀ rest entries : List (String × α), ((entries ++ rest).map Prod.fst).Nodup →
      rest.foldl (fun entries item => dictSet item.1 item.2 entries) entries = entries ++ rest := by
    intro rest
    induction rest with
    | nil => simp
    | cons item rest ih =>
        intro entries distinct
        have absent : item.1 ∉ entries.map Prod.fst := by
          intro member
          rw [List.map_append, List.nodup_append] at distinct
          exact distinct.2.2 _ member _ (by simp) rfl
        rw [List.foldl_cons, dictSet_absent absent, ih _ (by simpa using distinct)]
        simp
  simpa [dictOf] using extend items [] (by simpa using distinct)

theorem dictGet_of_mem {α : Type} {entries : List (String × α)}
    (distinct : (entries.map Prod.fst).Nodup) {key : String} {value : α}
    (member : (key, value) ∈ entries) : dictGet key entries = some value := by
  induction entries with
  | nil => simp at member
  | cons entry rest ih =>
      rw [List.map_cons, List.nodup_cons] at distinct
      rcases List.mem_cons.mp member with rfl | later
      · simp [dictGet]
      · have other : entry.1 ≠ key := by
          rintro rfl
          exact distinct.1 (List.mem_map.mpr ⟨_, later, rfl⟩)
        rw [dictGet, if_neg other, ih distinct.2 later]

theorem mem_dictSet {α : Type} {key : String} {value : α} {entries : List (String × α)}
    {entry : String × α} (member : entry ∈ dictSet key value entries) :
    entry = (key, value) ∨ entry ∈ entries := by
  induction entries with
  | nil => exact Or.inl (List.mem_singleton.mp member)
  | cons first rest ih =>
      rw [dictSet] at member
      split at member
      · rcases List.mem_cons.mp member with rfl | later
        · exact Or.inl rfl
        · exact Or.inr (List.mem_cons_of_mem _ later)
      · rcases List.mem_cons.mp member with rfl | later
        · exact Or.inr (List.mem_cons_self ..)
        · exact (ih later).imp_right (List.mem_cons_of_mem _)

theorem keys_dictSet {α : Type} (key : String) (value : α) (entries : List (String × α)) :
    (dictSet key value entries).map Prod.fst =
      if key ∈ entries.map Prod.fst then entries.map Prod.fst else entries.map Prod.fst ++ [key] := by
  induction entries with
  | nil => rfl
  | cons entry rest ih =>
      rw [dictSet]
      by_cases same : entry.1 = key
      · simp [same]
      · rw [if_neg same, List.map_cons, List.map_cons, ih]
        by_cases later : key ∈ rest.map Prod.fst
        · rw [if_pos later, if_pos (List.mem_cons_of_mem _ later)]
        · rw [if_neg later, if_neg (by simp [Ne.symm same, later]), List.cons_append]

theorem distinct_dictSet {α : Type} {key : String} {value : α} {entries : List (String × α)}
    (distinct : (entries.map Prod.fst).Nodup) : ((dictSet key value entries).map Prod.fst).Nodup := by
  rw [keys_dictSet]
  split
  · exact distinct
  · rename_i absent
    refine List.nodup_append.mpr ⟨distinct, by simp, fun other member last appended same => absent ?_⟩
    obtain rfl := List.mem_singleton.mp appended
    exact same ▸ member

theorem length_dictSet_le {α : Type} (key : String) (value : α) (entries : List (String × α)) :
    (dictSet key value entries).length ≤ entries.length + 1 := by
  have keys := congrArg List.length (keys_dictSet key value entries)
  rw [List.length_map] at keys
  rw [keys]
  split <;> simp

theorem mem_dictOf {α : Type} {items : List (String × α)} {entry : String × α}
    (member : entry ∈ dictOf items) : entry ∈ items := by
  have folded : ∀ rest entries : List (String × α),
      entry ∈ rest.foldl (fun entries item => dictSet item.1 item.2 entries) entries →
      entry ∈ entries ∨ entry ∈ rest := by
    intro rest
    induction rest with
    | nil => exact fun entries member => Or.inl member
    | cons item rest ih =>
        intro entries member
        rcases ih _ member with inSet | later
        · rcases mem_dictSet inSet with rfl | old
          · exact Or.inr (List.mem_cons_self ..)
          · exact Or.inl old
        · exact Or.inr (List.mem_cons_of_mem _ later)
  exact (folded items [] member).resolve_left (by simp)

theorem mem_of_dictGet {α : Type} {key : String} {value : α} {entries : List (String × α)}
    (found : dictGet key entries = some value) : (key, value) ∈ entries := by
  induction entries with
  | nil => simp [dictGet] at found
  | cons entry rest ih =>
      rw [dictGet] at found
      split at found
      · rename_i same
        obtain rfl := Option.some.inj found
        exact List.mem_cons.mpr (Or.inl (by rw [← same]))
      · exact List.mem_cons_of_mem _ (ih found)

theorem stringItems_texts (items : List String) : stringItems (some (texts items)) = items := by
  simp only [stringItems, texts, List.filterMap_map]
  exact List.filterMap_some

theorem textsOf_map_str (items : List String) : textsOf (items.map .str) = .ok items := by
  induction items with
  | nil => rfl
  | cons item rest ih => simp [textsOf, Json.asText, ih, bind, Except.bind, pure, Except.pure]

end PythonValue
