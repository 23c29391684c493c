import Korserver.AddressText

/-!
`urllib.parse.urlparse(url).hostname` on texts of Latin-1 characters, of which none is refused for
what it becomes under normalization.
-/

namespace UrlText

open PythonText IpAddress

/-- `text.partition(separator)[0]` and `text.partition(separator)[2]`. -/
def before (separator : Char) (text : List Char) : List Char := text.takeWhile (· != separator)

def after (separator : Char) (text : List Char) : List Char := (text.dropWhile (· != separator)).tail

def isRemoved (c : Char) : Bool := c == '\t' || c == '\r' || c == '\n'

def cleaned (url : String) : List Char :=
  (url.toList.dropWhile (·.toNat ≤ 32)).filter fun c => !isRemoved c

def isAsciiLetter (c : Char) : Bool := ('a' ≤ c && c ≤ 'z') || ('A' ≤ c && c ≤ 'Z')

def isSchemeChar (c : Char) : Bool :=
  isAsciiLetter c || isAsciiDigit c || c == '+' || c == '-' || c == '.'

def withoutScheme (url : List Char) : List Char :=
  if ':' ∈ url ∧ (before ':' url).head?.any isAsciiLetter ∧ (before ':' url).all isSchemeChar then
    after ':' url
  else url

/-- What stands between the `//` and the path, the query or the fragment. -/
def netloc (url : List Char) : List Char :=
  match withoutScheme url with
  | '/' :: '/' :: rest => rest.takeWhile fun c => c != '/' && c != '?' && c != '#'
  | _ => []

/-- `netloc.rpartition("@")[2]`. -/
def hostAndPort (netloc : List Char) : List Char := netloc.rtakeWhile (· != '@')

def hostPart (hostAndPort : List Char) : List Char :=
  if '[' ∈ hostAndPort then before ']' (after '[' hostAndPort) else before ':' hostAndPort

/-- `v`, hexadecimal digits, a dot and anything but nothing. -/
def isFutureHost (host : List Char) : Bool :=
  match host with
  | 'v' :: rest =>
      !(rest.takeWhile isHexDigit).isEmpty &&
        match rest.dropWhile isHexDigit with
        | '.' :: _ :: _ => true
        | _ => false
  | _ => false

def checkBracketedHost (host : List Char) : Except String Unit :=
  if host.head? = some 'v' then
    if isFutureHost host then .ok () else .error "IPvFuture address is invalid"
  else match ipAddress (String.ofList host) with
    | none => .error s!"'{String.ofList host}' does not appear to be an IPv4 or IPv6 address"
    | some address =>
        if address.family = .v4 then .error "An IPv4 address cannot be in brackets" else .ok ()

def checkBracketedNetloc (netloc : List Char) : Except String Unit :=
  let behind := after ']' (after '[' (hostAndPort netloc))
  if '[' ∈ hostAndPort netloc ∧
      ((hostAndPort netloc).head? ≠ some '[' ∨ (behind ≠ [] ∧ behind.head? ≠ some ':')) then
    .error "Invalid IPv6 URL"
  else checkBracketedHost (hostPart (hostAndPort netloc))

def checkNetloc (netloc : List Char) : Except String Unit :=
  if '[' ∈ netloc ∧ ']' ∈ netloc then checkBracketedNetloc netloc
  else if '[' ∈ netloc ∨ ']' ∈ netloc then .error "Invalid IPv6 URL"
  else .ok ()

/-- `str.lower()` for one character of Latin-1. -/
def lowerLatin (c : Char) : Char :=
  if (65 ≤ c.toNat ∧ c.toNat ≤ 90) ∨ (0xc0 ≤ c.toNat ∧ c.toNat ≤ 0xde ∧ c.toNat ≠ 0xd7) then
    Char.ofNat (c.toNat + 32)
  else c

/-- The zone of an address keeps its case. -/
def lowerHost (host : List Char) : List Char :=
  (before '%' host).map lowerLatin ++ host.dropWhile (· != '%')

/-- The message of an error is that of the `ValueError`. -/
def hostname (url : String) : Except String (Option String) := do
  let netloc := netloc (cleaned url)
  checkNetloc netloc
  let host := hostPart (hostAndPort netloc)
  return if host = [] then none else some (String.ofList (lowerHost host))

theorem splitChar_head {separator c : Char} (other : c ≠ separator) (rest : List Char) :
    ∃ part parts, splitChar separator (c :: rest) = (c :: part) :: parts := by
  rw [splitChar, if_neg other]
  split
  · exact ⟨_, _, rfl⟩
  · exact ⟨_, _, rfl⟩

theorem mapM_head {α β : Type} {f : α → Option β} {first : α} (fails : f first = none) (rest : List α) :
    (first :: rest).mapM f = none := by
  simp [List.mapM_cons, fails]

theorem parseHextet_head {c : Char} (digitless : hexDigitValue c = none) (part : List Char) :
    parseHextet (c :: part) = none := by
  simp [parseHextet, hexValue, digitless]

theorem expandTail_head {first second : List Char} {rest parts : List (List Char)}
    (expanded : expandTail (first :: second :: rest) = some parts) :
    ∃ others, parts = first :: others := by
  unfold expandTail at expanded
  split at expanded
  · split at expanded
    · simp only [Option.bind_eq_bind, Option.bind_eq_some_iff] at expanded
      obtain ⟨tail, -, made⟩ := expanded
      obtain rfl := Option.some.inj made
      exact ⟨_, by rw [List.dropLast_cons_of_ne_nil (by simp), List.cons_append]⟩
    · obtain rfl := Option.some.inj expanded
      exact ⟨_, rfl⟩
  · obtain rfl := Option.some.inj expanded
    exact ⟨_, rfl⟩

theorem splitSkip_front {parts front back : List (List Char)}
    (found : splitSkip parts = some (some (front, back))) : ∃ i, 0 < i ∧ front = parts.take i := by
  unfold splitSkip at found
  split at found
  · nomatch found
  · rename_i i only
    have member : i ∈ (List.range parts.length).filter (fun i =>
        decide (0 < i ∧ i + 1 < parts.length) && parts[i]?.getD ['0'] == []) := by
      rw [only]
      exact List.mem_singleton_self i
    have inner := (List.mem_filter.mp member).2
    simp only [Bool.and_eq_true, decide_eq_true_eq] at inner
    obtain ⟨rfl, -⟩ := Prod.mk.inj (Option.some.inj (Option.some.inj found))
    exact ⟨i, inner.1.1, rfl⟩
  · nomatch found

theorem parseV6_head {c : Char} (noColon : c ≠ ':') (digitless : hexDigitValue c = none)
    (rest : List Char) : parseV6 (c :: rest) = none := by
  obtain ⟨part, others, cut⟩ := splitChar_head noColon rest
  have fails := parseHextet_head digitless part
  cases read : parseV6 (c :: rest) with
  | none => rfl
  | some value =>
      exfalso
      unfold parseV6 at read
      rw [cut] at read
      dsimp only at read
      split at read
      · nomatch read
      rename_i long
      simp only [Option.bind_eq_bind] at read
      rcases others with _ | ⟨second, others⟩
      · exact long (by simp)
      · clear long
        obtain ⟨parts, expanded, read⟩ := Option.bind_eq_some_iff.mp read
        obtain ⟨more, rfl⟩ := expandTail_head expanded
        split at read
        · nomatch read
        obtain ⟨skip, found, read⟩ := Option.bind_eq_some_iff.mp read
        cases skip with
        | none =>
            simp only [mapM_head fails, Option.bind_none, ite_self] at read
            nomatch read
        | some sides =>
            obtain ⟨front, back⟩ := sides
            obtain ⟨i, positive, rfl⟩ := splitSkip_front found
            obtain ⟨j, rfl⟩ : ∃ j, i = j + 1 := ⟨i - 1, by omega⟩
            have kept (parts : List (List Char)) :
                trimEdge ((c :: part) :: parts) (some (c :: part)) = some ((c :: part) :: parts) := by
              simp [trimEdge]
            simp only [List.take_succ_cons, List.head?_cons, kept, Option.bind_some] at read
            obtain ⟨trimmed, -, read⟩ := Option.bind_eq_some_iff.mp read
            simp only [mapM_head fails, Option.bind_none, ite_self] at read
            nomatch read

theorem ipAddress_bracket (rest : List Char) : ipAddress (String.ofList ('[' :: rest)) = none := by
  cases read : ipAddress (String.ofList ('[' :: rest)) with
  | none => rfl
  | some address =>
      exfalso
      unfold ipAddress at read
      rw [String.toList_ofList] at read
      rcases orElse_some read with v4 | ⟨-, v6⟩
      · unfold ipv4Address at v4
        split at v4
        · nomatch v4
        · obtain ⟨value, quad, -⟩ := Option.bind_eq_some_iff.mp v4
          exact parseV4_absent quad (by decide) (by decide) (List.mem_cons_self ..)
      · unfold ipv6Address at v6
        split at v6
        · nomatch v6
        · obtain ⟨⟨address, scope⟩, cut, v6⟩ := Option.bind_eq_some_iff.mp v6
          obtain ⟨value, hextets, -⟩ := Option.bind_eq_some_iff.mp v6
          unfold splitScope at cut
          rw [List.span_eq_takeWhile_dropWhile, List.takeWhile_cons_of_pos (by decide)] at cut
          have first : ∃ more, address = '[' :: more := by
            split at cut
            · rename_i same
              obtain ⟨rfl, -⟩ := Prod.mk.inj same
              exact ⟨_, (Prod.mk.inj (Option.some.inj cut)).1.symm⟩
            · rename_i same
              obtain ⟨rfl, -⟩ := Prod.mk.inj same
              split at cut
              · nomatch cut
              · exact ⟨_, (Prod.mk.inj (Option.some.inj cut)).1.symm⟩
          obtain ⟨more, rfl⟩ := first
          rw [parseV6_head (by decide) (by decide)] at hextets
          nomatch hextets

theorem checkBracketedHost_bracket (rest : List Char) :
    checkBracketedHost ('[' :: rest) ≠ .ok () := by
  rw [checkBracketedHost, if_neg (by simp), ipAddress_bracket]
  simp

theorem hostPart_head {netloc : List Char} (checked : checkNetloc netloc = .ok ()) :
    (hostPart (hostAndPort netloc)).head? ≠ some '[' := by
  intro first
  obtain ⟨rest, host⟩ : ∃ rest, hostPart (hostAndPort netloc) = '[' :: rest := by
    cases whole : hostPart (hostAndPort netloc) with
    | nil => simp [whole] at first
    | cons c rest =>
        rw [whole, List.head?_cons, Option.some.injEq] at first
        exact ⟨rest, by rw [first]⟩
  by_cases opened : '[' ∈ hostAndPort netloc
  · have inNetloc : '[' ∈ netloc := List.rtakeWhile_suffix _ _ |>.subset opened
    unfold checkNetloc at checked
    split at checked
    · unfold checkBracketedNetloc at checked
      dsimp only at checked
      split at checked
      · nomatch checked
      · rw [host] at checked
        exact checkBracketedHost_bracket rest checked
    · rw [if_pos (Or.inl inNetloc)] at checked
      nomatch checked
  · rw [hostPart, if_neg opened] at host
    have member : '[' ∈ before ':' (hostAndPort netloc) := by rw [host]; exact List.mem_cons_self ..
    exact opened (List.takeWhile_subset _ member)

theorem lowered_ne_bracket : ∀ code ≤ 0xde, 65 ≤ code → Char.ofNat (code + 32) ≠ '[' := by
  decide +kernel

theorem lowerLatin_bracket {c : Char} (lowered : lowerLatin c = '[') : c = '[' := by
  unfold lowerLatin at lowered
  split at lowered
  · rename_i upper
    exact absurd lowered (lowered_ne_bracket c.toNat (by omega) (by omega))
  · exact lowered

theorem lowerHost_head (c : Char) (rest : List Char) :
    (lowerHost (c :: rest)).head? = some (lowerLatin c) := by
  by_cases zone : c = '%'
  · subst zone
    simp [lowerHost, before, show lowerLatin '%' = '%' by decide]
  · simp [lowerHost, before, zone]

theorem hostname_head {url host : String} (named : hostname url = .ok (some host)) :
    host ≠ "" ∧ host.toList.head? ≠ some '[' := by
  unfold hostname at named
  cases checked : checkNetloc (netloc (cleaned url)) with
  | error message => simp [checked, bind, Except.bind] at named
  | ok _ =>
      simp only [checked, bind, Except.bind, pure, Except.pure, Except.ok.injEq] at named
      split at named
      · nomatch named
      · rename_i exists_host
        obtain rfl := Option.some.inj named
        have first := hostPart_head checked
        cases whole : hostPart (hostAndPort (netloc (cleaned url))) with
        | nil => exact absurd whole exists_host
        | cons c rest =>
            rw [whole, List.head?_cons] at first
            have head := lowerHost_head c rest
            constructor
            · intro empty
              have none := congrArg String.toList empty
              rw [String.toList_ofList] at none
              rw [none] at head
              nomatch head
            · rw [String.toList_ofList, head]
              exact fun same => first (congrArg some (lowerLatin_bracket (Option.some.inj same)))

theorem hostname_empty : hostname "" = .ok none := rfl

end UrlText
