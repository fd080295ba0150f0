import ImageCatalog.Url
import ImageCatalog.Proofs.Url.Host

/-!
# The parts of an address

An address of the web as it is written, part by part: the scheme and any number of slashes, perhaps
a user, the host, perhaps a port, and what follows. Reading takes such a text apart again, and takes
nothing else for an address of the web whose host is a name. Each function of the reader has two
lemmas: what it makes of a text that is put together, and how a text that it accepts is put
together.

## Main definitions

* `Url.Parts`, `Url.Parts.text` — the parts of an address, and the address that they make

## Main results

* `Url.parse_of_parts` — what is read from parts
* `Url.exists_parts` — every address that is read with a name for its host is made of parts
-/

namespace ImageCatalog.Url

variable {c : Char} {s t part rest : List Char} {p : Char → Bool}

/-! ### Schemes -/

@[simp]
theorem isLetter_lowerChar (c : Char) : isLetter (Domain.lowerChar c) = isLetter c := by
  by_cases hc : Domain.isAscii c
  · exact Domain.forall_isAscii (p := fun c => isLetter (Domain.lowerChar c) = isLetter c)
      (by decide) c hc
  · unfold Domain.lowerChar
    split
    · rename_i hupper
      simp only [Bool.and_eq_true, decide_eq_true_eq] at hupper
      exact absurd (decide_eq_true (lt_of_le_of_lt hupper.2 (by decide : 'Z' < Char.ofNat 128))) hc
    · rfl

/-- The schemes of the web are made of letters. -/
theorem letters_of_web {scheme : List Char} (h : Manner.ofScheme scheme = .web) :
    scheme ≠ [] ∧ ∀ c ∈ scheme, isLetter c := by
  unfold Manner.ofScheme at h
  split at h
  · rename_i hweb
    have hall : ∀ w ∈ ["http", "https", "ws", "wss", "ftp"],
        w.toList ≠ [] ∧ w.toList.all isLetter := by decide
    have hletters := hall _ (List.contains_iff_mem.1 hweb)
    rwa [String.toList_ofList, List.all_eq_true] at hletters
  · split at h <;> simp at h

theorem splitScheme?_append {scheme : List Char} (hne : scheme ≠ []) (h : ∀ c ∈ scheme, isLetter c)
    (rest : List Char) :
    splitScheme? (scheme ++ ':' :: rest) = some (scheme.map Domain.lowerChar, rest) := by
  have hchars : ∀ c ∈ scheme, isSchemeChar c := fun c hc => by simp [isSchemeChar, h c hc]
  have hcolon : (':' :: rest).head?.all (!isSchemeChar ·) := rfl
  obtain ⟨c, scheme, rfl⟩ := List.exists_cons_of_ne_nil hne
  have hhead : (c :: scheme ++ ':' :: rest).head?.any isLetter := h c (by simp)
  rw [splitScheme?, if_pos hhead, Text.takeWhile_append_of_head hchars hcolon,
    Text.dropWhile_append_of_head hchars hcolon]
  rfl

theorem splitScheme?_eq_some {lower : List Char} (h : splitScheme? s = some (lower, rest)) :
    ∃ scheme, s = scheme ++ ':' :: rest ∧ lower = scheme.map Domain.lowerChar := by
  unfold splitScheme? at h
  split at h
  · split at h
    · rename_i rest' hrest
      simp only [Option.some.injEq, Prod.mk.injEq] at h
      obtain ⟨rfl, rfl⟩ := h
      refine ⟨s.takeWhile isSchemeChar, ?_, rfl⟩
      rw [← hrest, List.takeWhile_append_dropWhile]
    · simp at h
  · simp at h

/-! ### Users -/

/-- A user with the `@` behind it, if there is one. -/
def userText : Option (List Char) → List Char
  | none => []
  | some name => name ++ ['@']

theorem isEnd_of_mem_userText {user : Option (List Char)}
    (huser : ∀ name ∈ user, ∀ c ∈ name, Manner.web.isEnd c = false) (hc : c ∈ userText user) :
    Manner.web.isEnd c = false := by
  cases user with
  | none => simp [userText] at hc
  | some name =>
    rw [userText, List.mem_append, List.mem_singleton] at hc
    rcases hc with hc | rfl
    · exact huser name rfl c hc
    · rfl

theorem lastAt?_of_not_mem (h : '@' ∉ s) : lastAt? s = none := by
  rw [lastAt?, Text.dropWhile_reverse_of_not_mem h]

theorem lastAt?_append (s : List Char) (ht : '@' ∉ t) :
    lastAt? (s ++ '@' :: t) = some s.length := by
  rw [lastAt?, Text.dropWhile_reverse_append s ht]
  simp

theorem splitUser_append {user : Option (List Char)}
    (huser : ∀ name ∈ user, ∀ c ∈ name, Manner.web.isEnd c = false) (hne : part ≠ [])
    (hpart : ∀ c ∈ part, Manner.web.isEnd c = false ∧ c ≠ '@')
    (hrest : rest.head?.all Manner.web.isEnd) :
    splitUser .web (userText user ++ (part ++ rest)) = .ok (user.getD [], part ++ rest) := by
  have hat : '@' ∉ part := fun h => (hpart '@' h).2 rfl
  have htake : (userText user ++ (part ++ rest)).takeWhile (fun c => !Manner.web.isEnd c) =
      userText user ++ part := by
    rw [← List.append_assoc]
    refine Text.takeWhile_append_of_head ?_ (by simpa using hrest)
    intro c hc
    rw [Bool.not_eq_true']
    rcases List.mem_append.1 hc with hc | hc
    · exact isEnd_of_mem_userText huser hc
    · exact (hpart c hc).1
  rw [splitUser, htake]
  cases user with
  | none =>
    rw [userText, List.nil_append, lastAt?_of_not_mem hat]
    rfl
  | some name =>
    have hform : userText (some name) ++ part = name ++ '@' :: part := by simp [userText]
    rw [hform, lastAt?_append name hat]
    cases name with
    | nil =>
      obtain ⟨c, part, rfl⟩ := List.exists_cons_of_ne_nil hne
      have hc := (hpart c (by simp)).1
      simp [userText, hc]
    | cons c name => simp [userText]

theorem splitUser_eq_ok {name : List Char} (h : splitUser .web s = .ok (name, t)) :
    ∃ user : Option (List Char), s = userText user ++ t ∧ name = user.getD [] ∧
      (∀ name ∈ user, ∀ c ∈ name, Manner.web.isEnd c = false) ∧
      '@' ∉ t.takeWhile fun c => !Manner.web.isEnd c := by
  have hsplit := List.takeWhile_append_dropWhile (p := fun c => !Manner.web.isEnd c) (l := s)
  have hchars : ∀ c ∈ s.takeWhile fun c => !Manner.web.isEnd c, (!Manner.web.isEnd c) = true :=
    fun _ hc => List.mem_takeWhile_imp (p := fun c => !Manner.web.isEnd c) hc
  have hhead := Text.head?_dropWhile (fun c => !Manner.web.isEnd c) s
  unfold splitUser at h
  -- the user ends at the last `@` in front of the first end
  generalize s.takeWhile (fun c => !Manner.web.isEnd c) = front at h hsplit hchars
  generalize s.dropWhile (fun c => !Manner.web.isEnd c) = back at hsplit hhead
  by_cases hat : '@' ∈ front
  · obtain ⟨user, part, rfl, hpart⟩ := Text.exists_last hat
    have huser : ∀ c ∈ user, Manner.web.isEnd c = false := by
      intro c hc
      simpa using hchars c (List.mem_append_left _ hc)
    have hparts : ∀ c ∈ part, (!Manner.web.isEnd c) = true :=
      fun c hc => hchars c (List.mem_append_right _ (List.mem_cons_of_mem _ hc))
    have hs : s = user ++ '@' :: (part ++ back) := by simpa using hsplit.symm
    rw [lastAt?_append user hpart, hs] at h
    have hresult : name = user ∧ t = part ++ back := by
      cases user with
      | nil =>
        change (if (part ++ back).head?.any Manner.web.isEnd then _
          else Except.ok ([], part ++ back)) = Except.ok (name, t) at h
        split at h
        · simp at h
        · simp only [Except.ok.injEq, Prod.mk.injEq] at h
          exact ⟨h.1.symm, h.2.symm⟩
      | cons c user =>
        simp only [List.length_cons, Except.ok.injEq, Prod.mk.injEq] at h
        simpa using And.intro h.1.symm h.2.symm
    obtain ⟨rfl, rfl⟩ := hresult
    refine ⟨some name, by simp [hs, userText], rfl, by simpa using huser, ?_⟩
    rwa [Text.takeWhile_append_of_head hparts hhead]
  · rw [lastAt?_of_not_mem hat] at h
    simp only [Except.ok.injEq, Prod.mk.injEq] at h
    obtain ⟨rfl, rfl⟩ := h
    refine ⟨none, rfl, rfl, by simp, ?_⟩
    rwa [← hsplit, Text.takeWhile_append_of_head hchars hhead]

/-! ### Hosts -/

/-- The characters of the text of a host that is a name. -/
def isHostChar (c : Char) : Bool :=
  !(Manner.web.isEnd c || c == '@' || c == ':' || c == '[')

theorem splitHost_append (hpart : ∀ c ∈ part, isHostChar c)
    (hrest : rest.head?.all fun c => Manner.web.isEnd c || c == ':') :
    splitHost .web false (part ++ rest) = (part, rest) := by
  induction part with
  | nil =>
    cases rest with
    | nil => rfl
    | cons c rest =>
      have hc : (Manner.web.isEnd c || c == ':') = true := by simpa using hrest
      simp only [List.nil_append, splitHost, Bool.not_false, Bool.and_true, hc, if_true]
  | cons c part ih =>
    have hc := hpart c (by simp)
    simp only [isHostChar, Bool.not_eq_true', Bool.or_eq_false_iff] at hc
    obtain ⟨⟨⟨hend, -⟩, hcolon⟩, hbracket⟩ := hc
    rw [List.cons_append, splitHost]
    simp only [hend, hcolon, hbracket, Bool.false_and, Bool.or_false, Bool.false_eq_true, if_false]
    rw [ih fun c hc => hpart c (List.mem_cons_of_mem _ hc)]

theorem splitHost_eq {inBrackets : Bool} (h : splitHost .web inBrackets s = (part, rest)) :
    s = part ++ rest ∧ (∀ c ∈ part, Manner.web.isEnd c = false) ∧
      (rest.head?.all fun c => Manner.web.isEnd c || c == ':') ∧
      (inBrackets = false → '[' ∉ part → ':' ∉ part) := by
  induction s generalizing inBrackets part with
  | nil =>
    obtain ⟨rfl, rfl⟩ : [] = part ∧ [] = rest := by simpa [splitHost] using h
    simp
  | cons c s ih =>
    rw [splitHost] at h
    split at h
    · rename_i hends
      simp only [Prod.mk.injEq] at h
      obtain ⟨rfl, rfl⟩ := h
      refine ⟨rfl, by simp, ?_, by simp⟩
      simp only [Bool.or_eq_true, Bool.and_eq_true] at hends
      simpa using hends.imp_right And.left
    · rename_i hends
      simp only [Bool.not_eq_true, Bool.or_eq_false_iff] at hends
      obtain ⟨part', hparts⟩ : ∃ part', splitHost .web
          (c == '[' || (inBrackets && c != ']')) s = (part', rest) ∧ c :: part' = part := by
        simp only [Prod.mk.injEq] at h
        exact ⟨_, Prod.ext rfl h.2, h.1⟩
      obtain ⟨hsplit, rfl⟩ := hparts
      obtain ⟨rfl, hchars, hhead, hcolon⟩ := ih hsplit
      refine ⟨rfl, ?_, hhead, ?_⟩
      · intro d hd
        rcases List.mem_cons.1 hd with rfl | hd
        · exact hends.1
        · exact hchars d hd
      · rintro rfl hbracket
        simp only [List.mem_cons, not_or] at hbracket ⊢
        have hc : (c == '[') = false := by simpa using Ne.symm hbracket.1
        refine ⟨?_, hcolon (by simp [hc]) hbracket.2⟩
        rintro rfl
        simp at hends

/-! ### Ports -/

/-- A port with the colon in front of it, if one is written. -/
def portText : Option (List Char) → List Char
  | none => []
  | some digits => ':' :: digits

/-- The number of a port. A colon alone tells none. -/
def portNumber : Option (List Char) → Option Nat
  | none => none
  | some digits => if digits.isEmpty then none else some (Text.value digits)

theorem web_isEnd : Manner.web.isEnd = fun c => isSlash c || c == '?' || c == '#' := by
  funext c
  have hweb : (Manner.web != Manner.other) = true := by decide
  simp only [Manner.isEnd, isSlash, hweb, Bool.and_true]
  ac_rfl

theorem cases_of_isEnd (h : Manner.web.isEnd c) : c = '/' ∨ c = '\\' ∨ c = '?' ∨ c = '#' := by
  simpa [web_isEnd, isSlash, or_assoc] using h

theorem readPort_append {digits : List Char} (hdigits : ∀ c ∈ digits, Text.isDigit c)
    (hvalue : Text.value digits ≤ 65535) (hrest : rest.head?.all Manner.web.isEnd) :
    readPort (digits ++ rest) = .ok (portNumber (some digits), rest) := by
  have hhead : rest.head?.all (!Text.isDigit ·) := by
    cases rest with
    | nil => rfl
    | cons c rest =>
      have hc : Manner.web.isEnd c := by simpa using hrest
      rcases cases_of_isEnd hc with rfl | rfl | rfl | rfl <;> rfl
  have hends : (rest.head?.all fun c => isSlash c || c == '?' || c == '#') = true := by
    rwa [web_isEnd] at hrest
  rw [readPort, Text.takeWhile_append_of_head hdigits hhead,
    Text.dropWhile_append_of_head hdigits hhead]
  simp only [hends, if_true, if_neg (Nat.not_lt.2 hvalue), portNumber]

theorem readPort_eq_ok {port : Option Nat} (h : readPort s = .ok (port, rest)) :
    ∃ digits, s = digits ++ rest ∧ (∀ c ∈ digits, Text.isDigit c) ∧ Text.value digits ≤ 65535 ∧
      rest.head?.all Manner.web.isEnd ∧ port = portNumber (some digits) := by
  unfold readPort at h
  dsimp only at h
  split at h
  · simp at h
  · rename_i hvalue
    split at h
    · rename_i hends
      simp only [Except.ok.injEq, Prod.mk.injEq] at h
      obtain ⟨rfl, rfl⟩ := h
      refine ⟨s.takeWhile Text.isDigit, List.takeWhile_append_dropWhile.symm,
        fun _ hc => List.mem_takeWhile_imp hc, Nat.not_lt.1 hvalue, ?_, rfl⟩
      rwa [web_isEnd]
    · simp at h

/-! ### From the user on -/

/-- The parts of an address of the web from its user on, where the host is a name. -/
structure Authority where
  /-- The user, if an `@` is written. -/
  user : Option (List Char)
  host : List Char
  /-- The digits of the port, if a colon is written. -/
  port : Option (List Char)
  /-- The path, the query and the fragment. -/
  rest : List Char
  user_chars : ∀ name ∈ user, ∀ c ∈ name, Manner.web.isEnd c = false
  host_ne_nil : host ≠ []
  host_chars : ∀ c ∈ host, isHostChar c
  port_digits : ∀ digits ∈ port, (∀ c ∈ digits, Text.isDigit c) ∧ Text.value digits ≤ 65535
  rest_head : rest.head?.all Manner.web.isEnd

namespace Authority

/-- The text that the parts make. -/
def text (a : Authority) : List Char :=
  userText a.user ++ (a.host ++ (portText a.port ++ a.rest))

/-- The address that is read from the parts, for a scheme and what the host is read as. -/
def url (a : Authority) (scheme : List Char) (host : Host) : Url where
  scheme := scheme
  host := some host
  port := portNumber a.port
  path := pathOf a.rest

theorem isEnd_of_mem_host (a : Authority) (hc : c ∈ a.host) :
    Manner.web.isEnd c = false ∧ c ≠ '@' ∧ c ≠ ':' := by
  have := a.host_chars c hc
  simp only [isHostChar, Bool.not_eq_true', Bool.or_eq_false_iff, beq_eq_false_iff_ne] at this
  exact ⟨this.1.1.1, this.1.1.2, this.1.2⟩

theorem isEnd_of_mem_portText (a : Authority) (hc : c ∈ portText a.port) :
    Manner.web.isEnd c = false ∧ c ≠ '@' := by
  cases hport : a.port with
  | none => simp [hport, portText] at hc
  | some digits =>
    rw [hport, portText, List.mem_cons] at hc
    rcases hc with rfl | hc
    · decide
    · have hdigit : Text.isDigit c := (a.port_digits digits hport).1 c hc
      constructor
      · rw [Bool.eq_false_iff]
        intro hend
        rcases cases_of_isEnd hend with rfl | rfl | rfl | rfl <;> simp [Text.isDigit] at hdigit
      · rintro rfl
        simp [Text.isDigit] at hdigit

/-- Nothing in front of the path ends this part of the address. -/
theorem isEnd_of_mem (a : Authority)
    (hc : c ∈ userText a.user ++ (a.host ++ portText a.port)) : Manner.web.isEnd c = false := by
  rcases List.mem_append.1 hc with hc | hc
  · exact isEnd_of_mem_userText a.user_chars hc
  · rcases List.mem_append.1 hc with hc | hc
    · exact (a.isEnd_of_mem_host hc).1
    · exact (a.isEnd_of_mem_portText hc).1

/-- The text does not start with a slash. -/
theorem head?_text (a : Authority) : a.text.head?.all (!isSlash ·) := by
  obtain ⟨d, host, hhost⟩ := List.exists_cons_of_ne_nil a.host_ne_nil
  have hslash : ∀ c, Manner.web.isEnd c = false → isSlash c = false := by
    intro c hc
    simp only [web_isEnd, Bool.or_eq_false_iff] at hc
    exact hc.1.1
  unfold text
  cases huser : a.user with
  | none =>
    have hd := a.isEnd_of_mem_host (c := d) (by simp [hhost])
    simp [userText, hhost, hslash d hd.1]
  | some name =>
    cases name with
    | nil => rfl
    | cons c name =>
      have hc := a.user_chars _ huser c (by simp)
      simp [userText, hslash c hc]

end Authority

theorem afterHost_append {port : Option (List Char)}
    (hport : ∀ digits ∈ port, (∀ c ∈ digits, Text.isDigit c) ∧ Text.value digits ≤ 65535)
    (hrest : rest.head?.all Manner.web.isEnd) :
    afterHost (portText port ++ rest) = .ok (portNumber port, rest) := by
  cases port with
  | none =>
    unfold afterHost
    split
    · rename_i s hs
      rw [portText, List.nil_append] at hs
      simp [hs, Manner.isEnd] at hrest
    · rfl
  | some digits =>
    obtain ⟨hdigits, hvalue⟩ := hport digits rfl
    exact readPort_append hdigits hvalue hrest

theorem afterHost_eq_ok {port : Option Nat}
    (hs : s.head?.all fun c => Manner.web.isEnd c || c == ':')
    (h : afterHost s = .ok (port, rest)) :
    ∃ written : Option (List Char), s = portText written ++ rest ∧
      (∀ digits ∈ written, (∀ c ∈ digits, Text.isDigit c) ∧ Text.value digits ≤ 65535) ∧
      rest.head?.all Manner.web.isEnd ∧ port = portNumber written := by
  unfold afterHost at h
  split at h
  · obtain ⟨digits, rfl, hdigits, hvalue, hrest, rfl⟩ := readPort_eq_ok h
    exact ⟨some digits, rfl, by simpa using ⟨hdigits, hvalue⟩, hrest, rfl⟩
  · rename_i hcolon
    simp only [Except.ok.injEq, Prod.mk.injEq] at h
    obtain ⟨rfl, rfl⟩ := h
    refine ⟨none, rfl, by simp, ?_, rfl⟩
    cases s with
    | nil => rfl
    | cons c s =>
      have hc : c ≠ ':' := fun hc => hcolon s (by rw [hc])
      simpa [hc] using hs

/-- Reading where a host is written. -/
theorem readAuthority_of_host {scheme user : List Char} {host : Host}
    (huser : splitUser .web s = .ok (user, t)) (hsplit : splitHost .web false t = (part, rest))
    (hne : part ≠ []) (hhost : Host.ofText part = .ok host) :
    readAuthority scheme .web s = (afterHost rest).map fun (port, rest) =>
      ⟨scheme, some host, port, pathOf rest⟩ := by
  have hempty : part.isEmpty = false := by simpa using hne
  have hname : hostOf .web part = .ok host := by simp [hostOf, hempty, hhost]
  unfold readAuthority
  rw [huser]
  simp only [bind, Except.bind, hsplit, hname, hempty, Bool.false_and, Bool.false_eq_true, if_false]
  cases afterHost rest with
  | error fault => rfl
  | ok result => rfl

theorem readAuthority_text (a : Authority) (scheme : List Char) {host : Host}
    (hhost : Host.ofText a.host = .ok host) :
    readAuthority scheme .web a.text = .ok (a.url scheme host) := by
  have huser : splitUser .web a.text =
      .ok (a.user.getD [], a.host ++ (portText a.port ++ a.rest)) := by
    rw [Authority.text, ← List.append_assoc a.host]
    refine splitUser_append a.user_chars (by simp [a.host_ne_nil]) ?_ a.rest_head
    intro c hc
    rcases List.mem_append.1 hc with hc | hc
    · exact ⟨(a.isEnd_of_mem_host hc).1, (a.isEnd_of_mem_host hc).2.1⟩
    · exact a.isEnd_of_mem_portText hc
  have hhead : (portText a.port ++ a.rest).head?.all fun c => Manner.web.isEnd c || c == ':' := by
    cases a.port with
    | none =>
      have hrest := a.rest_head
      rw [portText, List.nil_append]
      cases h : a.rest.head? with
      | none => rfl
      | some c =>
        rw [h, Option.all_some] at hrest
        simp [hrest]
    | some digits => simp [portText]
  rw [readAuthority_of_host huser (splitHost_append a.host_chars hhead) a.host_ne_nil hhost,
    afterHost_append a.port_digits a.rest_head]
  rfl

/-- An address of the web is read where a host is written. -/
theorem exists_host {scheme : List Char} {u : Url} (h : readAuthority scheme .web s = .ok u) :
    ∃ user t part rest host, splitUser .web s = .ok (user, t) ∧
      splitHost .web false t = (part, rest) ∧ part ≠ [] ∧ Host.ofText part = .ok host := by
  unfold readAuthority at h
  cases huser : splitUser .web s with
  | error fault => simp [huser, bind, Except.bind] at h
  | ok result =>
    obtain ⟨user, t⟩ := result
    rw [huser] at h
    cases hsplit : splitHost .web false t with
    | mk part rest =>
      simp only [bind, Except.bind, hsplit] at h
      by_cases hne : part = []
      · simp [hne, hostOf] at h
      · cases hhost : Host.ofText part with
        | error fault => simp [hostOf, hne, hhost] at h
        | ok host => exact ⟨user, t, part, rest, host, rfl, hsplit, hne, hhost⟩

theorem exists_authority {scheme : List Char} {u : Url} {ascii : List Char}
    (h : readAuthority scheme .web s = .ok u) (hname : u.host = some (.name ascii)) :
    ∃ a : Authority, s = a.text ∧ Host.ofText a.host = .ok (.name ascii) ∧
      u = a.url scheme (.name ascii) := by
  obtain ⟨_, t, part, rest, host, huser, hsplit, hne, hhost⟩ := exists_host h
  rw [readAuthority_of_host huser hsplit hne hhost] at h
  obtain ⟨⟨port, rest'⟩, hport, rfl⟩ : ∃ result, afterHost rest = .ok result ∧
      ⟨scheme, some host, result.1, pathOf result.2⟩ = u := by
    cases hafter : afterHost rest with
    | error fault => simp [hafter, Except.map] at h
    | ok result => exact ⟨result, rfl, by simpa [hafter, Except.map] using h⟩
  obtain rfl : host = .name ascii := by simpa using hname
  obtain ⟨user, rfl, -, huserChars, hat⟩ := splitUser_eq_ok huser
  obtain ⟨rfl, hends, hhead, hcolon⟩ := splitHost_eq hsplit
  obtain ⟨written, rfl, hdigits, hrest, rfl⟩ := afterHost_eq_ok hhead hport
  -- without a bracket the host ends at its first colon
  have hbracket := Host.not_mem_of_ofText hhost
  have hchars : ∀ c ∈ part, isHostChar c := by
    intro c hc
    have hat' : c ≠ '@' := by
      rintro rfl
      refine hat ?_
      rw [List.takeWhile_append_of_pos fun c hc => by simp [hends c hc]]
      exact List.mem_append_left _ hc
    have hcolon' : c ≠ ':' := fun h => hcolon rfl hbracket (h ▸ hc)
    have hbracket' : c ≠ '[' := fun h => hbracket (h ▸ hc)
    simp [isHostChar, hends c hc, hat', hcolon', hbracket']
  exact
    ⟨{  user := user
        host := part
        port := written
        rest := rest'
        user_chars := huserChars
        host_ne_nil := hne
        host_chars := hchars
        port_digits := hdigits
        rest_head := hrest },
      rfl, hhost, rfl⟩

/-! ### Addresses -/

/-- The parts of an address of the web whose host is a name. -/
structure Parts extends Authority where
  scheme : List Char
  /-- The slashes and backslashes behind the colon, of which there may be any number. -/
  slashes : List Char
  scheme_web : Manner.ofScheme (scheme.map Domain.lowerChar) = .web
  slashes_chars : ∀ c ∈ slashes, isSlash c

/-- The address that the parts make. -/
def Parts.text (p : Parts) : List Char :=
  p.scheme ++ ':' :: (p.slashes ++ p.toAuthority.text)

/-- The address that is read from the parts, for what the host is read as. -/
def Parts.url (p : Parts) (host : Host) : Url :=
  p.toAuthority.url (p.scheme.map Domain.lowerChar) host

theorem letters_of_lower {scheme : List Char}
    (h : Manner.ofScheme (scheme.map Domain.lowerChar) = .web) :
    scheme ≠ [] ∧ ∀ c ∈ scheme, isLetter c := by
  obtain ⟨hne, hletters⟩ := letters_of_web h
  refine ⟨by simpa using hne, fun c hc => ?_⟩
  rw [← isLetter_lowerChar]
  exact hletters _ (List.mem_map_of_mem hc)

/-- Parts are read as they are meant. -/
theorem parse_of_parts {s : String} {host : Host} (p : Parts) (hs : cleaned s.toList = p.text)
    (hhost : Host.ofText p.host = .ok host) : parse s = .ok (p.url host) := by
  obtain ⟨hne, hletters⟩ := letters_of_lower p.scheme_web
  unfold parse
  rw [hs, Parts.text, splitScheme?_append hne hletters]
  simp only [p.scheme_web]
  rw [Text.dropWhile_append_of_head p.slashes_chars p.toAuthority.head?_text]
  exact readAuthority_text p.toAuthority _ hhost

theorem scheme_of_readAuthority {scheme : List Char} {manner : Manner} {u : Url}
    (h : readAuthority scheme manner s = .ok u) : u.scheme = scheme := by
  unfold readAuthority at h
  simp only [bind, Except.bind, throw, throwThe, MonadExceptOf.throw, pure, Except.pure] at h
  repeat' split at h
  all_goals
    cases h
    try rfl

theorem scheme_of_readFile {scheme : List Char} {u : Url} (h : readFile scheme s = .ok u) :
    u.scheme = scheme := by
  unfold readFile at h
  dsimp only at h
  repeat' split at h
  all_goals
    cases h
    try rfl

/-- An address of the web that is read with a name for its host is made of parts. -/
theorem exists_parts {s : String} {u : Url} {ascii : List Char} (h : parse s = .ok u)
    (hweb : Manner.ofScheme u.scheme = .web) (hname : u.host = some (.name ascii)) :
    ∃ p : Parts, cleaned s.toList = p.text ∧ Host.ofText p.host = .ok (.name ascii) ∧
      u = p.url (.name ascii) := by
  unfold parse at h
  split at h
  · simp at h
  · rename_i lower rest hscheme
    obtain ⟨scheme, hs, rfl⟩ := splitScheme?_eq_some hscheme
    -- only the web has addresses whose scheme is one of the web
    have hlower : u.scheme = scheme.map Domain.lowerChar := by
      split at h
      · exact scheme_of_readAuthority h
      · exact scheme_of_readFile h
      · split at h
        · exact scheme_of_readAuthority h
        · simp only [Except.ok.injEq] at h
          rw [← h]
    rw [hlower] at hweb
    simp only [hweb] at h
    obtain ⟨a, ha, hhost, rfl⟩ := exists_authority h hname
    refine ⟨{ toAuthority := a
              scheme := scheme
              slashes := rest.takeWhile isSlash
              scheme_web := hweb
              slashes_chars := fun _ hc => List.mem_takeWhile_imp hc }, ?_, hhost, rfl⟩
    rw [hs, Parts.text, ← ha, List.takeWhile_append_dropWhile]

/-- Nothing is dropped from a text without blanks and control characters. -/
theorem cleaned_of_lt (h : ∀ c ∈ s, 0x20 < c.toNat) : cleaned s = s := by
  have hdrop : ∀ {s : List Char}, (∀ c ∈ s, 0x20 < c.toNat) →
      s.dropWhile (fun c => decide (c.toNat ≤ 0x20)) = s := by
    intro s h
    refine List.dropWhile_eq_self_iff.2 fun hne => ?_
    simpa using h _ (List.getElem_mem hne)
  have hkept : ∀ c ∈ s, (c != '\t' && c != '\n' && c != '\r') = true := by
    intro c hc
    have hlarge := h c hc
    simp only [Bool.and_eq_true, bne_iff_ne]
    refine ⟨⟨?_, ?_⟩, ?_⟩ <;>
      · rintro rfl
        revert hlarge
        decide
  unfold cleaned
  dsimp only
  rw [hdrop h, hdrop (by simpa using h), List.reverse_reverse, List.filter_eq_self.2 hkept]

end ImageCatalog.Url
