import Muxtop.Foundation.IpAddr
import Muxtop.Foundation.Splitting

/-!
# The check of `DOCKER_HOST`

`parse_docker_host`, `detect_with` and `http_host_is_loopback` of `muxtop-core/src/container_engine.rs`.
A warning is due when the containers are listed on another machine. The check cuts the host out of a URL
by hand, and looks for the end of the user information before it looks for the end of the authority.
-/

namespace Muxtop.Core

open Text

/-! ## The code -/

/-- The host is spelled as a loopback. -/
def literalIsLoopback (host : List Char) : Bool :=
  if eqIgnoreAsciiCase host "localhost" then true
  else
    match IpAddr.parse host with
    | some ip => ip.isLoopback
    | none => false

/-- The host in what follows the user information. -/
def hostOf (afterUserinfo : List Char) : List Char :=
  let hostPort := upTo ['/', '?'] afterUserinfo
  match hostPort with
  | '[' :: stripped => upTo [']'] stripped
  | _ => upTo [':'] hostPort

/-- The URL without `http://` or `https://`. -/
def stripHttp (url : String) : String :=
  ((stripPrefix url "http://").or (stripPrefix url "https://")).getD url

def httpHostIsLoopback (url : String) : Bool :=
  literalIsLoopback (hostOf (afterLast '@' (stripHttp url).toList))

inductive ConnectionTarget
  | unix (path : String)
  | http (url : String)
deriving DecidableEq

def parseDockerHost (raw : String) : Option ConnectionTarget :=
  let raw := trim raw
  match stripPrefix raw "unix://" with
  | some rest => if rest = "" then none else some (.unix rest)
  | none =>
    match stripPrefix raw "tcp://" with
    | some rest => if rest = "" then none else some (.http ("http://" ++ rest))
    | none =>
      if startsWith raw "http://" || startsWith raw "https://" then some (.http raw) else none

/-- The target, and whether it is warned of. -/
def detectWith (dockerHost : Option String) (pathExists : String → Bool) (candidates : List String) :
    Option ConnectionTarget × Bool :=
  match dockerHost.bind parseDockerHost with
  | some (.http url) => (some (.http url), !httpHostIsLoopback url)
  | some target => (some target, false)
  | none => ((candidates.find? pathExists).map .unix, false)

/-! ## The authority of a URL -/

/-- `localhost`, or an IPv4 address of `127.0.0.0/8`. -/
def IsLoopbackName (host : List Char) : Prop :=
  eqIgnoreAsciiCase host "localhost" = true ∨
    ∃ octets : Vector UInt8 4, IpAddr.parse host = some (.v4 octets) ∧ IpAddr.firstOctet octets = 127

/-- The IPv6 loopback. -/
def IsLoopbackV6 (host : List Char) : Prop :=
  IpAddr.parse host = some (.v6 IpAddr.localhostV6)

def IsPort (text : List Char) : Prop :=
  text = [] ∨ ∃ digits : List Char, text = ':' :: digits ∧ digits.all Char.isDigit = true

/-- A loopback, then a port or nothing; an IPv6 address stands in brackets. -/
def IsLoopbackHostPort (hostPort : List Char) : Prop :=
  ∃ host port, hostPort = host ++ port ∧ IsPort port ∧
    (IsLoopbackName host ∨ ∃ inside, host = '[' :: (inside ++ [']']) ∧ IsLoopbackV6 inside)

def isSchemeName : List Char → Bool
  | c :: rest => c.isAlpha && rest.all fun c => c.isAlphanum || c == '+' || c == '-' || c == '.'
  | [] => false

namespace Url

/-- The name before `://`, if the URL begins so. -/
def scheme (url : List Char) : Option (List Char) :=
  let name := upTo [':'] url
  if isSchemeName name && "://".toList.isPrefixOf (url.drop name.length) then some name else none

def afterScheme (url : List Char) : List Char :=
  match scheme url with
  | some name => url.drop (name.length + 3)
  | none => url

def authority (url : List Char) : List Char := upTo ['/', '?', '#'] (afterScheme url)

/-- The path, the query and the fragment. -/
def behind (url : List Char) : List Char := (afterScheme url).drop (authority url).length

/-- The authority without the user information. -/
def hostPort (url : List Char) : List Char := afterLast '@' (authority url)

/-- The host in the authority is a loopback. -/
def IsLoopback (url : List Char) : Prop := IsLoopbackHostPort (hostPort url)

end Url

open Url

/-! ## What a loopback is written in -/

/-- A character of `localhost` in either case, or of an IPv4 address. -/
def isNameChar (c : Char) : Bool := "localhost".toList.contains c.toLower || IpAddr.isV4Char c

/-- A character of any loopback. -/
def isLiteralChar (c : Char) : Bool := isNameChar c || IpAddr.isV6Char c

/-- The names of the loopback are made of digits, dots and the letters of `localhost`. -/
theorem isNameChar_of_mem {host : List Char} (h : IsLoopbackName host) :
    ∀ c ∈ host, isNameChar c = true := by
  intro c hc
  unfold isNameChar
  rw [Bool.or_eq_true]
  obtain h | ⟨octets, h, -⟩ := h
  · have hlower : host.map Char.toLower = "localhost".toList.map Char.toLower := by
      simpa [eqIgnoreAsciiCase] using h
    have hmem : c.toLower ∈ "localhost".toList.map Char.toLower := by
      rw [← hlower]
      exact List.mem_map_of_mem hc
    have hsame : "localhost".toList.map Char.toLower = "localhost".toList := by decide
    rw [hsame] at hmem
    exact .inl (List.contains_iff_mem.2 hmem)
  · exact .inr (IpAddr.isV4Char_of_parse h c hc)

/-- Its literals are made of these and of what an IPv6 address is written in. -/
theorem isLiteralChar_of_mem {host : List Char} (h : IsLoopbackName host ∨ IsLoopbackV6 host) :
    ∀ c ∈ host, isLiteralChar c = true := by
  intro c hc
  unfold isLiteralChar
  obtain h | h := h
  · simp [isNameChar_of_mem h c hc]
  · simp [IpAddr.isV6Char_of_parse h c hc]

/-- An empty host is no loopback. -/
theorem not_isLoopbackName_nil : ¬ IsLoopbackName [] := by
  rintro (h | ⟨octets, h, -⟩)
  · exact absurd h (by decide)
  · exact absurd h (by simp [show IpAddr.parse [] = none from by decide])

/-- No stop of the check is part of a name. -/
theorem IsLoopbackName.notMem {host : List Char} (h : IsLoopbackName host) {c : Char}
    (hc : isNameChar c = false) : c ∉ host := by
  intro hmem
  rw [isNameChar_of_mem h c hmem] at hc
  cases hc

/-- A name does not begin with a bracket. -/
theorem IsLoopbackName.ne_cons {host rest : List Char} (h : IsLoopbackName host) :
    host ≠ '[' :: rest := by
  rintro rfl
  exact h.notMem (c := '[') (by decide) List.mem_cons_self

/-- The check of a literal is right. -/
theorem literalIsLoopback_iff (host : List Char) :
    literalIsLoopback host = true ↔ IsLoopbackName host ∨ IsLoopbackV6 host := by
  unfold literalIsLoopback IsLoopbackName IsLoopbackV6
  split
  case isTrue h => simp [h]
  case isFalse h =>
    cases hparse : IpAddr.parse host with
    | none => simp [h]
    | some ip =>
      cases ip with
      | v4 octets => simp [h, IpAddr.isLoopback]
      | v6 groups =>
        dsimp only [IpAddr.isLoopback]
        rw [beq_iff_eq]
        simp [h]

/-! ## What the check reads -/

/-- The text begins as a loopback, and goes on with what ends a host for the check. -/
def BeginsAsLoopback (text : List Char) : Prop :=
  (∃ name rest, text = name ++ rest ∧ StopsAt [':', '/', '?'] rest ∧ IsLoopbackName name) ∨
    ∃ inside rest, text = '[' :: (inside ++ rest) ∧ StopsAt [']', '/', '?'] rest ∧
      (IsLoopbackName inside ∨ IsLoopbackV6 inside)

/-- A loopback has no character that ends a host. -/
theorem notMem_of_literal {host : List Char} (h : IsLoopbackName host ∨ IsLoopbackV6 host)
    {stops : List Char} (hstops : stops.all (!isLiteralChar ·) = true) : ∀ c ∈ host, c ∉ stops := by
  intro c hc hstop
  have hnot := List.all_eq_true.1 hstops c hstop
  rw [isLiteralChar_of_mem h c hc] at hnot
  cases hnot

/-- Nor does one of its names, a colon included. -/
theorem notMem_of_name {host : List Char} (h : IsLoopbackName host) {stops : List Char}
    (hstops : stops.all (!isNameChar ·) = true) : ∀ c ∈ host, c ∉ stops := by
  intro c hc hstop
  have hnot := List.all_eq_true.1 hstops c hstop
  rw [isNameChar_of_mem h c hc] at hnot
  cases hnot

/-- The host in brackets goes up to the first bracket, slash or question mark. -/
theorem hostOf_bracket (text : List Char) : hostOf ('[' :: text) = upTo [']', '/', '?'] text := by
  unfold hostOf
  rw [upTo_cons_of_notMem (by decide)]
  exact upTo_upTo

/-- A host without brackets ends at the first of these characters. -/
theorem hostOf_plain {text : List Char} (h : ∀ rest, text ≠ '[' :: rest) :
    hostOf text = upTo [':', '/', '?'] text := by
  unfold hostOf
  dsimp only
  split
  case h_1 stripped hcut =>
    obtain ⟨-, rest, htext, -⟩ := upTo_eq_iff.1 hcut
    exact absurd htext (h (stripped ++ rest))
  case h_2 =>
    rw [upTo_upTo]
    rfl

/-- The check passes the texts that begin as a loopback. -/
theorem literalIsLoopback_hostOf (text : List Char) :
    literalIsLoopback (hostOf text) = true ↔ BeginsAsLoopback text := by
  rw [literalIsLoopback_iff]
  unfold BeginsAsLoopback
  by_cases hbracket : ∃ rest, text = '[' :: rest
  case pos =>
    obtain ⟨stripped, rfl⟩ := hbracket
    rw [hostOf_bracket]
    constructor
    · intro h
      obtain ⟨-, rest, hrest, hstop⟩ := upTo_eq_iff.1
        (rfl : upTo [']', '/', '?'] stripped = upTo [']', '/', '?'] stripped)
      exact .inr ⟨_, rest, congrArg _ hrest, hstop, h⟩
    · rintro (⟨name, rest, htext, -, hname⟩ | ⟨inside, rest, htext, hstop, hinside⟩)
      · -- a name has no bracket, so the text is not read as a name
        cases name with
        | nil => exact absurd hname not_isLoopbackName_nil
        | cons c name =>
          rw [List.cons_append, List.cons_eq_cons] at htext
          exact absurd (by rw [htext.1]) hname.ne_cons
      · have hcut : upTo [']', '/', '?'] stripped = inside :=
          upTo_eq_iff.2 ⟨notMem_of_literal hinside (by decide), rest, (List.cons.inj htext).2, hstop⟩
        rwa [hcut]
  case neg =>
    have hplain : ∀ rest, text ≠ '[' :: rest := fun rest h => hbracket ⟨rest, h⟩
    rw [hostOf_plain hplain]
    constructor
    · intro h
      obtain ⟨hclean, rest, hrest, hstop⟩ := upTo_eq_iff.1
        (rfl : upTo [':', '/', '?'] text = upTo [':', '/', '?'] text)
      obtain h | h := h
      · exact .inl ⟨_, rest, hrest, hstop, h⟩
      · -- an IPv6 address would have been cut at its first colon
        exact absurd (by simp) (hclean ':' (IpAddr.colon_mem_of_parse h))
    · rintro (⟨name, rest, htext, hstop, hname⟩ | ⟨inside, rest, htext, -, -⟩)
      · have hcut : upTo [':', '/', '?'] text = name :=
          upTo_eq_iff.2 ⟨notMem_of_name hname (by decide), rest, htext, hstop⟩
        rw [hcut]
        exact .inl hname
      · exact absurd htext (hplain _)

/-! ## The scheme -/

/-- A scheme has no other characters than letters, digits and these signs. -/
theorem notMem_of_isSchemeName {name : List Char} (h : isSchemeName name = true) {c : Char}
    (hc : (c.isAlphanum || c == '+' || c == '-' || c == '.') = false) : c ∉ name := by
  intro hmem
  cases name with
  | nil => cases hmem
  | cons first rest =>
    rw [isSchemeName, Bool.and_eq_true] at h
    obtain rfl | hrest := List.mem_cons.1 hmem
    · have halpha : c.isAlphanum = true := by rw [Char.isAlphanum, h.1, Bool.true_or]
      rw [halpha] at hc
      cases hc
    · rw [List.all_eq_true.1 h.2 c hrest] at hc
      cases hc

/-- What stands before `://` is the scheme, if it can be one. -/
theorem scheme_eq_some {name rest : List Char} (h : isSchemeName name = true) :
    scheme (name ++ ("://".toList ++ rest)) = some name := by
  have hcut : upTo [':'] (name ++ ("://".toList ++ rest)) = name := by
    refine upTo_eq_iff.2 ⟨fun c hc => ?_, _, rfl, ?_⟩
    · rw [List.mem_singleton]
      rintro rfl
      exact notMem_of_isSchemeName h (by decide) hc
    · exact stopsAt_cons.2 (by decide)
  unfold scheme
  dsimp only
  rw [hcut, List.drop_left, h]
  rfl

/-- What stands behind is the rest. -/
theorem afterScheme_eq {name rest : List Char} (h : isSchemeName name = true) :
    afterScheme (name ++ ("://".toList ++ rest)) = rest := by
  unfold afterScheme
  rw [scheme_eq_some h]
  dsimp only
  rw [← List.drop_drop, List.drop_left]
  rfl

/-- What a URL with a scheme is made of. -/
theorem eq_of_scheme {url name : List Char} (h : scheme url = some name) :
    isSchemeName name = true ∧ url = name ++ ("://".toList ++ afterScheme url) := by
  obtain ⟨rest, hname, hurl⟩ :
      ∃ rest, isSchemeName name = true ∧ url = name ++ ("://".toList ++ rest) := by
    unfold scheme at h
    dsimp only at h
    split_ifs at h with htest
    rw [Bool.and_eq_true] at htest
    obtain ⟨-, tail, htail, -⟩ := upTo_eq_iff.1 (Option.some.inj h)
    rw [Option.some.inj h, htail, List.drop_left] at htest
    obtain ⟨rest, hrest⟩ := List.isPrefixOf_iff_prefix.1 htest.2
    exact ⟨rest, htest.1, by rw [htail, hrest]⟩
  refine ⟨hname, ?_⟩
  rw [hurl, afterScheme_eq hname]

/-- Without a scheme all of a URL is the rest. -/
theorem afterScheme_of_none {url : List Char} (h : scheme url = none) : afterScheme url = url := by
  unfold afterScheme
  rw [h]

/-- A text is its prefix and what is left of it. -/
theorem toList_of_stripPrefix {s affix rest : String} (h : stripPrefix s affix = some rest) :
    s.toList = affix.toList ++ rest.toList := by
  obtain ⟨cs, hcs, rfl⟩ := Option.map_eq_some_iff.1 h
  rw [String.toList_ofList]
  exact (List.isPrefixOf?_eq_some_iff_append_eq.1 hcs).symm

/-- Where nothing is stripped there is no such prefix. -/
theorem not_prefix_of_stripPrefix {s affix : String} (h : stripPrefix s affix = none)
    (rest : List Char) : s.toList ≠ affix.toList ++ rest := by
  intro hs
  have hsome : affix.toList.isPrefixOf? s.toList = some rest :=
    List.isPrefixOf?_eq_some_iff_append_eq.2 hs.symm
  rw [stripPrefix, hsome] at h
  cases h

/-- The scheme is one that the check takes off, or there is none. -/
def IsHttp (url : List Char) : Prop :=
  ∀ name, scheme url = some name → name = "http".toList ∨ name = "https".toList

/-- The check takes off the schemes that it knows. -/
theorem stripHttp_toList (url : String) [Decidable (IsHttp url.toList)] :
    (stripHttp url).toList = if IsHttp url.toList then afterScheme url.toList else url.toList := by
  -- either of the two prefixes that are stripped is the scheme
  have hknown (name : String) (hname : isSchemeName name.toList = true)
      (hin : name.toList = "http".toList ∨ name.toList = "https".toList) (rest : String)
      (h : stripPrefix url (name ++ "://") = some rest) :
      rest.toList = if IsHttp url.toList then afterScheme url.toList else url.toList := by
    have hurl := toList_of_stripPrefix h
    rw [String.toList_append, List.append_assoc] at hurl
    have hhttp : IsHttp url.toList := by
      intro name' hname'
      rw [hurl, scheme_eq_some hname] at hname'
      rwa [← Option.some.inj hname']
    rw [if_pos hhttp, hurl, afterScheme_eq hname]
  unfold stripHttp
  cases hhttp : stripPrefix url "http://" with
  | some rest => exact hknown "http" (by decide) (.inl rfl) rest hhttp
  | none =>
    cases hhttps : stripPrefix url "https://" with
    | some rest => exact hknown "https" (by decide) (.inr rfl) rest hhttps
    | none =>
      -- nothing was stripped, so the scheme is neither of the two
      change url.toList = _
      split
      case isFalse => rfl
      case isTrue hin =>
        cases hscheme : scheme url.toList with
        | none => exact (afterScheme_of_none hscheme).symm
        | some name =>
          obtain ⟨-, hurl⟩ := eq_of_scheme hscheme
          rw [← List.append_assoc] at hurl
          obtain rfl | rfl := hin name hscheme
          · exact absurd hurl (not_prefix_of_stripPrefix hhttp _)
          · exact absurd hurl (not_prefix_of_stripPrefix hhttps _)

end Muxtop.Core
