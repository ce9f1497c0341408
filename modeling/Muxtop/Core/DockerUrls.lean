import Muxtop.Core.DockerHost

/-!
# Misleading `DOCKER_HOST` values

The URLs that pass the check and name no loopback in their authority. The check looks for the end of the
user information in the whole URL, so an `@` in a path or a query takes it there; it stops at the first
colon or bracket, whatever follows.
-/

namespace Muxtop.Core

open Text Url

/-! ## How the check is misled -/

/-- The host that the check looks at is the one of the authority. -/
def HostIsRead (url : List Char) : Prop := '@' ∉ behind url ∧ ('@' ∈ authority url ∨ IsHttp url)

/-- The URLs that pass for a loopback and have no loopback in their authority. -/
inductive Misleading (url : List Char) : Prop
  /-- An `@` behind the authority, before what begins as a loopback. -/
  | behind (hat : '@' ∈ behind url) (hbegins : BeginsAsLoopback (afterLast '@' (behind url)))
      (hother : ¬ IsLoopback url)
  /-- A scheme of the name `localhost`. -/
  | scheme {name : List Char} (hscheme : scheme url = some name)
      (hname : eqIgnoreAsciiCase name "localhost" = true) (hat : '@' ∉ afterScheme url)
      (hother : ¬ IsLoopback url)
  /-- What follows the colon is no port. -/
  | port {name text : List Char} (hread : HostIsRead url) (hhost : hostPort url = name ++ ':' :: text)
      (hname : IsLoopbackName name) (hport : text.all Char.isDigit = false)
  /-- What stands in brackets is no IPv6 address, or what follows them is no port. -/
  | bracket {inside text : List Char} (hread : HostIsRead url)
      (hhost : hostPort url = '[' :: (inside ++ ']' :: text))
      (hinside : IsLoopbackName inside ∨ IsLoopbackV6 inside)
      (hport : ¬(IsLoopbackV6 inside ∧ IsPort text))
  /-- A bracket that is not closed. -/
  | unclosed {inside : List Char} (hread : HostIsRead url) (hhost : hostPort url = '[' :: inside)
      (hinside : IsLoopbackName inside ∨ IsLoopbackV6 inside)
      (hbehind : StopsAt ['/', '?'] (behind url))

/-! ## The authority -/

/-- An authority and what is behind it make up the URL behind its scheme. -/
theorem authority_append_behind (url : List Char) : authority url ++ behind url = afterScheme url := by
  obtain ⟨-, rest, hrest, -⟩ := upTo_eq_iff.1 (rfl : authority url = authority url)
  rw [behind, hrest, List.drop_left]

/-- What is behind an authority begins with what ends it. -/
theorem stopsAt_behind (url : List Char) : StopsAt ['/', '?', '#'] (behind url) := by
  obtain ⟨-, rest, hrest, hstop⟩ := upTo_eq_iff.1 (rfl : authority url = authority url)
  rwa [behind, hrest, List.drop_left]

/-- What stands behind a character was there before. -/
theorem mem_of_mem_afterLast {c c' : Char} {cs : List Char} (h : c ∈ afterLast c' cs) : c ∈ cs :=
  List.mem_reverse.1 (List.takeWhile_subset _ (List.mem_reverse.1 h))

/-- The host and the port end before the path, the query and the fragment. -/
theorem notMem_hostPort {url : List Char} {c : Char} (hc : c ∈ ['/', '?', '#']) : c ∉ hostPort url :=
  fun h => notMem_upTo hc (mem_of_mem_afterLast h)

/-- A port begins with a colon, if there is one. -/
theorem IsPort.stopsAt {port : List Char} (h : IsPort port) : StopsAt [':'] port := by
  obtain rfl | ⟨digits, rfl, -⟩ := h
  · exact stopsAt_nil
  · exact stopsAt_cons.2 List.mem_cons_self

/-- Behind a name, a port or nothing makes a loopback host. -/
theorem isLoopbackHostPort_name {name text : List Char} (hname : IsLoopbackName name)
    (htext : StopsAt [':'] text) : IsLoopbackHostPort (name ++ text) ↔ IsPort text := by
  constructor
  · rintro ⟨host, port, heq, hport, hhost | ⟨inside, rfl, -⟩⟩
    · have hcut (cs : List Char) (hcs : IsLoopbackName cs) (rest : List Char)
          (hrest : StopsAt [':'] rest) : upTo [':'] (cs ++ rest) = cs :=
        upTo_eq_iff.2 ⟨notMem_of_name hcs (by decide), rest, rfl, hrest⟩
      have hsame : name = host := by
        rw [← hcut name hname text htext, heq, hcut host hhost port hport.stopsAt]
      subst hsame
      rwa [List.append_cancel_left heq]
    · cases name with
      | nil => exact absurd hname not_isLoopbackName_nil
      | cons c name =>
        rw [List.cons_append, List.cons_append, List.cons_eq_cons] at heq
        exact absurd (by rw [heq.1]) hname.ne_cons
  · exact fun hport => ⟨name, text, rfl, hport, .inl hname⟩

/-- Behind an opening bracket, the IPv6 loopback, its closing bracket and a port or nothing do. -/
theorem isLoopbackHostPort_bracket {text : List Char} : IsLoopbackHostPort ('[' :: text) ↔
    ∃ inside port, text = inside ++ ']' :: port ∧ IsLoopbackV6 inside ∧ IsPort port := by
  constructor
  · rintro ⟨host, port, heq, hport, hhost | ⟨inside, rfl, hinside⟩⟩
    · cases host with
      | nil => exact absurd hhost not_isLoopbackName_nil
      | cons c host =>
        rw [List.cons_append, List.cons_eq_cons] at heq
        exact absurd (by rw [heq.1]) hhost.ne_cons
    · exact ⟨inside, port, by simpa using heq, hinside, hport⟩
  · rintro ⟨inside, port, rfl, hinside, hport⟩
    exact ⟨'[' :: (inside ++ [']']), port, by simp, hport, .inr ⟨inside, rfl, hinside⟩⟩

/-- What stands in the brackets ends at the first closing one. -/
theorem isLoopbackHostPort_inside {inside text : List Char}
    (hinside : IsLoopbackName inside ∨ IsLoopbackV6 inside) :
    IsLoopbackHostPort ('[' :: (inside ++ ']' :: text)) ↔ IsLoopbackV6 inside ∧ IsPort text := by
  have hcut (cs rest : List Char) (hcs : IsLoopbackName cs ∨ IsLoopbackV6 cs) :
      upTo [']'] (cs ++ ']' :: rest) = cs :=
    upTo_eq_iff.2 ⟨notMem_of_literal hcs (by decide), _, rfl, stopsAt_cons.2 List.mem_cons_self⟩
  rw [isLoopbackHostPort_bracket]
  constructor
  · rintro ⟨inside', port, heq, hv6, hport⟩
    have hsame : inside = inside' := by
      rw [← hcut inside text hinside, heq, hcut inside' port (.inr hv6)]
    subst hsame
    have htext := (List.cons.inj (List.append_cancel_left heq)).2
    exact ⟨hv6, by rw [htext]; exact hport⟩
  · exact fun ⟨hv6, hport⟩ => ⟨inside, text, rfl, hv6, hport⟩

/-- Without a closing bracket there is no loopback. -/
theorem not_isLoopbackHostPort_unclosed {inside : List Char}
    (hinside : IsLoopbackName inside ∨ IsLoopbackV6 inside) : ¬IsLoopbackHostPort ('[' :: inside) := by
  rw [isLoopbackHostPort_bracket]
  rintro ⟨inside', port, rfl, -, -⟩
  have hopen : ([']'] : List Char).all (!isLiteralChar ·) = true := by decide
  exact notMem_of_literal hinside hopen ']' (List.mem_append_right _ List.mem_cons_self)
    List.mem_cons_self

/-! ## Where the check looks -/

section

variable {url : String}

/-- The check looks at what is behind the scheme. -/
theorem stripHttp_suffix (url : String) :
    ∃ front, (stripHttp url).toList = front ++ afterScheme url.toList := by
  classical
  rw [stripHttp_toList]
  split
  · exact ⟨[], rfl⟩
  · cases hscheme : scheme url.toList with
    | none => exact ⟨[], by rw [afterScheme_of_none hscheme, List.nil_append]⟩
    | some name =>
      refine ⟨name ++ "://".toList, ?_⟩
      rw [List.append_assoc]
      exact (eq_of_scheme hscheme).2

/-- An `@` behind the authority takes the check there. -/
theorem afterUserinfo_behind (h : '@' ∈ behind url.toList) :
    afterLast '@' (stripHttp url).toList = afterLast '@' (behind url.toList) := by
  obtain ⟨front, hfront⟩ := stripHttp_suffix url
  rw [hfront, ← authority_append_behind, ← List.append_assoc, afterLast_append_of_mem h]

/-- Where the host is read, the check finds it behind the last `@`. -/
theorem afterUserinfo_host (h : HostIsRead url.toList) :
    afterLast '@' (stripHttp url).toList = hostPort url.toList ++ behind url.toList := by
  classical
  obtain ⟨hbehind, hauthority | hhttp⟩ := h
  · obtain ⟨front, hfront⟩ := stripHttp_suffix url
    rw [hfront, ← authority_append_behind,
      afterLast_append_of_mem (List.mem_append_left _ hauthority),
      afterLast_append_of_notMem hbehind, hostPort]
  · rw [stripHttp_toList, if_pos hhttp, ← authority_append_behind,
      afterLast_append_of_notMem hbehind, hostPort]

/-- An address begins with a digit or has a colon; the name of a scheme does neither. -/
theorem isLoopback_iff_of_isSchemeName {name : List Char} (h : isSchemeName name = true) :
    IsLoopbackName name ∨ IsLoopbackV6 name ↔ eqIgnoreAsciiCase name "localhost" = true := by
  refine ⟨?_, fun hlocal => .inl (.inl hlocal)⟩
  rintro ((hlocal | ⟨octets, hv4, -⟩) | hv6)
  · exact hlocal
  · cases name with
    | nil => cases h
    | cons c name =>
      rw [isSchemeName, Bool.and_eq_true] at h
      have hdigit := IpAddr.isV4Char_of_parse hv4 c List.mem_cons_self
      rw [IpAddr.isV4Char_of_isAlpha h.1] at hdigit
      cases hdigit
  · exact absurd (IpAddr.colon_mem_of_parse hv6) (notMem_of_isSchemeName h (by decide))

/-- Without an `@`, a scheme that the check does not know passes for the host. -/
theorem beginsAsLoopback_scheme {name : List Char} (hscheme : scheme url.toList = some name)
    (hhttp : ¬ IsHttp url.toList) (hat : '@' ∉ afterScheme url.toList) :
    BeginsAsLoopback (afterLast '@' (stripHttp url).toList) ↔
      eqIgnoreAsciiCase name "localhost" = true := by
  classical
  obtain ⟨hname, hurl⟩ := eq_of_scheme hscheme
  -- without userinfo the check looks at all of the text, the scheme included
  have hnone : '@' ∉ url.toList := by
    rw [hurl]
    simp only [List.mem_append, not_or]
    exact ⟨notMem_of_isSchemeName hname (by decide), by decide, hat⟩
  rw [stripHttp_toList, if_neg hhttp, afterLast_eq_self hnone, ← literalIsLoopback_hostOf, hurl]
  have hbracket : ∀ rest, name ++ ("://".toList ++ afterScheme url.toList) ≠ '[' :: rest := by
    intro rest heq
    cases name with
    | nil => cases hname
    | cons c name =>
      rw [List.cons_append, List.cons_eq_cons] at heq
      exact notMem_of_isSchemeName (c := '[') hname (by decide) (by rw [heq.1]; exact List.mem_cons_self)
  -- and its host ends at the colon behind the scheme
  have hcut : upTo [':', '/', '?'] (name ++ ("://".toList ++ afterScheme url.toList)) = name := by
    refine upTo_eq_iff.2 ⟨fun c hc hstop => ?_, _, rfl, stopsAt_cons.2 (by decide)⟩
    refine notMem_of_isSchemeName hname ?_ hc
    have hstops : [':', '/', '?'].all (fun c =>
        !(c.isAlphanum || c == '+' || c == '-' || c == '.')) = true := by decide
    simpa using List.all_eq_true.1 hstops c hstop
  rw [hostOf_plain hbracket, hcut, literalIsLoopback_iff, isLoopback_iff_of_isSchemeName hname]

/-- What the check takes for the end of a host inside the authority is a colon or a bracket. -/
theorem stopsAt_split {stop : Char} {mid back : List Char}
    (h : StopsAt [stop, '/', '?'] (mid ++ back)) (hmid : ∀ c ∈ ['/', '?', '#'], c ∉ mid)
    (hback : StopsAt ['/', '?', '#'] back) (hstop : stop ∉ ['/', '?', '#']) :
    (mid = [] ∧ StopsAt ['/', '?'] back) ∨ ∃ text, mid = stop :: text := by
  cases mid with
  | nil =>
    refine .inl ⟨rfl, ?_⟩
    cases back with
    | nil => exact stopsAt_nil
    | cons c back =>
      rw [List.nil_append, stopsAt_cons] at h
      rw [stopsAt_cons] at hback ⊢
      obtain rfl | h := List.mem_cons.1 h
      · exact absurd hback hstop
      · exact h
  | cons c mid =>
    rw [List.cons_append, stopsAt_cons] at h
    obtain rfl | h := List.mem_cons.1 h
    · exact .inr ⟨mid, rfl⟩
    · have hin : c ∈ ['/', '?', '#'] := by
        simp only [List.mem_cons, List.not_mem_nil, or_false] at h ⊢
        tauto
      exact absurd List.mem_cons_self (hmid c hin)

/-- Where the check looks at the host of the authority, it is misled by three kinds of hosts. -/
theorem misleading_of_read (hread : HostIsRead url.toList)
    (hbegins : BeginsAsLoopback (hostPort url.toList ++ behind url.toList))
    (hother : ¬ IsLoopback url.toList) : Misleading url.toList := by
  -- the authority has none of the characters that end it
  have hclean : ∀ c ∈ ['/', '?', '#'], c ∉ hostPort url.toList := fun c hc => notMem_hostPort hc
  have hbehind := stopsAt_behind url.toList
  unfold IsLoopback at hother
  obtain ⟨name, rest, htext, hstop, hname⟩ | ⟨inside, rest, htext, hstop, hinside⟩ := hbegins
  · obtain ⟨mid, hhost, rfl⟩ :=
      append_eq_of_stopsAt htext hbehind (notMem_of_name hname (by decide))
    rw [hhost] at hother
    have hmid : ∀ c ∈ ['/', '?', '#'], c ∉ mid := by
      intro c hc hmem
      rw [hhost] at hclean
      exact hclean c hc (List.mem_append_right _ hmem)
    -- behind the name there is the end of the authority, or a port that is no number
    obtain ⟨rfl, -⟩ | ⟨text, rfl⟩ := stopsAt_split hstop hmid hbehind (by decide)
    · exact absurd ((isLoopbackHostPort_name hname stopsAt_nil).2 (.inl rfl)) hother
    · refine .port hread hhost hname (Bool.eq_false_iff.2 fun hdigits => hother ?_)
      rw [isLoopbackHostPort_name hname (stopsAt_cons.2 List.mem_cons_self)]
      exact .inr ⟨text, rfl, hdigits⟩
  · rw [← List.cons_append] at htext
    have hopen : ∀ c ∈ '[' :: inside, c ∉ ['/', '?', '#'] := by
      intro c hc
      obtain rfl | hc := List.mem_cons.1 hc
      · decide
      · exact notMem_of_literal hinside (by decide) c hc
    obtain ⟨mid, hhost, rfl⟩ := append_eq_of_stopsAt htext hbehind hopen
    rw [hhost, List.cons_append] at hother
    have hmid : ∀ c ∈ ['/', '?', '#'], c ∉ mid := by
      intro c hc hmem
      rw [hhost] at hclean
      exact hclean c hc (List.mem_append_right _ hmem)
    -- behind the literal there is no bracket, or one with something else than a port behind it
    obtain ⟨rfl, hpath⟩ | ⟨text, rfl⟩ := stopsAt_split hstop hmid hbehind (by decide)
    · exact .unclosed hread (by rw [hhost, List.append_nil]) hinside hpath
    · refine .bracket hread (by rw [hhost, List.cons_append]) hinside ?_
      rwa [isLoopbackHostPort_inside hinside] at hother

/-- A misleading URL passes the check. -/
theorem begins_of_misleading (h : Misleading url.toList) :
    BeginsAsLoopback (afterLast '@' (stripHttp url).toList) ∧ ¬ IsLoopback url.toList := by
  cases h with
  | behind hat hbegins hother =>
    rw [afterUserinfo_behind hat]
    exact ⟨hbegins, hother⟩
  | @scheme name hscheme hname hat hother =>
    -- a scheme that reads `localhost` is neither `http` nor `https`
    have hhttp : ¬ IsHttp url.toList := by
      intro hhttp
      obtain rfl | rfl := hhttp name hscheme
      · exact absurd hname (by decide)
      · exact absurd hname (by decide)
    exact ⟨(beginsAsLoopback_scheme hscheme hhttp hat).2 hname, hother⟩
  | @port name text hread hhost hname hport =>
    rw [afterUserinfo_host hread]
    constructor
    · refine .inl ⟨name, ':' :: (text ++ behind url.toList), ?_, stopsAt_cons.2 (by decide), hname⟩
      rw [hhost, List.append_assoc, List.cons_append]
    · rw [IsLoopback, hhost, isLoopbackHostPort_name hname (stopsAt_cons.2 List.mem_cons_self)]
      rintro (hnil | ⟨digits, hdigits, hall⟩)
      · cases hnil
      · rw [← (List.cons.inj hdigits).2, hport] at hall
        cases hall
  | @bracket inside text hread hhost hinside hport =>
    rw [afterUserinfo_host hread]
    constructor
    · refine .inr ⟨inside, ']' :: (text ++ behind url.toList), ?_, stopsAt_cons.2 (by decide), hinside⟩
      rw [hhost]
      simp
    · rw [IsLoopback, hhost, isLoopbackHostPort_inside hinside]
      exact hport
  | @unclosed inside hread hhost hinside hbehind =>
    rw [afterUserinfo_host hread]
    constructor
    · refine .inr ⟨inside, behind url.toList, by rw [hhost, List.cons_append], ?_, hinside⟩
      exact fun c hc => List.mem_cons_of_mem _ (hbehind c hc)
    · rw [IsLoopback, hhost]
      exact not_isLoopbackHostPort_unclosed hinside

/-- The check passes a URL without a loopback host exactly when the URL is misleading. -/
theorem misleading_iff (url : String) :
    Misleading url.toList ↔ httpHostIsLoopback url = true ∧ ¬ IsLoopback url.toList := by
  rw [httpHostIsLoopback, literalIsLoopback_hostOf]
  refine ⟨begins_of_misleading, fun ⟨hbegins, hother⟩ => ?_⟩
  by_cases hbehind : '@' ∈ behind url.toList
  · rw [afterUserinfo_behind hbehind] at hbegins
    exact .behind hbehind hbegins hother
  by_cases hhost : '@' ∈ authority url.toList ∨ IsHttp url.toList
  · have hread : HostIsRead url.toList := ⟨hbehind, hhost⟩
    rw [afterUserinfo_host hread] at hbegins
    exact misleading_of_read hread hbegins hother
  · rw [not_or] at hhost
    have hat : '@' ∉ afterScheme url.toList := by
      rw [← authority_append_behind, List.mem_append, not_or]
      exact ⟨hhost.1, hbehind⟩
    cases hscheme : scheme url.toList with
    | none => exact absurd (fun name hname => by rw [hscheme] at hname; cases hname) hhost.2
    | some name =>
      exact .scheme hscheme ((beginsAsLoopback_scheme hscheme hhost.2 hat).1 hbegins) hat hother

/-- A loopback host begins as one. -/
theorem IsLoopbackHostPort.begins {text : List Char} (h : IsLoopbackHostPort text) :
    BeginsAsLoopback text := by
  obtain ⟨host, port, rfl, hport, hhost⟩ := h
  obtain hname | ⟨inside, rfl, hv6⟩ := hhost
  · refine .inl ⟨host, port, rfl, fun c hc => ?_, hname⟩
    rw [List.mem_singleton.1 (hport.stopsAt c hc)]
    exact List.mem_cons_self
  · exact .inr ⟨inside, ']' :: port, by simp, stopsAt_cons.2 List.mem_cons_self, .inr hv6⟩

/-- **`DOCKER_HOST`.** A URL that the check passes has a loopback as the host of its authority,
exactly when it is of none of the misleading kinds. -/
theorem httpHostIsLoopback_sound_iff (url : String) :
    (httpHostIsLoopback url = true → IsLoopback url.toList) ↔ ¬ Misleading url.toList := by
  rw [misleading_iff, not_and, not_not]

/-- The URL of another machine, with an `@` in its path. -/
def atInPath : String := "http://evil.com/@localhost"

/-- An `@` in the path passes for userinfo. -/
theorem not_httpHostIsLoopback_sound_atInPath :
    ¬ ∀ url : String, httpHostIsLoopback url = true → IsLoopback url.toList := by
  intro h
  have hloop : IsLoopbackHostPort "evil.com".toList := h atInPath (by decide)
  have hbegins := (literalIsLoopback_hostOf "evil.com".toList).2 hloop.begins
  exact absurd hbegins (by decide)

end

/-! ## The warning -/

/-- A target that comes from `DOCKER_HOST` has a scheme that the check knows. -/
theorem parseDockerHost_isHttp {raw url : String} (h : parseDockerHost raw = some (.http url)) :
    IsHttp url.toList := by
  -- each of the prefixes that are let through is a scheme
  have hknown (name : String) (hname : isSchemeName name.toList = true)
      (hin : name.toList = "http".toList ∨ name.toList = "https".toList) (rest : List Char)
      (hurl : url.toList = (name ++ "://").toList ++ rest) : IsHttp url.toList := by
    intro name' hname'
    rw [hurl, String.toList_append, List.append_assoc, scheme_eq_some hname] at hname'
    rwa [← Option.some.inj hname']
  unfold parseDockerHost at h
  dsimp only at h
  split at h
  case h_1 rest _ => split at h <;> cases h
  case h_2 =>
    split at h
    case h_1 rest _ =>
      split at h
      · cases h
      · cases h
        exact hknown "http" (by decide) (.inl rfl) rest.toList String.toList_append
    case h_2 =>
      split at h
      case isTrue hstarts =>
        cases h
        rw [Bool.or_eq_true] at hstarts
        obtain hstarts | hstarts := hstarts
        · obtain ⟨rest, hrest⟩ := List.isPrefixOf_iff_prefix.1 hstarts
          exact hknown "http" (by decide) (.inl rfl) rest hrest.symm
        · obtain ⟨rest, hrest⟩ := List.isPrefixOf_iff_prefix.1 hstarts
          exact hknown "https" (by decide) (.inr rfl) rest hrest.symm
      case isFalse => cases h

/-- What is detected without a warning has a scheme that the check knows, and is a loopback or misleading. -/
theorem detectWith_quiet {dockerHost : Option String} {pathExists : String → Bool}
    {candidates : List String} {url : String}
    (h : detectWith dockerHost pathExists candidates = (some (.http url), false)) :
    IsHttp url.toList ∧ (IsLoopback url.toList ∨ Misleading url.toList) := by
  have hpass : IsHttp url.toList ∧ httpHostIsLoopback url = true := by
    unfold detectWith at h
    split at h
    case h_1 url' hparse =>
      obtain ⟨htarget, hwarned⟩ := Prod.mk.inj h
      obtain rfl := ConnectionTarget.http.inj (Option.some.inj htarget)
      obtain ⟨raw, -, hraw⟩ := Option.bind_eq_some_iff.1 hparse
      exact ⟨parseDockerHost_isHttp hraw, by simpa using hwarned⟩
    case h_2 target hnot htarget =>
      obtain rfl := Option.some.inj (Prod.mk.inj h).1
      exact absurd rfl (hnot url)
    case h_3 =>
      -- the sockets that are looked for are no URLs
      obtain ⟨path, -, hpath⟩ := Option.map_eq_some_iff.1 (Prod.mk.inj h).1
      cases hpath
  refine ⟨hpass.1, ?_⟩
  by_cases hloop : IsLoopback url.toList
  · exact .inl hloop
  · exact .inr ((misleading_iff url).2 ⟨hpass.2, hloop⟩)

end Muxtop.Core
