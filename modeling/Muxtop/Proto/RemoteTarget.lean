import Muxtop.Foundation.IpAddr
import Muxtop.Foundation.Numerals
import Muxtop.Foundation.Splitting

/-!
# The target of a remote connection

`split_host_port` and `parse_remote_target` of `muxtop-proto/src/tls.rs`.

A target is a host and a port. The address to connect to is found by asking the resolver, unless the host is
an address already; the name that the server's certificate is checked against is what was typed.
-/

namespace Muxtop.Proto

inductive RemoteTargetError
  | missingPort (input : String)
  | invalidPort (raw : String)
  | dnsLookupFailed (host source : String)
  | dnsNoAddresses (host : String)
  | invalidSni (host message : String)
deriving DecidableEq

structure SocketAddr where
  ip : IpAddr
  port : UInt16
deriving DecidableEq

/-- The name that a certificate is checked against. -/
inductive ServerName
  | ipAddress (ip : IpAddr)
  | dnsName (name : String)
deriving DecidableEq

/-- What the target is asked of: the resolver of the system, and the rules for server names. -/
structure Names where
  toSocketAddrs : String → UInt16 → Except String (List SocketAddr)
  tryFrom : String → Except String ServerName

/-- `str::parse::<u16>`, with the text that the error repeats. -/
def parsePort (raw : String) (text : List Char) : Except RemoteTargetError UInt16 :=
  match Text.parseUnsigned UInt16.size (String.ofList text) with
  | some port => .ok (.ofNat port)
  | none => .error (.invalidPort raw)

/-- An IPv6 target, behind the opening bracket. -/
def splitBracketed (input : String) (rest : List Char) : Except RemoteTargetError (String × UInt16) :=
  match rest.span (· != ']') with
  | (host, _ :: ':' :: text) => do
    let port ← parsePort input text
    return (String.ofList host, port)
  | _ => .error (.missingPort input)

/-- An IPv4 or DNS target, split on the last colon, which is the first one from the end. -/
def splitLast (input : String) (cs : List Char) : Except RemoteTargetError (String × UInt16) :=
  match cs.reverse.span (· != ':') with
  | (text, _ :: host) => do
    let port ← parsePort input text.reverse
    return (String.ofList host.reverse, port)
  | _ => .error (.missingPort input)

def splitHostPort (input : String) : Except RemoteTargetError (String × UInt16) :=
  match input.toList with
  | '[' :: rest => splitBracketed input rest
  | cs => splitLast input cs

/-- The address to connect to: the first answer of the resolver, unless the host is an address. -/
def connectAddr (names : Names) (host : String) (port : UInt16) : Except RemoteTargetError SocketAddr :=
  match IpAddr.parse host.toList with
  | some ip => .ok ⟨ip, port⟩
  | none =>
    match names.toSocketAddrs host port with
    | .error source => .error (.dnsLookupFailed host source)
    | .ok [] => .error (.dnsNoAddresses host)
    | .ok (first :: _) => .ok first

/-- The name for the handshake, from the host that was typed. -/
def serverName (names : Names) (host : String) : Except RemoteTargetError ServerName :=
  match IpAddr.parse host.toList with
  | some ip => .ok (.ipAddress ip)
  | none =>
    match names.tryFrom host with
    | .error message => .error (.invalidSni host message)
    | .ok name => .ok name

def parseRemoteTarget (names : Names) (input : String) :
    Except RemoteTargetError (SocketAddr × ServerName) := do
  let (host, port) ← splitHostPort input
  let socketAddr ← connectAddr names host port
  let name ← serverName names host
  return (socketAddr, name)

/-! ## Host and port -/

/-- A port is a number of 16 bits. -/
theorem parsePort_eq_ok_iff {raw : String} {text : List Char} {port : UInt16} :
    parsePort raw text = .ok port ↔ Text.parseUnsigned UInt16.size (String.ofList text) = some port.toNat := by
  unfold parsePort
  rw [Text.parseUnsigned_ofList]
  split_ifs with h
  · simp only [Except.ok.injEq, Option.some.injEq]
    constructor
    · rintro rfl
      exact (UInt16.toNat_ofNat_of_lt' h.2).symm
    · intro hport
      rw [hport, UInt16.ofNat_toNat]
  · exact iff_of_false nofun nofun

/-- A port is written in digits, after a plus sign or not. -/
theorem colon_notMem_of_parsePort {raw : String} {text : List Char} {port : UInt16}
    (h : parsePort raw text = .ok port) : ':' ∉ text := by
  rw [parsePort_eq_ok_iff, Text.parseUnsigned_ofList] at h
  split_ifs at h with hnumeral
  intro hmem
  have hdigits : ∀ c ∈ Text.stripPlus text, c.isDigit = true := List.all_eq_true.1 hnumeral.1.2
  unfold Text.stripPlus at hdigits
  split at hdigits
  · rcases List.mem_cons.1 hmem with hplus | hrest
    · cases hplus
    · exact absurd (hdigits ':' hrest) (by decide)
  · exact absurd (hdigits ':' hmem) (by decide)

theorem bind_parsePort {raw host : String} {text : List Char} {port : UInt16} {host' : String} :
    (do let port ← parsePort raw text; return (host', port) : Except RemoteTargetError (String × UInt16)) =
        .ok (host, port) ↔ host' = host ∧ parsePort raw text = .ok port := by
  cases hport : parsePort raw text with
  | error e => exact iff_of_false nofun fun h => by cases h.2
  | ok found =>
    show (Except.ok (host', found) : Except RemoteTargetError _) = _ ↔ _
    rw [Except.ok.injEq, Prod.mk.injEq, Except.ok.injEq]

/-- What does not occur is no element. -/
theorem bne_of_notMem {c : Char} {cs : List Char} (h : c ∉ cs) : ∀ x ∈ cs, (x != c) = true := by
  intro x hx
  rw [bne_iff_ne]
  rintro rfl
  exact h hx

/-- A bracketed host ends at the first closing bracket, with a colon and a port behind it. -/
theorem splitBracketed_eq_ok_iff {input host : String} {port : UInt16} {rest : List Char} :
    splitBracketed input rest = .ok (host, port) ↔ ∃ text, parsePort input text = .ok port ∧
      rest = host.toList ++ ']' :: ':' :: text ∧ ']' ∉ host.toList := by
  unfold splitBracketed
  constructor
  · intro h
    split at h
    case h_1 front close text hspan =>
      obtain ⟨hrest, hfront, hclose⟩ := Text.span_eq_iff.1 hspan
      obtain rfl : close = ']' := by simpa using hclose
      obtain ⟨rfl, hport⟩ := bind_parsePort.1 h
      rw [String.toList_ofList]
      exact ⟨text, hport, hrest, fun hmem => absurd (hfront _ hmem) (by decide)⟩
    case h_2 => cases h
  · rintro ⟨text, hport, hrest, hclosed⟩
    have hspan : rest.span (· != ']') = (host.toList, ']' :: ':' :: text) :=
      Text.span_eq_iff.2 ⟨hrest, bne_of_notMem hclosed, by decide⟩
    rw [hspan]
    exact bind_parsePort.2 ⟨String.ofList_toList, hport⟩

/-- Any other host ends at the last colon. -/
theorem splitLast_eq_ok_iff {input host : String} {port : UInt16} {cs : List Char} :
    splitLast input cs = .ok (host, port) ↔ ∃ text, parsePort input text = .ok port ∧
      cs = host.toList ++ ':' :: text := by
  unfold splitLast
  constructor
  · intro h
    split at h
    case h_1 text colon front hspan =>
      obtain ⟨hcs, -, hcolon⟩ := Text.span_eq_iff.1 hspan
      obtain rfl : colon = ':' := by simpa using hcolon
      obtain ⟨rfl, hport⟩ := bind_parsePort.1 h
      refine ⟨text.reverse, hport, ?_⟩
      rw [String.toList_ofList, ← List.reverse_reverse cs, hcs]
      simp
    case h_2 => cases h
  · rintro ⟨text, hport, rfl⟩
    -- A port holds no colon, so the one in front of it is the last of the text.
    have hspan : (host.toList ++ ':' :: text).reverse.span (· != ':') =
        (text.reverse, ':' :: host.toList.reverse) := by
      refine Text.span_eq_iff.2 ⟨by simp, bne_of_notMem fun hmem => ?_, by decide⟩
      exact colon_notMem_of_parsePort hport (List.mem_reverse.1 hmem)
    rw [hspan]
    dsimp only
    rw [List.reverse_reverse, List.reverse_reverse]
    exact bind_parsePort.2 ⟨String.ofList_toList, hport⟩

/-- Which of the two it is, the first character says. -/
theorem splitHostPort_plain {input : String} (h : input.toList.head? ≠ some '[') :
    splitHostPort input = splitLast input input.toList := by
  unfold splitHostPort
  split
  case h_1 rest hbracket => exact absurd (by rw [hbracket]; rfl) h
  case h_2 => rfl

/-- **What is accepted.** A host in brackets, with no closing bracket in it, or a host that does not begin
with a bracket, before a colon and a port. -/
theorem splitHostPort_eq_ok_iff {input host : String} {port : UInt16} :
    splitHostPort input = .ok (host, port) ↔ ∃ text, parsePort input text = .ok port ∧
      ((input.toList = '[' :: (host.toList ++ ']' :: ':' :: text) ∧ ']' ∉ host.toList) ∨
        (input.toList = host.toList ++ ':' :: text ∧ input.toList.head? ≠ some '[')) := by
  -- The opening bracket decides which of the two forms is read.
  by_cases hbracket : input.toList.head? = some '['
  · obtain ⟨rest, hrest⟩ := List.head?_eq_some_iff.1 hbracket
    have hsplit : splitHostPort input = splitBracketed input rest := by
      rw [splitHostPort, hrest]
      rfl
    rw [hsplit, splitBracketed_eq_ok_iff]
    refine exists_congr fun text => and_congr_right fun _ => ?_
    constructor
    · rintro ⟨rfl, hclosed⟩
      exact .inl ⟨hrest, hclosed⟩
    · rintro (⟨hinput, hclosed⟩ | ⟨-, hno⟩)
      · exact ⟨List.cons_inj_right _ |>.1 (hrest.symm.trans hinput), hclosed⟩
      · exact absurd hbracket hno
  · rw [splitHostPort_plain hbracket, splitLast_eq_ok_iff]
    refine exists_congr fun text => and_congr_right fun _ => ?_
    constructor
    · exact fun hinput => .inr ⟨hinput, hbracket⟩
    · rintro (⟨hinput, -⟩ | ⟨hinput, -⟩)
      · exact absurd (by rw [hinput]; rfl) hbracket
      · exact hinput

/-! ## Address and name -/

/-- A literal is the address, and any other host is looked up. -/
theorem connectAddr_eq_ok_iff {names : Names} {host : String} {port : UInt16} {addr : SocketAddr} :
    connectAddr names host port = .ok addr ↔
      (∃ ip, IpAddr.parse host.toList = some ip ∧ addr = ⟨ip, port⟩) ∨
        (IpAddr.parse host.toList = none ∧ ∃ rest, names.toSocketAddrs host port = .ok (addr :: rest)) := by
  unfold connectAddr
  cases IpAddr.parse host.toList with
  | some ip => simp [eq_comm]
  | none =>
    rcases names.toSocketAddrs host port with source | _ | ⟨first, rest⟩
    · simp
    · simp
    · simp [eq_comm]

/-- A literal is the name, and any other host is checked. -/
theorem serverName_eq_ok_iff {names : Names} {host : String} {name : ServerName} :
    serverName names host = .ok name ↔
      (∃ ip, IpAddr.parse host.toList = some ip ∧ name = .ipAddress ip) ∨
        (IpAddr.parse host.toList = none ∧ names.tryFrom host = .ok name) := by
  unfold serverName
  cases IpAddr.parse host.toList with
  | some ip => simp [eq_comm]
  | none =>
    rcases names.tryFrom host with message | found
    · simp
    · simp

/-- A target is taken when it splits and has both. -/
theorem parseRemoteTarget_eq_ok_iff {names : Names} {input : String} {addr : SocketAddr} {name : ServerName} :
    parseRemoteTarget names input = .ok (addr, name) ↔
      ∃ host port, splitHostPort input = .ok (host, port) ∧ connectAddr names host port = .ok addr ∧
        serverName names host = .ok name := by
  unfold parseRemoteTarget
  rcases splitHostPort input with e | ⟨host, port⟩
  · exact iff_of_false nofun fun ⟨host, port, h, _⟩ => by cases h
  · rcases haddr : connectAddr names host port with e | found
    · refine iff_of_false (fun h => ?_) fun ⟨host', port', h, haddr', _⟩ => ?_
      · simp [haddr, bind, Except.bind] at h
      · cases h
        rw [haddr] at haddr'
        cases haddr'
    · rcases hname : serverName names host with e | called
      · refine iff_of_false (fun h => ?_) fun ⟨host', port', h, _, hname'⟩ => ?_
        · simp [haddr, hname, bind, Except.bind] at h
        · cases h
          rw [hname] at hname'
          cases hname'
      · constructor
        · intro h
          simp [haddr, hname, bind, Except.bind, pure, Except.pure] at h
          obtain ⟨rfl, rfl⟩ := h
          exact ⟨host, port, rfl, haddr, hname⟩
        · rintro ⟨host', port', h, haddr', hname'⟩
          cases h
          rw [haddr] at haddr'
          rw [hname] at hname'
          cases haddr'
          cases hname'
          simp [haddr, hname, bind, Except.bind, pure, Except.pure]

/-- The text of a port, behind a host. -/
def portText (port : UInt16) : List Char := (toString port.toNat).toList

/-- The spelling of a port is read back. -/
theorem parsePort_portText (raw : String) (port : UInt16) : parsePort raw (portText port) = .ok port := by
  rw [parsePort_eq_ok_iff, portText, Text.parseUnsigned_numeral (Text.isNumeral_toString _),
    Text.ofDigits_toString, if_pos port.toNat_lt]

/-- An address is its own host: nobody is asked. -/
theorem parseRemoteTarget_of_literal (names : Names) {input : String} {cs : List Char} {ip : IpAddr}
    {port : UInt16} (hip : IpAddr.parse cs = some ip)
    (hsplit : splitHostPort input = .ok (String.ofList cs, port)) :
    parseRemoteTarget names input = .ok (⟨ip, port⟩, .ipAddress ip) := by
  have hhost : IpAddr.parse (String.ofList cs).toList = some ip := by rw [String.toList_ofList, hip]
  exact parseRemoteTarget_eq_ok_iff.2 ⟨_, port, hsplit, connectAddr_eq_ok_iff.2 (.inl ⟨ip, hhost, rfl⟩),
    serverName_eq_ok_iff.2 (.inl ⟨ip, hhost, rfl⟩)⟩

/-- A target by an address of version 4. -/
theorem target_v4 (names : Names) {cs : List Char} {octets : Vector UInt8 4} (port : UInt16)
    (hip : IpAddr.parse cs = some (.v4 octets)) :
    parseRemoteTarget names (String.ofList (cs ++ ':' :: portText port)) =
      .ok (⟨.v4 octets, port⟩, .ipAddress (.v4 octets)) := by
  refine parseRemoteTarget_of_literal names hip (splitHostPort_eq_ok_iff.2
    ⟨portText port, parsePort_portText _ _, .inr ⟨by rw [String.toList_ofList, String.toList_ofList], ?_⟩⟩)
  -- the text begins with a digit or a dot, or with the colon
  rw [String.toList_ofList]
  intro hbracket
  rcases cs with _ | ⟨c, cs⟩
  · cases hbracket
  · cases hbracket
    exact absurd (IpAddr.isV4Char_of_parse hip '[' List.mem_cons_self) (by decide)

/-- A target by an address of version 6, in brackets. -/
theorem target_v6 (names : Names) {cs : List Char} {groups : Vector UInt16 8} (port : UInt16)
    (hip : IpAddr.parse cs = some (.v6 groups)) :
    parseRemoteTarget names (String.ofList ('[' :: (cs ++ ']' :: ':' :: portText port))) =
      .ok (⟨.v6 groups, port⟩, .ipAddress (.v6 groups)) := by
  refine parseRemoteTarget_of_literal names hip (splitHostPort_eq_ok_iff.2
    ⟨portText port, parsePort_portText _ _, .inl ⟨by rw [String.toList_ofList, String.toList_ofList], ?_⟩⟩)
  rw [String.toList_ofList]
  intro hclose
  exact absurd (IpAddr.isV6Char_of_parse hip ']' hclose) (by decide)

/-- **Where a target leads, and whose certificate is accepted.** A target is accepted exactly if it is a host
and a port, the host in brackets or not, where the host is an address, which is then connected to and
checked for without asking anybody, or a name that the resolver finds and that may be checked for. The name
checked for comes from the text alone: with any other resolver it is the same. And every address, written in
any way, with a port behind it, is accepted. -/
theorem remote_target (names : Names) :
    (∀ input addr name, parseRemoteTarget names input = .ok (addr, name) ↔
      ∃ host port text, Text.parseUnsigned UInt16.size (String.ofList text) = some port.toNat ∧
        ((input.toList = '[' :: (host.toList ++ ']' :: ':' :: text) ∧ ']' ∉ host.toList) ∨
          (input.toList = host.toList ++ ':' :: text ∧ input.toList.head? ≠ some '[')) ∧
        ((∃ ip, IpAddr.parse host.toList = some ip ∧ addr = ⟨ip, port⟩ ∧ name = .ipAddress ip) ∨
          (IpAddr.parse host.toList = none ∧ (∃ rest, names.toSocketAddrs host port = .ok (addr :: rest)) ∧
            names.tryFrom host = .ok name))) ∧
      (∀ input addr addr' name name' lookup, parseRemoteTarget names input = .ok (addr, name) →
        parseRemoteTarget ⟨lookup, names.tryFrom⟩ input = .ok (addr', name') → name' = name) ∧
      ∀ cs port,
        (∀ octets, IpAddr.parse cs = some (.v4 octets) →
          parseRemoteTarget names (String.ofList (cs ++ ':' :: portText port)) =
            .ok (⟨.v4 octets, port⟩, .ipAddress (.v4 octets))) ∧
          ∀ groups, IpAddr.parse cs = some (.v6 groups) →
            parseRemoteTarget names (String.ofList ('[' :: (cs ++ ']' :: ':' :: portText port))) =
              .ok (⟨.v6 groups, port⟩, .ipAddress (.v6 groups)) := by
  refine ⟨fun input addr name => ?_, fun input addr addr' name name' lookup h h' => ?_,
    fun cs port => ⟨fun octets => target_v4 names port, fun groups => target_v6 names port⟩⟩
  · rw [parseRemoteTarget_eq_ok_iff]
    refine exists_congr fun host => exists_congr fun port => ?_
    rw [splitHostPort_eq_ok_iff, connectAddr_eq_ok_iff, serverName_eq_ok_iff]
    constructor
    · rintro ⟨⟨text, hport, hshape⟩, haddr, hname⟩
      refine ⟨text, parsePort_eq_ok_iff.1 hport, hshape, ?_⟩
      rcases haddr with ⟨ip, hip, haddr⟩ | ⟨hnone, haddr⟩
      · rcases hname with ⟨ip', hip', hname⟩ | ⟨hnone, -⟩
        · rw [hip] at hip'
          cases hip'
          exact .inl ⟨ip, hip, haddr, hname⟩
        · rw [hip] at hnone
          cases hnone
      · rcases hname with ⟨ip', hip', -⟩ | ⟨-, hname⟩
        · rw [hnone] at hip'
          cases hip'
        · exact .inr ⟨hnone, haddr, hname⟩
    · rintro ⟨text, hport, hshape, ⟨ip, hip, haddr, hname⟩ | ⟨hnone, haddr, hname⟩⟩
      · exact ⟨⟨text, parsePort_eq_ok_iff.2 hport, hshape⟩, .inl ⟨ip, hip, haddr⟩, .inl ⟨ip, hip, hname⟩⟩
      · exact ⟨⟨text, parsePort_eq_ok_iff.2 hport, hshape⟩, .inr ⟨hnone, haddr⟩, .inr ⟨hnone, hname⟩⟩
  · obtain ⟨host, port, hsplit, -, hname⟩ := parseRemoteTarget_eq_ok_iff.1 h
    obtain ⟨host', port', hsplit', -, hname'⟩ := parseRemoteTarget_eq_ok_iff.1 h'
    rw [hsplit] at hsplit'
    cases hsplit'
    -- The name is asked of the second collaborator only, whatever the lookup answers.
    have hsame : serverName ⟨lookup, names.tryFrom⟩ host = serverName names host := rfl
    rw [hsame, hname] at hname'
    cases hname'
    rfl

end Muxtop.Proto
