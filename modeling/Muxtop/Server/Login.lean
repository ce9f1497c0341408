import Muxtop.Foundation.Text
import Muxtop.Proto.Remote
import Muxtop.Proto.WireCodec
import Muxtop.Server.Session

/-!
# Logging in with a configured token

Reference: `muxtop-server/src/main.rs`, `src/main.rs`, `muxtop-proto/src/remote.rs`, `client.rs`.

Both command lines ask for a token of 16 bytes at least and set no upper bound. The server reads the
hello under its own cap, which counts the fields of the hello and not the token alone.
-/

namespace Muxtop.Server

open ByteStream Bincode Muxtop.Proto
open Bincode.Codec (utf8)

/-! ## The rules of the command lines -/

/-- Read a token from a file at a path, `none` where it cannot be read. -/
def readTokenFile (path : String) (raw : Option String) : Except String String :=
  match raw with
  | none => .error s!"failed to read --token-file {path}"
  | some raw =>
    let trimmed := Text.trim raw
    if trimmed.isEmpty then .error s!"--token-file {path} is empty after trimming whitespace"
    else if trimmed.utf8ByteSize < 16 then
      .error s!"--token-file {path} contains a {trimmed.utf8ByteSize}-char token; minimum is 16 characters"
    else .ok trimmed

/-- The token options of a command line; a file comes with what is read from it. -/
structure TokenArgs where
  tokenFile : Option (String × Option String)
  token : Option String
deriving DecidableEq, Repr

/-- The rules that the command lines share, with what each says when there is no token. -/
def tokenOf (required : String) (args : TokenArgs) : Except String String :=
  match args.tokenFile with
  | some (path, raw) => readTokenFile path raw
  | none =>
    match args.token with
    | some t =>
      if 16 ≤ t.utf8ByteSize then .ok t
      else if !t.isEmpty then
        .error (s!"Authentication token is too short ({t.utf8ByteSize} chars). " ++
          "Use at least 16 characters for security.")
      else .error required
    | none => .error required

/-- The token of the server. -/
def serverToken : TokenArgs → Except String String :=
  tokenOf ("Authentication token is required. Set --token <secret>, --token-file " ++
    "<path>, or the MUXTOP_TOKEN env var (minimum 16 characters).")

/-- The token of a client that connects to a server. -/
def clientToken : TokenArgs → Except String String :=
  tokenOf ("Authentication token is required for remote connections. " ++
    "Set --token <secret>, --token-file <path>, or the MUXTOP_TOKEN env var " ++
    "(minimum 16 characters).")

/-- Both command lines can be given the token. -/
def Configurable (token : String) : Prop :=
  (∃ args, serverToken args = .ok token) ∧ ∃ args, clientToken args = .ok token

/-- What passes the rules has 16 bytes at least. -/
theorem le_of_tokenOf {required token : String} {args : TokenArgs}
    (h : tokenOf required args = .ok token) : 16 ≤ token.utf8ByteSize := by
  unfold tokenOf at h
  split at h
  · unfold readTokenFile at h
    split at h
    · cases h
    · dsimp only at h
      split_ifs at h with hempty hshort
      rw [← Except.ok.inj h]
      exact Nat.not_lt.1 hshort
  · split at h
    · split_ifs at h with hlong
      rw [← Except.ok.inj h]
      exact hlong
    · cases h

/-- The options take any text of 16 bytes, however long it is. -/
theorem configurable_iff {token : String} : Configurable token ↔ 16 ≤ token.utf8ByteSize := by
  constructor
  · rintro ⟨⟨args, hserver⟩, -⟩
    exact le_of_tokenOf hserver
  · intro hlong
    exact ⟨⟨⟨none, some token⟩, if_pos hlong⟩, ⟨⟨none, some token⟩, if_pos hlong⟩⟩

/-! ## The hello -/

/-- `CARGO_PKG_VERSION` of the workspace. -/
def cargoPkgVersion : String := "0.7.0"

/-- The hello of a collector configured with a token. -/
def helloFrame (token : String) : Frame :=
  ⟨msgHello, helloFields.encode (cargoPkgVersion, some token)⟩

/-- A collector and a server configured with one token get past the handshake: the collector writes a
hello, and in whatever pieces it arrives, the server's first read accepts it, decodes it as a hello and
finds the tokens equal. -/
def LogsIn (layout : Layout) (token : String) : Prop :=
  ∃ hello : Frame,
    (∀ client : Client, client.sendHello layout ⟨cargoPkgVersion, some token⟩ none =
      { client with written := client.written ++ [hello], phase := .awaitingWelcome }) ∧
    ∀ (shared : SharedState) (received : Stream), shared.authToken = token →
      hello.encoded <+: received.bytes →
        (readFrameWithMaxPayload preAuthHelloMaxPayload received).1 = .ready (.ok (some hello)) ∧
          ∃ clientVersion provided,
            WireMessage.fromFrame layout hello = .ok (.hello clientVersion provided) ∧
              constantTimeEq (utf8 shared.authToken) (utf8 (provided.getD "")) = true

theorem length_utf8 (s : String) : (utf8 s).length = s.utf8ByteSize := rfl

theorem length_encode_string (s : String) :
    (Codec.string.encode s).length = (writeVarint s.utf8ByteSize).length + s.utf8ByteSize := by
  show (writeVarint (utf8 s).length ++ utf8 s).length = _
  rw [List.length_append, length_utf8]

/-- The version takes 6 bytes, the token 1, its length and its own. -/
theorem length_helloFrame (token : String) :
    (helloFrame token).payload.length =
      7 + (writeVarint token.utf8ByteSize).length + token.utf8ByteSize := by
  have hversion : (Codec.string.encode cargoPkgVersion).length = 6 := by decide
  show (Codec.string.encode cargoPkgVersion ++ (Codec.u8.encode 1 ++ Codec.string.encode token)).length = _
  have htag : (Codec.u8.encode 1).length = 1 := rfl
  rw [List.length_append, List.length_append, hversion, htag, length_encode_string]
  omega

/-- A hello is within the cap when its token is. -/
theorem length_helloFrame_le_iff {token : String} :
    (helloFrame token).payload.length ≤ preAuthHelloMaxPayload ↔ token.utf8ByteSize ≤ 4086 := by
  have hcap : preAuthHelloMaxPayload = 4096 := rfl
  rw [length_helloFrame, hcap]
  unfold writeVarint singleByteMax
  split_ifs <;> simp only [List.length_cons, List.length_nil, FixedWidth.length_leBytes] <;> omega

theorem toFrame_hello (layout : Layout) (token : String) :
    (WireMessage.hello cargoPkgVersion (some token)).toFrame layout = .ok (helloFrame token) := rfl

/-- A collector writes the hello of its token, where that fits in a frame. -/
theorem sendHello_eq {layout : Layout} {token : String} (hfits : (helloFrame token).Fits) (client : Client) :
    client.sendHello layout ⟨cargoPkgVersion, some token⟩ none =
      { client with
        written := client.written ++ [helloFrame token]
        phase := .awaitingWelcome } := by
  have hwrite : writeFrame (helloFrame token) none client.written =
      (.ok (), client.written ++ [helloFrame token]) := by
    rw [writeFrame, encodeFrame_eq_ok_iff.2 ⟨hfits, rfl⟩]
  unfold Client.sendHello
  rw [toFrame_hello]
  dsimp only
  rw [hwrite]

/-- What it then awaits the answer to is that hello. -/
theorem eq_helloFrame_of_sendHello {layout : Layout} {token : String} {client : Client} {hello : Frame}
    (h : client.sendHello layout ⟨cargoPkgVersion, some token⟩ none =
      { client with written := client.written ++ [hello], phase := .awaitingWelcome }) :
    hello = helloFrame token := by
  by_cases hfits : (helloFrame token).Fits
  · rw [sendHello_eq hfits] at h
    have hwritten := congrArg Client.written h
    simpa using hwritten.symm
  · unfold Client.sendHello at h
    rw [toFrame_hello] at h
    dsimp only at h
    split at h
    · cases congrArg Client.phase h
    next written hwrite =>
      unfold writeFrame at hwrite
      split at hwrite
      · cases hwrite
      next bytes hbytes => exact absurd (encodeFrame_eq_ok_iff.1 hbytes).1 hfits

/-- Bytes that arrive one by one. -/
theorem joined_singles (bytes : List UInt8) : joined (bytes.map (⟨·, []⟩)) = bytes := by
  induction bytes with
  | nil => rfl
  | cons b bytes ih => rw [List.map_cons, joined_cons, ih]; rfl

/-- The hello claims as many bytes as it carries, and a few. -/
theorem peak_helloFields (version token : String) :
    helloFields.peak (version, some token) = 17 + version.utf8ByteSize + token.utf8ByteSize := by
  show max (8 + (utf8 version).length) (8 + (utf8 version).length +
    max 1 (1 + (8 + (utf8 token).length))) = _
  simp only [length_utf8]
  omega

/-- A hello that fits in a frame is decoded as such. -/
theorem fromFrame_helloFrame {layout : Layout} {token : String} (hlong : token.utf8ByteSize ≤ 4086) :
    WireMessage.fromFrame layout (helloFrame token) = .ok (.hello cargoPkgVersion (some token)) := by
  have hlen := length_helloFrame_le_iff.2 hlong
  have hcap : preAuthHelloMaxPayload = 4096 := rfl
  obtain ⟨htype, hspelled⟩ := spelled_of_toFrame (toFrame_hello layout token) (by omega)
  have hpeak : helloFields.peak (cargoPkgVersion, some token) ≤ maxDecodeBytes := by
    have hlimit : maxDecodeBytes = 4194304 := by decide
    have hversion : cargoPkgVersion.utf8ByteSize = 5 := by decide
    rw [peak_helloFields, hlimit, hversion]
    omega
  refine fromFrame_eq_ok_iff.2 ⟨htype, _, [], hspelled, (List.append_nil _).symm, hpeak⟩

/-- A hello gets through when it is within the cap. -/
theorem logsIn_iff_le {layout : Layout} {token : String} :
    LogsIn layout token ↔ token.utf8ByteSize ≤ 4086 := by
  constructor
  · rintro ⟨hello, hsend, hread⟩
    obtain rfl := eq_helloFrame_of_sendHello (hsend (.start ⟨0, [], false⟩))
    let received : Stream := ⟨(helloFrame token).encoded.map (⟨·, []⟩), .pending⟩
    have hbytes : received.bytes = (helloFrame token).encoded := joined_singles _
    have hread' := (hread ⟨token, "", "", 0⟩ received rfl (hbytes ▸ List.prefix_rfl)).1
    exact length_helloFrame_le_iff.1 (readFrame_eq_some_iff.1 hread').2.1
  · intro hlong
    have hlen := length_helloFrame_le_iff.2 hlong
    have hfits : (helloFrame token).Fits := by
      have hmax := toNat_maxFrameSize
      have hcap : preAuthHelloMaxPayload = 4096 := rfl
      unfold Frame.Fits
      omega
    refine ⟨helloFrame token, sendHello_eq hfits, ?_⟩
    rintro shared received rfl hbytes
    exact ⟨readFrame_eq_some_iff.2 ⟨hfits, hlen, hbytes⟩, _, _, fromFrame_helloFrame hlong,
      constantTimeEq_eq_true.2 rfl⟩

/-- **Which tokens log in.** The command lines take every token of 16 bytes or more. A collector and a
server configured with one get past the handshake if and only if it has 4086 bytes at most: its hello is
longer than the token by the version, and the server reads no longer one than the cap. -/
theorem logsIn_iff (layout : Layout) (token : String) :
    (Configurable token ↔ 16 ≤ token.utf8ByteSize) ∧
      (LogsIn layout token ↔ token.utf8ByteSize ≤ 4086) :=
  ⟨configurable_iff, logsIn_iff_le⟩

/-- ASCII text has one byte for each character. -/
theorem utf8ByteSize_replicate {c : Char} (hc : c.toNat < 128) (n : ℕ) :
    (String.ofList (List.replicate n c)).utf8ByteSize = n := by
  have hascii : ∀ d ∈ (String.ofList (List.replicate n c)).toList, d.toNat < 128 := by
    intro d hd
    rw [String.toList_ofList] at hd
    rw [List.eq_of_mem_replicate hd]
    exact hc
  have hbytes := congrArg List.length (Text.bytes_of_ascii hascii)
  rw [List.length_map, String.toList_ofList, List.length_replicate] at hbytes
  exact hbytes

/-- A token of 4087 bytes is configured on both sides, and never logs in. -/
theorem not_logsIn_long :
    ¬ ∀ (layout : Layout) (token : String), Configurable token → LogsIn layout token := by
  intro h
  have hsize := utf8ByteSize_replicate (c := 'a') (by decide) 4087
  have hlogs := h .x86_64 _ (configurable_iff.2 (by rw [hsize]; decide))
  rw [logsIn_iff_le, hsize] at hlogs
  exact absurd hlogs (by decide)

end Muxtop.Server
