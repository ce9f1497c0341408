import Muxtop.Proto.FrameCodec
import Muxtop.Server.Client

/-!
# Nothing is disclosed before authentication

The invariant of a session: while the hello is awaited nothing has been written, and a session that
streams, or has written anything but the refusal, has read the token. It is preserved by every event,
so it holds after every list of them.
-/

namespace Muxtop.Server

open ByteStream Muxtop.Proto
open Bincode.Codec (utf8)

/-! ## The comparison of tokens -/

/-- An accumulated `or` is zero when everything that went into it is. -/
theorem foldl_or_eq_zero (f : ℕ → UInt8) : (l : List ℕ) → (diff : UInt8) →
    (l.foldl (fun diff i => diff ||| f i) diff = 0 ↔ diff = 0 ∧ ∀ i ∈ l, f i = 0)
  | [], diff => by simp
  | i :: l, diff => by
      rw [List.foldl_cons, foldl_or_eq_zero f l, UInt8.or_eq_zero_iff, List.forall_mem_cons, and_assoc]

/-- The comparison of tokens is equality, also for slices that differ by trailing zeros. -/
theorem constantTimeEq_eq_true {a b : List UInt8} : constantTimeEq a b = true ↔ a = b := by
  simp only [constantTimeEq, Bool.and_eq_true, beq_iff_eq, foldl_or_eq_zero, true_and,
    UInt8.xor_eq_zero_iff, List.mem_range]
  constructor
  · rintro ⟨hbytes, hlen⟩
    refine List.ext_getElem hlen fun i hi hi' => ?_
    have h := hbytes i (lt_max_of_lt_left hi)
    simpa [hi, hi'] using h
  · rintro rfl
    exact ⟨fun _ _ => rfl, rfl⟩

/-! ## The invariant -/

variable (layout : Layout) (shared : SharedState)

/-- The first frame of the stream, under the pre-authentication cap, is a hello with the token. -/
def Authenticated (received : Stream) : Prop :=
  ∃ frame clientVersion authToken,
    (readFrameWithMaxPayload preAuthHelloMaxPayload received).1 = .ready (.ok (some frame)) ∧
      WireMessage.fromFrame layout frame = .ok (.hello clientVersion authToken) ∧
      utf8 (authToken.getD "") = utf8 shared.authToken

/-- The frame that refuses a peer. -/
def unauthorizedFrame : Frame := ⟨msgError, errorFields.encode (401, "unauthorized")⟩

/-- What a session looks like at any time. -/
inductive SessionInv : Session → Prop
  | awaiting (received : Stream) : SessionInv ⟨.handshake, received, []⟩
  | authenticated (phase : Phase) (received : Stream) (written : List Frame)
      (hphase : phase ≠ .handshake) (h : Authenticated layout shared received) :
      SessionInv ⟨phase, received, written⟩
  | failed (e : ServerError) (received : Stream) : SessionInv ⟨.returned (.error e), received, []⟩
  | refused (received : Stream) :
      SessionInv ⟨.returned (.error .unauthorized), received, [unauthorizedFrame]⟩

variable {layout shared}

/-- The refusal fits in a frame. -/
theorem writeFrame_unauthorized (fault : Option ErrorKind) :
    (writeFrame unauthorizedFrame fault []).2 = [unauthorizedFrame] := by
  have hfits : unauthorizedFrame.Fits := by
    unfold Frame.Fits
    decide
  simp only [writeFrame, encodeFrame_eq_ok_iff.mpr ⟨hfits, rfl⟩]
  cases fault with
  | none => rfl
  | some e => rfl

/-- Sending leaves the stream alone, and ends in the next phase or in an error. -/
theorem sendMessage_spec (layout : Layout) (message : WireMessage) (fault : Option ErrorKind) (next : Phase)
    (s : Session) :
    (sendMessage layout message fault next s).received = s.received ∧
      ((sendMessage layout message fault next s).phase = next ∨
        ∃ e, (sendMessage layout message fault next s).phase = .returned (.error e)) := by
  unfold sendMessage
  split
  · exact ⟨rfl, Or.inr ⟨_, rfl⟩⟩
  split
  · exact ⟨rfl, Or.inr ⟨_, rfl⟩⟩
  · exact ⟨rfl, Or.inl rfl⟩

/-- A session that is past its handshake and authenticated. -/
theorem SessionInv.of_authenticated {s : Session} (h : Authenticated layout shared s.received)
    (hphase : s.phase ≠ .handshake) : SessionInv layout shared s :=
  .authenticated s.phase s.received s.written hphase h

/-- An authenticated session stays so when it sends a message. -/
theorem sendMessage_inv {message : WireMessage} {fault : Option ErrorKind} {s : Session}
    (h : Authenticated layout shared s.received) :
    SessionInv layout shared (sendMessage layout message fault .streaming s) := by
  obtain ⟨hreceived, hphase⟩ := sendMessage_spec layout message fault .streaming s
  refine .of_authenticated (hreceived ▸ h) ?_
  rcases hphase with hphase | ⟨e, hphase⟩
  · rw [hphase]
    exact nofun
  · rw [hphase]
    exact nofun

/-- Judging the frame that was read: nothing is sent to a peer without the token but the refusal. -/
theorem judgeHello_inv {helloFrame : Frame} {received : Stream} (fault : Option ErrorKind)
    (hread : (readFrameWithMaxPayload preAuthHelloMaxPayload received).1 =
      .ready (.ok (some helloFrame))) :
    SessionInv layout shared
      (judgeHello layout shared helloFrame fault ⟨.handshake, received, []⟩) := by
  unfold judgeHello
  split
  · exact .failed _ _
  · next clientVersion authToken hhello =>
    simp only
    cases htoken : constantTimeEq (utf8 shared.authToken) (utf8 (authToken.getD "")) with
    | false =>
        show SessionInv layout shared ⟨_, _, (writeFrame unauthorizedFrame fault []).2⟩
        rw [writeFrame_unauthorized]
        exact .refused received
    | true =>
        -- the frame that was read is the hello the invariant asks for
        have h : Authenticated layout shared received :=
          ⟨helloFrame, clientVersion, authToken, hread, hhello,
            (constantTimeEq_eq_true.mp htoken).symm⟩
        simp only [Bool.not_true, Bool.false_eq_true, if_false]
        exact sendMessage_inv h
  · exact .failed _ _

/-- The hello is judged when all of it has arrived. -/
theorem pollHello_inv (fault : Option ErrorKind) (received : Stream) :
    SessionInv layout shared (pollHello layout shared fault ⟨.handshake, received, []⟩) := by
  unfold pollHello
  split
  · exact .awaiting received
  · exact .failed _ _
  · exact .failed _ _
  · next helloFrame hread => exact judgeHello_inv fault hread

/-- Any event of the handshake. -/
theorem handshakeStep_inv (received : Stream) (event : Event) :
    SessionInv layout shared (handshakeStep layout shared ⟨.handshake, received, []⟩ event) := by
  cases event with
  | arrived piece fault => exact pollHello_inv fault _
  | ended ending fault => exact pollHello_inv fault _
  | handshakeTimeout => exact .failed _ _
  | received result fault => exact .awaiting received
  | heartbeatTick uptimeSecs fault => exact .awaiting received
  | cancelled => exact .awaiting received

/-- Any event of the stream. -/
theorem streamingStep_inv {s : Session} (hphase : s.phase = .streaming)
    (h : Authenticated layout shared s.received) (event : Event) :
    SessionInv layout shared (streamingStep layout shared s event) := by
  have hstay : s.phase ≠ .handshake := by rw [hphase]; exact nofun
  cases event with
  | arrived piece fault => exact .of_authenticated h hstay
  | ended ending fault => exact .of_authenticated h hstay
  | handshakeTimeout => exact .of_authenticated h hstay
  | received result fault =>
      cases result with
      | frame frame =>
          simp only [streamingStep]
          split
          · exact .of_authenticated h nofun
          · exact .of_authenticated h hstay
      | lagged skipped => exact .of_authenticated h hstay
      | closed => exact .of_authenticated h nofun
  | heartbeatTick uptimeSecs fault =>
      rw [streamingStep]
      exact sendMessage_inv h
  | cancelled => exact .of_authenticated h nofun

/-- Every event preserves the invariant. -/
theorem sessionStep_inv {s : Session} (h : SessionInv layout shared s) (event : Event) :
    SessionInv layout shared (sessionStep layout shared s event) := by
  cases h with
  | awaiting received => exact handshakeStep_inv received event
  | authenticated phase received written hphase h =>
      cases phase with
      | handshake => exact absurd rfl hphase
      | streaming => exact streamingStep_inv rfl h event
      | returned result => exact .authenticated _ _ _ hphase h
  | failed e received => exact .failed e received
  | refused received => exact .refused received

/-- So the invariant holds of every session. -/
theorem handle_inv (events : List Event) : SessionInv layout shared (handle layout shared events) := by
  have hstart : SessionInv layout shared Session.start := .awaiting _
  unfold handle
  exact Runs.run_invariant (I := SessionInv layout shared) (fun _ event h => sessionStep_inv h event)
    events hstart

/-! ## The handshake ends -/

/-- Once the hello is no longer awaited, it is not awaited again. -/
theorem sessionStep_phase_ne (s : Session) (event : Event) (h : s.phase ≠ .handshake) :
    (sessionStep layout shared s event).phase ≠ .handshake := by
  unfold sessionStep
  split
  · next hphase => exact absurd hphase h
  · cases event with
    | received result fault =>
        cases result with
        | frame frame =>
            simp only [streamingStep]
            split
            · exact nofun
            · exact h
        | lagged skipped => exact h
        | closed => exact nofun
    | heartbeatTick uptimeSecs fault =>
        -- A heartbeat that cannot be written returns, it does not go back to the handshake.
        obtain ⟨-, hphase | ⟨e, hphase⟩⟩ := sendMessage_spec layout
          (.heartbeat shared.serverVersion uptimeSecs) fault .streaming s
        · simp only [streamingStep, hphase]
          exact nofun
        · simp only [streamingStep, hphase]
          exact nofun
    | cancelled => exact nofun
    | arrived piece fault => exact h
    | ended ending fault => exact h
    | handshakeTimeout => exact h
  · exact h

/-- A timeout ends the handshake. -/
theorem sessionStep_handshakeTimeout (s : Session) :
    (sessionStep layout shared s .handshakeTimeout).phase ≠ .handshake := by
  by_cases h : s.phase = .handshake
  · rw [sessionStep, h]
    exact nofun
  · exact sessionStep_phase_ne s _ h

/-! ## Authentication safety -/

/-- For every list of events: a session that has written a frame other than the refusal has read a
hello with the token first. In every other run it has written nothing or only the refusal, and it is
still awaiting the hello, which the timeout ends, or has returned an error. -/
theorem handle_authenticated (layout : Layout) (shared : SharedState) (events : List Event) :
    (∀ a b : List UInt8, constantTimeEq a b = true ↔ a = b) ∧
    (∀ frame ∈ (handle layout shared events).written,
      frame.msgType = msgWelcome ∨ frame.msgType = msgSnapshot ∨ frame.msgType = msgHeartbeat →
        Authenticated layout shared (handle layout shared events).received) ∧
    (¬Authenticated layout shared (handle layout shared events).received →
      ((handle layout shared events).written = [] ∨
        (handle layout shared events).written = [unauthorizedFrame]) ∧
      ((handle layout shared events).phase = .handshake ∧
          (handle layout shared events).written = [] ∨
        ∃ e, (handle layout shared events).phase = .returned (.error e)) ∧
      (.handshakeTimeout ∈ events →
        ∃ e, (handle layout shared events).phase = .returned (.error e))) := by
  have hended : .handshakeTimeout ∈ events → (handle layout shared events).phase ≠ .handshake :=
    fun hmem => Runs.run_of_mem (Q := fun s : Session => s.phase ≠ .handshake) sessionStep_phase_ne
      sessionStep_handshakeTimeout hmem _
  have hinv : SessionInv layout shared (handle layout shared events) := handle_inv events
  refine ⟨fun a b => constantTimeEq_eq_true, ?_⟩
  generalize handle layout shared events = s at hended hinv ⊢
  cases hinv with
  | awaiting received =>
      exact ⟨nofun, fun _ => ⟨Or.inl rfl, Or.inl ⟨rfl, rfl⟩, fun hmem => absurd rfl (hended hmem)⟩⟩
  | authenticated phase received written hphase h =>
      exact ⟨fun _ _ _ => h, fun hnot => absurd h hnot⟩
  | failed e received =>
      exact ⟨nofun, fun _ => ⟨Or.inl rfl, Or.inr ⟨e, rfl⟩, fun _ => ⟨e, rfl⟩⟩⟩
  | refused received =>
      refine ⟨fun frame hframe htype => ?_, fun _ => ⟨Or.inr rfl, Or.inr ⟨_, rfl⟩, fun _ => ⟨_, rfl⟩⟩⟩
      obtain rfl := List.mem_singleton.mp hframe
      exact absurd htype (by decide)

end Muxtop.Server
