import Muxtop.Server.AcceptLoop
import Muxtop.Server.Session

/-!
# What a session writes

A session writes its Welcome first, and after it frames from the broadcast channel, in the order of the
channel, between heartbeats. `ChannelInv` keeps this for every task of the server, against what the
channel has sent since the task subscribed.
-/

namespace Muxtop.Server

open ByteStream Muxtop.Core Muxtop.Proto

variable (layout : Layout) (config : ServerConfig)

/-- The frame that welcomes a peer. -/
def welcomeFrame (shared : SharedState) : Frame :=
  ⟨msgWelcome, welcomeFields.encode (shared.serverVersion, shared.hostname, shared.refreshHz)⟩

/-- The frame carries a snapshot. -/
def isSnapshot (frame : Frame) : Bool := frame.msgType = msgSnapshot

/-- What a session has written, the snapshots in it coming from what its receiver was `given`. -/
structure Wrote (shared : SharedState) (given : List Frame) (session : Session) : Prop where
  fits : ∀ frame ∈ session.written, frame.Fits
  snapshots : (session.written.filter isSnapshot).Sublist given
  handshake : session.phase = .handshake → session.written = []
  opens : session.written = [] ∨ session.written = [unauthorizedFrame] ∨
    ∃ rest, session.written = welcomeFrame shared :: rest
  streaming : session.phase = .streaming → ∃ rest, session.written = welcomeFrame shared :: rest

variable {layout config}

/-- At the start nothing is written. -/
theorem Wrote.start (shared : SharedState) (given : List Frame) : Wrote shared given Session.start where
  fits := nofun
  snapshots := List.nil_sublist _
  handshake := fun _ => rfl
  opens := Or.inl rfl
  streaming := nofun

/-- More may be given. -/
theorem Wrote.mono {shared : SharedState} {given given' : List Frame} {session : Session}
    (h : Wrote shared given session) (hmore : given.Sublist given') : Wrote shared given' session :=
  ⟨h.fits, h.snapshots.trans hmore, h.handshake, h.opens, h.streaming⟩

/-- Nothing is written and the phase does not change, or the session returns. -/
theorem Wrote.of_same {shared : SharedState} {given : List Frame} {session session' : Session}
    (h : Wrote shared given session) (hwritten : session'.written = session.written)
    (hphase : session'.phase = session.phase ∨ ∃ result, session'.phase = .returned result) :
    Wrote shared given session' := by
  refine ⟨hwritten ▸ h.fits, hwritten ▸ h.snapshots, ?_, hwritten ▸ h.opens, ?_⟩
  · rw [hwritten]
    rcases hphase with hphase | ⟨result, hphase⟩ <;> rw [hphase]
    · exact h.handshake
    · exact nofun
  · rw [hwritten]
    rcases hphase with hphase | ⟨result, hphase⟩ <;> rw [hphase]
    · exact h.streaming
    · exact nofun

/-- What has been received does not matter. -/
theorem Wrote.withReceived {shared : SharedState} {given : List Frame} {session : Session}
    (h : Wrote shared given session) (received : Stream) :
    Wrote shared given { session with received := received } := h.of_same rfl (Or.inl rfl)

/-- A streaming session writes a frame that is no snapshot, or the next one it is given. -/
theorem Wrote.concat {shared : SharedState} {given given' : List Frame} {session session' : Session}
    {frame : Frame} (h : Wrote shared given session) (hstreaming : session.phase = .streaming)
    (hfits : frame.Fits) (hwritten : session'.written = session.written ++ [frame])
    (hphase : session'.phase ≠ .handshake)
    (hgiven : ((session.written ++ [frame]).filter isSnapshot).Sublist given') :
    Wrote shared given' session' := by
  obtain ⟨rest, hrest⟩ := h.streaming hstreaming
  have hopens : session'.written = welcomeFrame shared :: (rest ++ [frame]) := by
    rw [hwritten, hrest, List.cons_append]
  refine ⟨?_, hwritten ▸ hgiven, fun hp => absurd hp hphase, Or.inr (Or.inr ⟨_, hopens⟩),
    fun _ => ⟨_, hopens⟩⟩
  rw [hwritten]
  intro f hf
  rcases List.mem_append.1 hf with hf | hf
  · exact h.fits f hf
  · rw [List.mem_singleton.1 hf]
    exact hfits

/-- What a write does: nothing when the frame exceeds the cap, and otherwise it hands the frame on. -/
theorem writeFrame_cases (frame : Frame) (fault : Option ErrorKind) (written : List Frame) :
    (∃ e, writeFrame frame fault written = (.error e, written)) ∨
      frame.Fits ∧ ∃ result, writeFrame frame fault written = (result, written ++ [frame]) := by
  unfold writeFrame
  cases hencode : encodeFrame frame with
  | error e => exact Or.inl ⟨e, rfl⟩
  | ok bytes =>
      refine Or.inr ⟨(encodeFrame_eq_ok_iff.1 hencode).1, ?_⟩
      cases fault with
      | none => exact ⟨_, rfl⟩
      | some e => exact ⟨_, rfl⟩

/-- Sending writes the message's frame or nothing, and ends in the next phase or in a result. -/
theorem sendMessage_cases {message : WireMessage} {frame : Frame}
    (hframe : message.toFrame layout = .ok frame) (fault : Option ErrorKind) (next : Phase)
    (session : Session) :
    ((sendMessage layout message fault next session).written = session.written ∧
        ∃ e, (sendMessage layout message fault next session).phase = .returned (.error e)) ∨
      frame.Fits ∧
        (sendMessage layout message fault next session).written = session.written ++ [frame] ∧
        ((sendMessage layout message fault next session).phase = next ∨
          ∃ e, (sendMessage layout message fault next session).phase = .returned (.error e)) := by
  unfold sendMessage
  rw [hframe]
  rcases writeFrame_cases frame fault session.written with ⟨e, hwrite⟩ | ⟨hfits, result, hwrite⟩
  · refine Or.inl ?_
    simp only [hwrite, true_and]
    exact ⟨_, rfl⟩
  · refine Or.inr ⟨hfits, ?_⟩
    cases result with
    | error e =>
        simp only [hwrite, true_and]
        exact Or.inr ⟨_, rfl⟩
    | ok _ =>
        simp only [hwrite, true_and]
        exact Or.inl trivial

/-- The answer to the hello is written before any frame that is given. -/
theorem Wrote.judgeHello {shared : SharedState} {given : List Frame} {session : Session}
    (h : Wrote shared given session) (hphase : session.phase = .handshake) (helloFrame : Frame)
    (fault : Option ErrorKind) : Wrote shared given (judgeHello layout shared helloFrame fault session) := by
  have hnothing := h.handshake hphase
  unfold Server.judgeHello
  split
  · exact h.of_same rfl (Or.inr ⟨_, rfl⟩)
  · simp only
    split
    case isTrue =>
      -- the refusal is all that is written
      have hwritten : (refuse layout fault session).written = [unauthorizedFrame] := by
        show (writeFrame unauthorizedFrame fault session.written).2 = _
        rw [hnothing, writeFrame_unauthorized]
      refine ⟨?_, ?_, nofun, Or.inr (Or.inl hwritten), nofun⟩
      · rw [hwritten]
        intro f hf
        rw [List.mem_singleton.1 hf]
        unfold Frame.Fits
        decide
      · rw [hwritten, List.filter_cons_of_neg (by decide), List.filter_nil]
        exact List.nil_sublist _
    case isFalse =>
      have hframe : (WireMessage.welcome shared.serverVersion shared.hostname
        shared.refreshHz).toFrame layout = .ok (welcomeFrame shared) := rfl
      rcases sendMessage_cases hframe fault .streaming session with
        ⟨hwritten, hreturned⟩ | ⟨hfits, hwritten, hnext⟩
      · obtain ⟨e, hreturned⟩ := hreturned
        exact h.of_same hwritten (Or.inr ⟨_, hreturned⟩)
      · rw [hnothing, List.nil_append] at hwritten
        refine ⟨?_, ?_, ?_, Or.inr (Or.inr ⟨[], hwritten⟩), fun _ => ⟨[], hwritten⟩⟩
        · rw [hwritten]
          intro f hf
          rw [List.mem_singleton.1 hf]
          exact hfits
        · have hother : ¬ isSnapshot (welcomeFrame shared) = true := Bool.false_ne_true
          rw [hwritten, List.filter_cons_of_neg hother, List.filter_nil]
          exact List.nil_sublist _
        · rcases hnext with hnext | ⟨e, hnext⟩ <;> rw [hnext] <;> exact nofun
  · exact h.of_same rfl (Or.inr ⟨_, rfl⟩)

/-- So it is when the hello is still awaited. -/
theorem Wrote.pollHello {shared : SharedState} {given : List Frame} {session : Session}
    (h : Wrote shared given session) (hphase : session.phase = .handshake)
    (fault : Option ErrorKind) : Wrote shared given (pollHello layout shared fault session) := by
  unfold Server.pollHello
  split
  · exact h
  · exact h.of_same rfl (Or.inr ⟨_, rfl⟩)
  · exact h.of_same rfl (Or.inr ⟨_, rfl⟩)
  · exact h.judgeHello hphase _ fault

/-- An event that does not come from the channel keeps what a session has written in order. -/
theorem Wrote.ofPeer {shared : SharedState} {given : List Frame} {session : Session} {event : Event}
    {cancelled : Bool} (h : Wrote shared given session) (hpeer : event.ofPeer cancelled = true) :
    Wrote shared given (sessionStep layout shared session event) := by
  unfold sessionStep
  split
  case h_1 hphase =>
    cases event with
    | arrived piece fault =>
        exact Wrote.pollHello (h.withReceived { session.received with
          pieces := session.received.pieces ++ [piece] }) hphase fault
    | ended ending fault =>
        exact Wrote.pollHello (h.withReceived { session.received with ending := ending }) hphase fault
    | handshakeTimeout => exact h.of_same rfl (Or.inr ⟨_, rfl⟩)
    | received result fault => cases hpeer
    | heartbeatTick uptimeSecs fault => exact h
    | cancelled => exact h
  case h_2 hphase =>
    cases event with
    | arrived piece fault => exact h
    | ended ending fault => exact h
    | handshakeTimeout => exact h
    | received result fault => cases hpeer
    | heartbeatTick uptimeSecs fault =>
        have hframe : (WireMessage.heartbeat shared.serverVersion uptimeSecs).toFrame layout =
          .ok ⟨msgHeartbeat, heartbeatFields.encode (shared.serverVersion, uptimeSecs)⟩ := rfl
        simp only [streamingStep]
        rcases sendMessage_cases hframe fault .streaming session with
          ⟨hwritten, e, hreturned⟩ | ⟨hfits, hwritten, hnext⟩
        · exact h.of_same hwritten (Or.inr ⟨_, hreturned⟩)
        · refine h.concat hphase hfits hwritten ?_ ?_
          · rcases hnext with hnext | ⟨e, hnext⟩ <;> rw [hnext] <;> intro hp <;> cases hp
          · rw [List.filter_append, List.filter_cons_of_neg Bool.false_ne_true, List.filter_nil,
              List.append_nil]
            exact h.snapshots
    | cancelled => exact h.of_same rfl (Or.inr ⟨_, rfl⟩)
  case h_3 => exact h

/-- A frame that the channel gives a streaming session is written behind the others. -/
theorem Wrote.frame {shared : SharedState} {given : List Frame} {session : Session} {frame : Frame}
    (h : Wrote shared given session) (hphase : session.phase = .streaming)
    (fault : Option ErrorKind) :
    Wrote shared (given ++ [frame])
      (sessionStep layout shared session (.received (.frame frame) fault)) := by
  have hsnapshots : ((session.written ++ [frame]).filter isSnapshot).Sublist (given ++ [frame]) := by
    rw [List.filter_append]
    exact h.snapshots.append List.filter_sublist
  simp only [sessionStep, hphase, streamingStep]
  rcases writeFrame_cases frame fault session.written with ⟨e, hwrite⟩ | ⟨hfits, result, hwrite⟩
  · simp only [hwrite]
    refine Wrote.mono ?_ (List.sublist_append_left _ _)
    exact h.of_same rfl (Or.inr ⟨_, rfl⟩)
  · cases result with
    | error e =>
        simp only [hwrite]
        exact h.concat hphase hfits rfl (fun hp => by cases hp) hsnapshots
    | ok _ =>
        simp only [hwrite]
        exact h.concat hphase hfits rfl (fun hp => by cases hp) hsnapshots

/-- A session that is told that it lagged, or that the channel is closed, writes nothing. -/
theorem Wrote.quiet {shared : SharedState} {given : List Frame} {session : Session}
    (h : Wrote shared given session) (hphase : session.phase = .streaming) {result : Recv}
    (hquiet : ∀ frame, result ≠ .frame frame) (fault : Option ErrorKind) :
    Wrote shared given (sessionStep layout shared session (.received result fault)) := by
  simp only [sessionStep, hphase]
  cases result with
  | frame frame => exact absurd rfl (hquiet frame)
  | lagged skipped => exact h
  | closed => exact h.of_same rfl (Or.inr ⟨_, rfl⟩)

/-! ## The frames only grow -/

/-- A write adds to what is written. -/
theorem prefix_writeFrame (frame : Frame) (fault : Option ErrorKind) (written : List Frame) :
    written <+: (writeFrame frame fault written).2 := by
  rcases writeFrame_cases frame fault written with ⟨e, hwrite⟩ | ⟨-, result, hwrite⟩
  · exact ⟨[], by rw [hwrite, List.append_nil]⟩
  · rw [hwrite]
    exact List.prefix_append _ _

/-- So does a message. -/
theorem prefix_sendMessage {message : WireMessage} {frame : Frame}
    (hframe : message.toFrame layout = .ok frame) (fault : Option ErrorKind) (next : Phase)
    (session : Session) :
    session.written <+: (sendMessage layout message fault next session).written := by
  rcases sendMessage_cases hframe fault next session with ⟨hwritten, -⟩ | ⟨-, hwritten, -⟩
  · exact ⟨[], by rw [hwritten, List.append_nil]⟩
  · rw [hwritten]
    exact List.prefix_append _ _

/-- So does a poll of the hello. -/
theorem prefix_pollHello (shared : SharedState) (session : Session) (fault : Option ErrorKind) :
    session.written <+: (pollHello layout shared fault session).written := by
  unfold pollHello
  split
  · exact List.prefix_rfl
  · exact List.prefix_rfl
  · exact List.prefix_rfl
  · unfold judgeHello
    split
    · exact List.prefix_rfl
    · simp only
      split
      · exact prefix_writeFrame unauthorizedFrame fault session.written
      · exact prefix_sendMessage rfl fault .streaming session
    · exact List.prefix_rfl

/-- What a session has written stays written. -/
theorem prefix_sessionStep (shared : SharedState) (session : Session) (event : Event) :
    session.written <+: (sessionStep layout shared session event).written := by
  unfold sessionStep
  split
  case h_1 =>
    cases event with
    | arrived piece fault =>
        exact prefix_pollHello shared { session with
          received := { session.received with pieces := session.received.pieces ++ [piece] } } fault
    | ended ending fault =>
        exact prefix_pollHello shared { session with
          received := { session.received with ending := ending } } fault
    | _ => exact List.prefix_rfl
  case h_2 =>
    cases event with
    | received result fault =>
        cases result with
        | frame frame =>
            have hbegins := prefix_writeFrame frame fault session.written
            simp only [streamingStep]
            split <;> rename_i hwrite <;> rwa [hwrite] at hbegins
        | _ => exact List.prefix_rfl
    | heartbeatTick uptimeSecs fault => exact prefix_sendMessage rfl fault .streaming session
    | _ => exact List.prefix_rfl
  case h_3 => exact List.prefix_rfl

end Muxtop.Server
