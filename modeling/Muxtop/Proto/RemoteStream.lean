import Muxtop.Proto.FrameCodec
import Muxtop.Proto.Remote

/-!
# What a client has read of the server's stream

The invariant of a client, against the bytes of the server's stream that have reached it: they are the
frames it has decoded, in order, and what it has not read yet. What it forwards is among the snapshots
it decoded, and begins after a Welcome.
-/

namespace Muxtop.Proto

open ByteStream Muxtop.Core

variable (layout : Layout) (config : RemoteConfig)

/-- The snapshot of a message. -/
def WireMessage.asSnapshot : WireMessage → Option SystemSnapshot
  | .snapshot snap => some snap
  | _ => none

/-- The Welcome has not been read. -/
def ClientPhase.opening : ClientPhase → Bool
  | .connecting | .tlsHandshake | .writingHello | .awaitingWelcome => true
  | .streaming | .returned _ => false

def ClientPhase.live : ClientPhase → Bool
  | .returned _ => false
  | _ => true

/-- The bytes are the frames of the messages, in order, and then those not read. -/
def HasRead (delivered : List UInt8) (messages : List WireMessage) (unread : List UInt8) : Prop :=
  ∃ frames : List Frame, (∀ f ∈ frames, f.Fits) ∧
    frames.map (WireMessage.fromFrame layout) = messages.map .ok ∧
    delivered = frames.flatMap Frame.encoded ++ unread

variable {layout}

theorem HasRead.append {delivered unread : List UInt8} {messages : List WireMessage}
    (h : HasRead layout delivered messages unread) (bytes : List UInt8) :
    HasRead layout (delivered ++ bytes) messages (unread ++ bytes) := by
  obtain ⟨frames, hfit, hmessages, rfl⟩ := h
  exact ⟨frames, hfit, hmessages, by rw [List.append_assoc]⟩

/-- One more frame is read. -/
theorem HasRead.concat {delivered rest : List UInt8} {messages : List WireMessage} {frame : Frame}
    {message : WireMessage} (h : HasRead layout delivered messages (frame.encoded ++ rest))
    (hfits : frame.Fits) (hdecode : WireMessage.fromFrame layout frame = .ok message) :
    HasRead layout delivered (messages ++ [message]) rest := by
  obtain ⟨frames, hfit, hmessages, rfl⟩ := h
  refine ⟨frames ++ [frame], ?_, ?_, ?_⟩
  · intro f hf
    rcases List.mem_append.1 hf with hf | hf
    · exact hfit f hf
    · rw [List.mem_singleton.1 hf]
      exact hfits
  · rw [List.map_append, List.map_append, hmessages, List.map_singleton, List.map_singleton, hdecode]
  · rw [List.flatMap_append, List.flatMap_singleton, List.append_assoc]

variable (layout)

/-- What a client looks like when these bytes have reached it. -/
structure ClientInv (delivered : List UInt8) (client : Client) : Prop where
  read : ∃ unread, HasRead layout delivered client.messages unread ∧
    (client.phase.live = true → unread = client.received.bytes)
  forwarded : client.forwarded.Sublist (client.messages.filterMap WireMessage.asSnapshot)
  opening : client.phase.opening = true → client.messages = [] ∧ client.forwarded = []
  welcome : client.phase = .streaming ∨ client.forwarded ≠ [] →
    ∃ serverVersion hostname refreshHz,
      client.messages.head? = some (.welcome serverVersion hostname refreshHz)

variable {layout}

theorem ClientInv.start (channel : SnapshotChannel) : ClientInv layout [] (Client.start channel) where
  read := ⟨[], ⟨[], nofun, rfl, rfl⟩, fun _ => rfl⟩
  forwarded := List.Sublist.refl _
  opening := fun _ => ⟨rfl, rfl⟩
  welcome := fun h => h.elim nofun fun h => absurd rfl h

/-- A step that reads nothing and does not go back. -/
theorem ClientInv.of_same {delivered : List UInt8} {client client' : Client}
    (h : ClientInv layout delivered client) (hmessages : client'.messages = client.messages)
    (hforwarded : client'.forwarded = client.forwarded)
    (hreceived : client'.phase.live = true →
      client.phase.live = true ∧ client'.received.bytes = client.received.bytes)
    (hopening : client'.phase.opening = true → client.phase.opening = true)
    (hstreaming : client'.phase = .streaming → client.phase = .streaming) :
    ClientInv layout delivered client' := by
  obtain ⟨unread, hread, hlive⟩ := h.read
  refine ⟨⟨unread, hmessages ▸ hread, fun hl => ?_⟩, ?_, ?_, ?_⟩
  · rw [(hreceived hl).2]
    exact hlive (hreceived hl).1
  · rw [hforwarded, hmessages]
    exact h.forwarded
  · rw [hforwarded, hmessages]
    exact fun ho => h.opening (hopening ho)
  · rw [hforwarded, hmessages]
    exact fun hw => h.welcome (hw.imp_left hstreaming)

/-- Returning changes nothing else. -/
theorem ClientInv.returned {delivered : List UInt8} {client client' : Client}
    (h : ClientInv layout delivered client) (hmessages : client'.messages = client.messages)
    (hforwarded : client'.forwarded = client.forwarded) {result : Except RemoteError Unit}
    (hphase : client'.phase = .returned result) : ClientInv layout delivered client' := by
  refine h.of_same hmessages hforwarded ?_ ?_ ?_ <;> rw [hphase] <;> exact nofun

/-- Moving on to the next phase of the opening changes nothing else. -/
theorem ClientInv.opened {delivered : List UInt8} {client client' : Client}
    (h : ClientInv layout delivered client) (hmessages : client'.messages = client.messages)
    (hforwarded : client'.forwarded = client.forwarded) (hreceived : client'.received = client.received)
    (hfrom : client.phase.opening = true) (hto : client'.phase.opening = true) :
    ClientInv layout delivered client' := by
  refine h.of_same hmessages hforwarded ?_ (fun _ => hfrom) ?_
  · rw [hreceived]
    refine fun _ => ⟨?_, rfl⟩
    revert hfrom
    cases client.phase <;> simp [ClientPhase.opening, ClientPhase.live]
  · intro hphase
    rw [hphase] at hto
    cases hto

theorem ClientInv.sendHello {delivered : List UInt8} {client : Client}
    (h : ClientInv layout delivered client) (hphase : client.phase = .writingHello)
    (fault : Option ErrorKind) : ClientInv layout delivered (client.sendHello layout config fault) := by
  unfold Client.sendHello
  split
  · exact h.returned rfl rfl rfl
  · split
    · exact h.returned rfl rfl rfl
    · exact h.opened rfl rfl rfl (by rw [hphase]; rfl) rfl

/-- What the invariant says once one more message has been read, before it is handled. -/
theorem ClientInv.read_concat {delivered : List UInt8} {client : Client} {rest : Stream}
    {frame : Frame} {message : WireMessage} (h : ClientInv layout delivered client)
    (hlive : client.phase.live = true)
    (hread : readFrame client.received = (.ready (.ok (some frame)), rest))
    (hdecode : WireMessage.fromFrame layout frame = .ok message) :
    HasRead layout delivered (client.messages ++ [message]) rest.bytes := by
  obtain ⟨unread, hunread, hbytes⟩ := h.read
  obtain ⟨hfits, -, hstream⟩ := encoded_of_readFrame hread
  rw [hbytes hlive, hstream] at hunread
  exact hunread.concat hfits hdecode

/-- A message other than `Welcome` ends the opening. -/
theorem ClientInv.refused {delivered rest : List UInt8} {client client' : Client} {message : WireMessage}
    (hread : HasRead layout delivered (client.messages ++ [message]) rest)
    (hnothing : client.forwarded = []) (hmessages : client'.messages = client.messages ++ [message])
    (hforwarded : client'.forwarded = client.forwarded) {e : RemoteError}
    (hphase : client'.phase = .returned (.error e)) : ClientInv layout delivered client' := by
  refine ⟨⟨rest, hmessages ▸ hread, ?_⟩, ?_, ?_, ?_⟩
  · rw [hphase]
    exact nofun
  · rw [hforwarded, hnothing]
    exact List.nil_sublist _
  · rw [hphase]
    exact nofun
  · rw [hphase, hforwarded, hnothing]
    exact fun hw => hw.elim nofun fun hne => absurd rfl hne

theorem ClientInv.pollWelcome {delivered : List UInt8} {client : Client}
    (h : ClientInv layout delivered client) (hphase : client.phase = .awaitingWelcome) :
    ClientInv layout delivered (client.poll layout Client.judgeWelcome) := by
  obtain ⟨hnone, hnothing⟩ := h.opening (by rw [hphase]; rfl)
  unfold Client.poll
  split
  · exact h
  · exact h.returned rfl rfl rfl
  · exact h.returned rfl rfl rfl
  next frame rest hread =>
    split
    · exact h.returned rfl rfl rfl
    next message hdecode =>
      have hhas := h.read_concat (by rw [hphase]; rfl) hread hdecode
      cases message with
      | welcome serverVersion hostname refreshHz =>
          refine ⟨⟨rest.bytes, hhas, fun _ => rfl⟩, hnothing ▸ List.nil_sublist _, nofun, fun _ => ?_⟩
          exact ⟨serverVersion, hostname, refreshHz, by
            simp [Client.judgeWelcome, Client.announce, hnone]⟩
      | snapshot snapshot => exact .refused hhas hnothing rfl rfl rfl
      | heartbeat serverVersion uptimeSecs => exact .refused hhas hnothing rfl rfl rfl
      | error code message => exact .refused hhas hnothing rfl rfl rfl
      | hello clientVersion authToken => exact .refused hhas hnothing rfl rfl rfl

/-- A message read after `Welcome`: only the snapshot it carries is forwarded, if anything. -/
theorem ClientInv.streamed {delivered : List UInt8} {client client' : Client} {message : WireMessage}
    (h : ClientInv layout delivered client) (hphase : client.phase = .streaming)
    (hread : HasRead layout delivered (client.messages ++ [message]) client'.received.bytes)
    (hmessages : client'.messages = client.messages ++ [message])
    (hforwarded : client'.forwarded.Sublist
      ((client.messages ++ [message]).filterMap WireMessage.asSnapshot))
    (hopening : client'.phase.opening = false) : ClientInv layout delivered client' := by
  obtain ⟨serverVersion, hostname, refreshHz, hhead⟩ := h.welcome (Or.inl hphase)
  have hhead' : client'.messages.head? = some (.welcome serverVersion hostname refreshHz) := by
    rw [hmessages, List.head?_append, hhead]
    rfl
  refine ⟨⟨client'.received.bytes, hmessages ▸ hread, fun _ => rfl⟩, hmessages ▸ hforwarded, ?_, ?_⟩
  · rw [hopening]
    exact nofun
  · exact fun _ => ⟨serverVersion, hostname, refreshHz, hhead'⟩

theorem ClientInv.pollStream {delivered : List UInt8} {client : Client}
    (h : ClientInv layout delivered client) (hphase : client.phase = .streaming) :
    ClientInv layout delivered (client.poll layout Client.handleMessage) := by
  unfold Client.poll
  split
  · exact h
  · exact h.returned rfl rfl rfl
  · exact h.returned rfl rfl rfl
  next frame rest hread =>
    split
    · exact h.returned rfl rfl rfl
    next message hdecode =>
      have hhas := h.read_concat (by rw [hphase]; rfl) hread hdecode
      -- Only a snapshot can be forwarded; every other message leaves the list as it was.
      have hkept : client.forwarded.Sublist
          ((client.messages ++ [message]).filterMap WireMessage.asSnapshot) := by
        rw [List.filterMap_append]
        exact h.forwarded.trans (List.sublist_append_left _ _)
      cases message with
      | snapshot snapshot =>
          simp only [Client.handleMessage]
          split
          · refine h.streamed hphase hhas rfl ?_ (by rw [hphase]; rfl)
            rw [List.filterMap_append]
            exact h.forwarded.append_right [snapshot]
          · exact h.streamed hphase hhas rfl hkept (by rw [hphase]; rfl)
          · exact h.streamed hphase hhas rfl hkept rfl
      | heartbeat serverVersion uptimeSecs =>
          exact h.streamed hphase hhas rfl hkept (by rw [Client.handleMessage, hphase]; rfl)
      | error code message => exact h.streamed hphase hhas rfl hkept rfl
      | hello clientVersion authToken =>
          exact h.streamed hphase hhas rfl hkept (by rw [Client.handleMessage, hphase]; rfl)
      | welcome serverVersion hostname refreshHz =>
          exact h.streamed hphase hhas rfl hkept (by rw [Client.handleMessage, hphase]; rfl)

theorem ClientInv.resolve {delivered : List UInt8} {client : Client}
    (h : ClientInv layout delivered client) (event : ClientEvent) :
    ClientInv layout delivered (client.resolve layout config event) := by
  unfold Client.resolve
  split
  next hphase => exact h.opened rfl rfl rfl (by rw [hphase]; rfl) rfl
  next => exact h.returned rfl rfl rfl
  next => exact h.returned rfl rfl rfl
  next hphase => exact h.opened rfl rfl rfl (by rw [hphase]; rfl) rfl
  next => exact h.returned rfl rfl rfl
  next => exact h.returned rfl rfl rfl
  next => exact h.returned rfl rfl rfl
  next hphase => exact h.sendHello config hphase _
  next hphase => exact h.pollWelcome hphase
  next => exact h.returned rfl rfl rfl
  next hphase => exact h.pollStream hphase
  next => exact h.returned rfl rfl rfl
  next => exact h

/-- An event that brings no bytes keeps the invariant. -/
theorem ClientInv.step {delivered : List UInt8} {client : Client}
    (h : ClientInv layout delivered client) {event : ClientEvent}
    (hevent : ∀ piece, event ≠ .arrived piece) :
    ClientInv layout delivered (client.step layout config event) := by
  cases event with
  | arrived piece => exact absurd rfl (hevent piece)
  | ended ending => exact h.of_same rfl rfl (fun hl => ⟨hl, rfl⟩) id id
  | taken => exact h.of_same rfl rfl (fun hl => ⟨hl, rfl⟩) id id
  | receiverDropped => exact h.of_same rfl rfl (fun hl => ⟨hl, rfl⟩) id id
  | tcpConnect result => exact h.resolve config _
  | tlsConnect outcome => exact h.resolve config _
  | helloWritten fault => exact h.resolve config _
  | polled => exact h.resolve config _
  | handshakeTimeout => exact h.resolve config _
  | cancelled => exact h.resolve config _

/-- Bytes that arrive wait to be read. -/
theorem ClientInv.arrived {delivered : List UInt8} {client : Client}
    (h : ClientInv layout delivered client) (piece : Piece) :
    ClientInv layout (delivered ++ piece.bytes) (client.step layout config (.arrived piece)) := by
  obtain ⟨unread, hread, hlive⟩ := h.read
  refine ⟨⟨unread ++ piece.bytes, hread.append piece.bytes, fun hl => ?_⟩, h.forwarded, h.opening,
    h.welcome⟩
  rw [hlive hl]
  simp [Client.step, Source.bytes, joined]

end Muxtop.Proto
