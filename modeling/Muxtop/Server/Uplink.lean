import Muxtop.Server.EndToEnd

/-!
# Both directions of a link

`runLink` lets any bytes reach the server's session. Here only those reach it that the client has written,
so that the hello the session reads is the client's: a client whose token is not the server's gets no
snapshot.
-/

namespace Muxtop.Server

open ByteStream Muxtop.Core Muxtop.Proto
open Bincode.Codec (utf8)

variable (layout : Layout) (config : ServerConfig) (remote : RemoteConfig) (i : ℕ)

def Stage.asSession : Stage → Option Session
  | .session running => some running
  | _ => none

/-- The session of the `i`-th connection, if its handshake is done. -/
def ServerState.sessionAt (s : ServerState) (i : ℕ) : Option Session :=
  s.tasks[i]?.bind fun task => task.stage.asSession

/-- A link, with the client's bytes that have reached the session. -/
structure Duplex where
  link : Link
  uploaded : List UInt8

/-- The piece that an event brings to the session of the `i`-th connection. -/
def LinkEvent.arrivingAt (i : ℕ) : LinkEvent → Option Piece
  | .server (.session j (.arrived piece _)) => if j = i then some piece else none
  | _ => none

/-- The bytes that the client has written. -/
def Duplex.sent (s : Duplex) : List UInt8 := s.link.client.written.flatMap Frame.encoded

/-- One event of the server or of the client. Only what the client has written reaches the session, once
there is one. -/
def duplexStep (s : Duplex) (e : LinkEvent) : Duplex :=
  match e.arrivingAt i with
  | some piece =>
    if (s.uploaded ++ piece.bytes).isPrefixOf s.sent ∧ (s.link.server.sessionAt i).isSome then
      ⟨linkStep layout config remote i s.link e, s.uploaded ++ piece.bytes⟩
    else s
  | none => { s with link := linkStep layout config remote i s.link e }

/-- The event is not an arrival of bytes that the client has not written, or that no session reads. -/
def Duplex.admits (s : Duplex) (i : ℕ) (e : LinkEvent) : Bool :=
  match e.arrivingAt i with
  | some piece => (s.uploaded ++ piece.bytes).isPrefixOf s.sent ∧ (s.link.server.sessionAt i).isSome
  | none => true

/-- On the link, an event that is admitted is what it is without the way up. -/
theorem link_duplexStep (s : Duplex) (e : LinkEvent) :
    (duplexStep layout config remote i s e).link =
      if s.admits i e then linkStep layout config remote i s.link e else s.link := by
  unfold duplexStep Duplex.admits
  cases e.arrivingAt i with
  | none => rfl
  | some piece =>
      simp only [decide_eq_true_eq]
      split_ifs <;> rfl

/-! ## What a session keeps of what arrives -/

variable {layout config remote i}

/-- Judging the hello reads nothing. -/
theorem received_judgeHello (shared : SharedState) (frame : Frame) (fault : Option ErrorKind)
    (session : Session) : (judgeHello layout shared frame fault session).received = session.received := by
  unfold judgeHello
  split
  · rfl
  · simp only
    split
    · unfold refuse
      split <;> rfl
    · exact (sendMessage_spec ..).1
  · rfl

/-- Polling for it reads nothing off the connection either. -/
theorem received_pollHello (shared : SharedState) (fault : Option ErrorKind) (session : Session) :
    (pollHello layout shared fault session).received = session.received := by
  unfold pollHello
  split
  · rfl
  · rfl
  · rfl
  · exact received_judgeHello ..

/-- While the hello is awaited, a session reads what arrives. -/
theorem received_of_arrived {shared : SharedState} {session : Session} (hphase : session.phase = .handshake)
    (piece : Piece) (fault : Option ErrorKind) :
    (sessionStep layout shared session (.arrived piece fault)).received.bytes =
      session.received.bytes ++ piece.bytes := by
  simp only [sessionStep, hphase, handshakeStep, received_pollHello]
  simp [Source.bytes, joined]

/-- Nothing else is read. -/
theorem received_of_other {shared : SharedState} {session : Session} {event : Event}
    (hother : ∀ piece fault, event = .arrived piece fault → session.phase ≠ .handshake) :
    (sessionStep layout shared session event).received.bytes = session.received.bytes := by
  unfold sessionStep
  split
  next hphase =>
    cases event with
    | arrived piece fault => exact absurd hphase (hother piece fault rfl)
    | ended ending fault =>
        simp only [handshakeStep, received_pollHello]
        rfl
    | _ => rfl
  next hphase =>
    cases event with
    | received result fault =>
        cases result with
        | frame frame =>
            simp only [streamingStep]
            split <;> rfl
        | _ => rfl
    | heartbeatTick uptimeSecs fault => exact congrArg Source.bytes (sendMessage_spec ..).1
    | _ => rfl
  next => rfl

/-! ## What a step makes of a session -/

/-- What a step of the server makes of the session at a connection. -/
inductive SessionMove (layout : Layout) (config : ServerConfig) (i : ℕ) (e : ServerEvent) :
    Option Session → Option Session → Prop
  | same {session : Option Session} : SessionMove layout config i e session session
  | opened : SessionMove layout config i e none (some Session.start)
  | moved {session : Session} (event : Event)
      (harrived : ∀ piece fault, event = .arrived piece fault → e = .session i event) :
      SessionMove layout config i e (some session) (some (sessionStep layout config.shared session event))

/-- A step that leaves the tasks alone leaves the session. -/
theorem sessionAt_of_tasks {s s' : ServerState} (h : s'.tasks = s.tasks) :
    s'.sessionAt i = s.sessionAt i := by
  rw [ServerState.sessionAt, h, ServerState.sessionAt]

/-- A task that has just been spawned has no session. -/
theorem sessionAt_of_spawned {s s' : ServerState} {position subscribed : ℕ}
    (h : s'.tasks = s.tasks ++ [⟨.tlsHandshake, position, subscribed⟩]) :
    s'.sessionAt i = s.sessionAt i := by
  rw [ServerState.sessionAt, h, ServerState.sessionAt]
  rcases Nat.lt_trichotomy i s.tasks.length with hlt | rfl | hgt
  · rw [List.getElem?_append_left hlt]
  · rw [List.getElem?_concat_length, List.getElem?_eq_none le_rfl]
    rfl
  · rw [List.getElem?_eq_none (by rw [List.length_append]; exact hgt), List.getElem?_eq_none hgt.le]

/-- A step of a task changes the session at its own connection, as it does the task's stage. -/
theorem sessionAt_stepTask (s : ServerState) (j : ℕ) (step : Task → Task) :
    (s.stepTask j step).sessionAt i = s.sessionAt i ∨
      ∃ task, j = i ∧ s.sessionAt i = task.stage.asSession ∧
        (s.stepTask j step).sessionAt i = (step task).stage.asSession := by
  rcases s.stepTask_cases j step with heq | ⟨task, htask, -, heq⟩
  · exact .inl (by rw [heq])
  · by_cases hij : j = i
    · subst hij
      have hlt := (List.getElem?_eq_some_iff.1 htask).1
      refine .inr ⟨task, rfl, ?_, ?_⟩
      · rw [ServerState.sessionAt, htask]
        rfl
      · rw [heq]
        show (s.tasks.set j (step task))[j]?.bind _ = _
        rw [List.getElem?_set_self hlt]
        rfl
    · left
      rw [heq]
      show (s.tasks.set j (step task))[i]?.bind _ = _
      rw [List.getElem?_set_ne hij]
      rfl

/-- An event of the connection moves its session. -/
theorem sessionMove_onSession {e : ServerEvent} (task : Task) (event : Event)
    (harrived : ∀ piece fault, event = .arrived piece fault → e = .session i event) :
    SessionMove layout config i e task.stage.asSession
      (task.onSession layout config event).stage.asSession := by
  unfold Task.onSession
  split
  next session hstage =>
    rw [hstage]
    exact .moved event harrived
  next => exact .same

/-- The end of the handshake opens a session, or none. -/
theorem sessionMove_tls {e : ServerEvent} (task : Task) (outcome : TlsOutcome) :
    SessionMove layout config i e task.stage.asSession (task.tls outcome).stage.asSession := by
  unfold Task.tls
  cases hstage : task.stage with
  | tlsHandshake =>
      cases outcome with
      | established => exact .opened
      | failed => exact .same
      | timedOut => exact .same
  | session session =>
      show SessionMove layout config i e (Stage.session session).asSession task.stage.asSession
      rw [hstage]
      exact .same
  | ended =>
      show SessionMove layout config i e Stage.ended.asSession task.stage.asSession
      rw [hstage]
      exact .same

/-- A broadcast that is received is an event of the session. -/
theorem sessionMove_recv {e : ServerEvent} (broadcast : Broadcast Frame) (closed : Bool)
    (fault : Option ErrorKind) (task : Task) :
    SessionMove layout config i e task.stage.asSession
      (task.recv layout config broadcast closed fault).stage.asSession := by
  unfold Task.recv
  split
  · split
    next delivery position hrecv =>
      exact sessionMove_onSession { task with position := position } _ nofun
    next =>
      split
      · exact sessionMove_onSession task _ nofun
      · exact .same
  · exact .same

/-- A step of the server moves the session of a connection, opens it, or leaves it. -/
theorem sessionMove (s : ServerState) (e : ServerEvent) :
    SessionMove layout config i e (s.sessionAt i) ((serverStep layout config s e).sessionAt i) := by
  have hsame {s' : ServerState} (h : s'.sessionAt i = s.sessionAt i) :
      SessionMove layout config i e (s.sessionAt i) (s'.sessionAt i) := by
    rw [h]
    exact .same
  have htask {j : ℕ} {step : Task → Task}
      (hmove : j = i → ∀ task, SessionMove layout config i e (Stage.asSession task.stage)
        (step task).stage.asSession) :
      SessionMove layout config i e (s.sessionAt i) ((s.stepTask j step).sessionAt i) := by
    rcases @sessionAt_stepTask i s j step with hkept | ⟨task, hij, hbefore, hafter⟩
    · exact hsame hkept
    · rw [hbefore, hafter]
      exact hmove hij task
  cases e with
  | cancel => exact .same
  | collected snapshot =>
      cases snapshot with
      | none => exact .same
      | some snapshot =>
          simp only [serverStep]
          split_ifs
          · exact hsame (sessionAt_of_tasks (s.relay_tasks layout snapshot).1)
          · exact .same
  | relayCancelled =>
      simp only [serverStep]
      split_ifs <;> exact .same
  | accepted result =>
      simp only [serverStep]
      split
      · exact .same
      · split
        · exact .same
        next call =>
          rcases s.accept_cases config call with ⟨-, hrefused⟩ | ⟨-, -, -, hspawned, -⟩
          · exact hsame (sessionAt_of_tasks hrefused.tasks)
          · exact hsame (sessionAt_of_spawned hspawned)
  | acceptCancelled =>
      simp only [serverStep]
      split
      · exact .same
      · split_ifs <;> exact .same
  | tls j outcome => exact htask fun _ task => sessionMove_tls task outcome
  | recv j fault => exact htask fun _ task => sessionMove_recv _ _ fault task
  | session j event =>
      simp only [serverStep]
      split_ifs
      · refine htask fun hij task => sessionMove_onSession task event fun piece fault harrived => ?_
        rw [hij]
      · exact .same

/-! ## The hello of the client -/

/-- The client stands before its hello. -/
def BeforeHello (client : Client) : Prop :=
  client.phase = .connecting ∨ client.phase = .tlsHandshake ∨ client.phase = .writingHello

/-- A client has written nothing before its hello, and nothing but the hello. -/
structure WritesHello (layout : Layout) (remote : RemoteConfig) (client : Client) : Prop where
  before : BeforeHello client → client.written = []
  once : client.written.length ≤ 1
  hello : ∀ frame ∈ client.written, frame.Fits ∧
    (WireMessage.hello remote.clientVersion remote.token).toFrame layout = .ok frame

/-- At the start nothing is written. -/
theorem writesHello_start (channel : SnapshotChannel) : WritesHello layout remote (Client.start channel) :=
  ⟨fun _ => rfl, Nat.zero_le _, nofun⟩

/-- A step that writes nothing, and does not go back before the hello. -/
theorem WritesHello.of_same {client client' : Client} (h : WritesHello layout remote client)
    (hwritten : client'.written = client.written)
    (hphase : BeforeHello client' → BeforeHello client) : WritesHello layout remote client' := by
  refine ⟨fun hbefore => ?_, ?_, ?_⟩
  · rw [hwritten]
    exact h.before (hphase hbefore)
  · rw [hwritten]
    exact h.once
  · rw [hwritten]
    exact h.hello

/-- Returning, or going on after the hello, writes nothing. -/
theorem WritesHello.after {client client' : Client} (h : WritesHello layout remote client)
    (hwritten : client'.written = client.written) (hphase : ¬ BeforeHello client') :
    WritesHello layout remote client' := h.of_same hwritten fun hbefore => absurd hbefore hphase

/-- A client that has returned is past its hello. -/
theorem not_beforeHello_of_returned {client : Client} {result : Except RemoteError Unit}
    (h : client.phase = .returned result) : ¬ BeforeHello client := by
  unfold BeforeHello
  rw [h]
  rintro (h | h | h) <;> cases h

/-- So is one that streams. -/
theorem not_beforeHello_of_streaming {client : Client} (h : client.phase = .streaming) :
    ¬ BeforeHello client := by
  unfold BeforeHello
  rw [h]
  rintro (h | h | h) <;> cases h

/-- So is one that waits for the answer. -/
theorem not_beforeHello_of_awaiting {client : Client} (h : client.phase = .awaitingWelcome) :
    ¬ BeforeHello client := by
  unfold BeforeHello
  rw [h]
  rintro (h | h | h) <;> cases h

/-- The hello is written once. -/
theorem WritesHello.sendHello {client : Client} (h : WritesHello layout remote client)
    (hphase : client.phase = .writingHello) (fault : Option ErrorKind) :
    WritesHello layout remote (client.sendHello layout remote fault) := by
  have hnone := h.before (.inr (.inr hphase))
  unfold Client.sendHello
  split
  · exact h.after rfl (not_beforeHello_of_returned rfl)
  next helloFrame hhello =>
    have hwrote {client' : Client} (hwritten : client'.written = [helloFrame]) (hfits : helloFrame.Fits)
        (hafter : ¬ BeforeHello client') : WritesHello layout remote client' := by
      refine ⟨fun hbefore => absurd hbefore hafter, by rw [hwritten]; exact le_rfl, ?_⟩
      rw [hwritten]
      intro frame hframe
      rw [List.mem_singleton.1 hframe]
      exact ⟨hfits, hhello⟩
    rcases writeFrame_cases helloFrame fault client.written with ⟨e, hwrite⟩ | ⟨hfits, result, hwrite⟩
    · rw [hwrite]
      exact h.after rfl (not_beforeHello_of_returned rfl)
    · rw [hwrite, hnone]
      rcases result with e | _
      · exact hwrote rfl hfits (not_beforeHello_of_returned rfl)
      · exact hwrote rfl hfits (not_beforeHello_of_awaiting rfl)

/-- Reading a message writes nothing and stays after the hello, where handling it does. -/
theorem poll_writes {client : Client} (hafter : ¬ BeforeHello client)
    {handle : Client → WireMessage → Client}
    (hhandle : ∀ client' message, ¬ BeforeHello client' →
      (handle client' message).written = client'.written ∧ ¬ BeforeHello (handle client' message)) :
    (client.poll layout handle).written = client.written ∧ ¬ BeforeHello (client.poll layout handle) := by
  unfold Client.poll
  split
  · exact ⟨rfl, hafter⟩
  · exact ⟨rfl, not_beforeHello_of_returned rfl⟩
  · exact ⟨rfl, not_beforeHello_of_returned rfl⟩
  next frame rest hread =>
    split
    · exact ⟨rfl, not_beforeHello_of_returned rfl⟩
    next message hdecode =>
      exact hhandle { client with received := rest, messages := client.messages ++ [message] } message
        hafter

/-- The answer to the hello makes the client write nothing. -/
theorem judgeWelcome_writes (client : Client) (message : WireMessage) (_ : ¬ BeforeHello client) :
    (client.judgeWelcome message).written = client.written ∧
      ¬ BeforeHello (client.judgeWelcome message) := by
  cases message with
  | welcome serverVersion hostname refreshHz => exact ⟨rfl, not_beforeHello_of_streaming rfl⟩
  | _ => exact ⟨rfl, not_beforeHello_of_returned rfl⟩

/-- Nor does any message after it. -/
theorem handleMessage_writes (client : Client) (message : WireMessage) (h : ¬ BeforeHello client) :
    (client.handleMessage message).written = client.written ∧
      ¬ BeforeHello (client.handleMessage message) := by
  cases message with
  | snapshot snapshot =>
      simp only [Client.handleMessage]
      split
      · exact ⟨rfl, h⟩
      · exact ⟨rfl, h⟩
      · exact ⟨rfl, not_beforeHello_of_returned rfl⟩
  | error code message => exact ⟨rfl, not_beforeHello_of_returned rfl⟩
  | _ => exact ⟨rfl, h⟩

/-- A step writes only the hello, and does not go back before it. -/
theorem step_writes (client : Client) (e : ClientEvent) :
    (client.phase = .writingHello ∧ ∃ fault, e = .helloWritten fault) ∨
      (client.step layout remote e).written = client.written ∧
        (BeforeHello (client.step layout remote e) → BeforeHello client) := by
  have hresolve : (client.phase = .writingHello ∧ ∃ fault, e = .helloWritten fault) ∨
      (client.resolve layout remote e).written = client.written ∧
        (BeforeHello (client.resolve layout remote e) → BeforeHello client) := by
    have hreturned {client' : Client} {result : Except RemoteError Unit}
        (h : client'.phase = .returned result) : BeforeHello client' → BeforeHello client :=
      fun hbefore => absurd hbefore (not_beforeHello_of_returned h)
    unfold Client.resolve
    split
    next hphase => exact .inr ⟨rfl, fun _ => .inl hphase⟩
    next => exact .inr ⟨rfl, hreturned rfl⟩
    next => exact .inr ⟨rfl, hreturned rfl⟩
    next hphase => exact .inr ⟨rfl, fun _ => .inr (.inl hphase)⟩
    next => exact .inr ⟨rfl, hreturned rfl⟩
    next => exact .inr ⟨rfl, hreturned rfl⟩
    next => exact .inr ⟨rfl, hreturned rfl⟩
    next fault hphase => exact .inl ⟨hphase, fault, rfl⟩
    next hphase =>
      obtain ⟨hwritten, hafter⟩ :=
        @poll_writes layout _ (not_beforeHello_of_awaiting hphase) _ judgeWelcome_writes
      exact .inr ⟨hwritten, fun hbefore => absurd hbefore hafter⟩
    next => exact .inr ⟨rfl, hreturned rfl⟩
    next hphase =>
      obtain ⟨hwritten, hafter⟩ :=
        @poll_writes layout _ (not_beforeHello_of_streaming hphase) _ handleMessage_writes
      exact .inr ⟨hwritten, fun hbefore => absurd hbefore hafter⟩
    next => exact .inr ⟨rfl, hreturned rfl⟩
    next => exact .inr ⟨rfl, id⟩
  cases e with
  | arrived piece => exact .inr ⟨rfl, id⟩
  | ended ending => exact .inr ⟨rfl, id⟩
  | taken => exact .inr ⟨rfl, id⟩
  | receiverDropped => exact .inr ⟨rfl, id⟩
  | _ => exact hresolve

/-- What a client has written is its hello at most, and stays written. -/
theorem WritesHello.step {client : Client} (h : WritesHello layout remote client) (e : ClientEvent) :
    WritesHello layout remote (client.step layout remote e) ∧
      client.written <+: (client.step layout remote e).written := by
  rcases @step_writes layout remote client e with ⟨hphase, fault, rfl⟩ | ⟨hwritten, hbefore⟩
  · have hsends : client.step layout remote (.helloWritten fault) = client.sendHello layout remote fault := by
      show client.resolve layout remote (.helloWritten fault) = _
      simp only [Client.resolve, hphase]
    rw [hsends, h.before (.inr (.inr hphase))]
    exact ⟨h.sendHello hphase fault, List.nil_prefix⟩
  · rw [hwritten]
    exact ⟨h.of_same hwritten hbefore, List.prefix_rfl⟩

/-! ## Both directions -/

/-- What holds of the way up, in every run. -/
structure Uplink (layout : Layout) (config : ServerConfig) (remote : RemoteConfig) (i : ℕ) (s : Duplex) :
    Prop where
  client : WritesHello layout remote s.link.client
  arrived : s.uploaded <+: s.sent
  nothing : s.link.server.sessionAt i = none → s.uploaded = []
  session : ∀ session, s.link.server.sessionAt i = some session →
    SessionInv layout config.shared session ∧ session.received.bytes <+: s.uploaded ∧
      (session.phase = .handshake → session.received.bytes = s.uploaded)

/-- A client that begins, towards a connection that the server has not accepted. -/
theorem uplink_fresh {server : ServerState} (h : server.tasks[i]? = none) (channel : SnapshotChannel) :
    Uplink layout config remote i ⟨⟨server, Client.start channel, []⟩, []⟩ where
  client := writesHello_start channel
  arrived := List.nil_prefix
  nothing _ := rfl
  session session hsession := by
    rw [ServerState.sessionAt, h] at hsession
    cases hsession

/-- A piece that arrives at a session is read by it, while it awaits the hello. -/
theorem sessionAt_arrived {s : ServerState} {session : Session} (h : s.sessionAt i = some session)
    (piece : Piece) (fault : Option ErrorKind) :
    (serverStep layout config s (.session i (.arrived piece fault))).sessionAt i =
      some (sessionStep layout config.shared session (.arrived piece fault)) := by
  obtain ⟨task, htask, hstage⟩ := Option.bind_eq_some_iff.1 h
  have hsession : task.stage = .session session := by
    cases hcases : task.stage with
    | session running =>
        rw [hcases] at hstage
        rw [← Option.some.inj hstage]
    | _ =>
        rw [hcases] at hstage
        cases hstage
  have hlt := (List.getElem?_eq_some_iff.1 htask).1
  show (s.stepTask i (Task.onSession layout config (.arrived piece fault))).sessionAt i = _
  cases hlive : task.live with
  | true =>
      have hstep : (s.stepTask i (Task.onSession layout config (.arrived piece fault))).tasks =
          s.tasks.set i (task.onSession layout config (.arrived piece fault)) := by
        simp only [ServerState.stepTask, htask, hlive, Bool.not_true, Bool.false_eq_true, if_false]
      rw [ServerState.sessionAt, hstep, List.getElem?_set_self hlt]
      simp only [Task.onSession, hsession]
      rfl
  | false =>
      have hstep : s.stepTask i (Task.onSession layout config (.arrived piece fault)) = s := by
        simp only [ServerState.stepTask, htask, hlive, Bool.not_false, if_true]
      -- a session that has returned reads nothing
      have hreturned : sessionStep layout config.shared session (.arrived piece fault) = session := by
        simp only [Task.live, hsession] at hlive
        unfold sessionStep
        split at hlive
        next result hphase => rw [hphase]
        next => cases hlive
      rw [hstep, hreturned, h]

/-- A step that brings nothing up. -/
theorem Uplink.of_server {s : Duplex} (h : Uplink layout config remote i s) {e : ServerEvent}
    (harriving : (LinkEvent.server e).arrivingAt i = none) :
    Uplink layout config remote i
      ⟨{ s.link with server := serverStep layout config s.link.server e }, s.uploaded⟩ := by
  have hmove := @sessionMove layout config i s.link.server e
  refine ⟨h.client, h.arrived, ?_, ?_⟩
  · intro hnone
    show s.uploaded = []
    change (serverStep layout config s.link.server e).sessionAt i = none at hnone
    rw [hnone] at hmove
    generalize hbefore : s.link.server.sessionAt i = before at hmove
    cases hmove
    exact h.nothing hbefore
  · intro session hsession
    change (serverStep layout config s.link.server e).sessionAt i = some session at hsession
    show _ ∧ _ <+: s.uploaded ∧ (_ → _ = s.uploaded)
    rw [hsession] at hmove
    generalize hbefore : s.link.server.sessionAt i = before at hmove
    rcases hmove with _ | _ | ⟨event, harrived⟩
    case same => exact h.session session hbefore
    case opened =>
      rw [h.nothing hbefore]
      exact ⟨.awaiting _, List.prefix_rfl, fun _ => rfl⟩
    case moved before =>
      obtain ⟨hinv, hread, hawaiting⟩ := h.session before hbefore
      have hreceived : (sessionStep layout config.shared before event).received.bytes =
          before.received.bytes := by
        refine received_of_other fun piece fault heq => ?_
        rw [harrived piece fault heq, heq] at harriving
        simp [LinkEvent.arrivingAt] at harriving
      refine ⟨sessionStep_inv hinv event, ?_, fun hphase => ?_⟩
      · rw [hreceived]
        exact hread
      · rw [hreceived]
        refine hawaiting ?_
        by_contra hbegun
        exact sessionStep_phase_ne before event hbegun hphase

/-- What the client does adds to what it has sent, and to nothing else. -/
theorem Uplink.of_client {s : Duplex} (h : Uplink layout config remote i s) (e : ClientEvent)
    (delivered : List UInt8) :
    Uplink layout config remote i
      ⟨{ s.link with client := s.link.client.step layout remote e, delivered := delivered },
        s.uploaded⟩ := by
  obtain ⟨hclient, hwritten⟩ := h.client.step e
  exact ⟨hclient, h.arrived.trans (prefix_flatMap_encoded hwritten), h.nothing, h.session⟩

/-- Only bytes that the client has sent reach the session. -/
theorem Uplink.step {s : Duplex} (h : Uplink layout config remote i s) (e : LinkEvent) :
    Uplink layout config remote i (duplexStep layout config remote i s e) := by
  unfold duplexStep
  cases harriving : e.arrivingAt i with
  | none =>
      cases e with
      | server e => exact h.of_server harriving
      | client e =>
          by_cases hpiece : ∃ piece, e = .arrived piece
          · obtain ⟨piece, rfl⟩ := hpiece
            simp only [linkStep]
            split_ifs
            · exact h.of_client _ _
            · exact h
          · have hevent : ∀ piece, e ≠ .arrived piece := fun piece heq => hpiece ⟨piece, heq⟩
            simp only [linkStep_client remote i s.link hevent]
            exact h.of_client e s.link.delivered
  | some piece =>
      simp only
      split_ifs with hreads
      · obtain ⟨hpiece, hsome⟩ := hreads
        obtain ⟨session, hsession⟩ := Option.isSome_iff_exists.1 hsome
        obtain ⟨hinv, hread, hawaiting⟩ := h.session session hsession
        -- the event is the piece's arrival at this session
        obtain ⟨fault, rfl⟩ : ∃ fault, e = .server (.session i (.arrived piece fault)) := by
          unfold LinkEvent.arrivingAt at harriving
          split at harriving
          · split_ifs at harriving with hij
            obtain rfl := Option.some.inj harriving
            exact ⟨_, by rw [hij]⟩
          · cases harriving
        have hnext := @sessionAt_arrived layout config i _ _ hsession piece fault
        refine ⟨h.client, List.isPrefixOf_iff_prefix.1 hpiece, ?_, ?_⟩
        · intro hnone
          cases hnext.symm.trans hnone
        · intro session' hsession'
          obtain rfl := Option.some.inj (hnext.symm.trans hsession')
          by_cases hhandshake : session.phase = .handshake
          · have hmore := @received_of_arrived layout config.shared _ hhandshake piece fault
            rw [hawaiting hhandshake] at hmore
            exact ⟨sessionStep_inv hinv _, ⟨[], by rw [hmore, List.append_nil]⟩, fun _ => hmore⟩
          · have hsame := @received_of_other layout config.shared session (.arrived piece fault)
              fun _ _ _ => hhandshake
            refine ⟨sessionStep_inv hinv _, ?_, fun hphase => ?_⟩
            · rw [hsame]
              exact hread.trans (List.prefix_append _ _)
            · exact absurd hphase (sessionStep_phase_ne session _ hhandshake)
      · exact h

/-! ## Tokens -/

/-- A text is known by its bytes. -/
theorem utf8_injective {a b : String} (h : utf8 a = utf8 b) : a = b := by
  have ha := Bincode.Codec.fromUtf8_eq_ok.2 (rfl : utf8 a = utf8 a)
  rw [Bincode.Codec.fromUtf8_eq_ok.2 h] at ha
  exact (Except.ok.inj ha).symm

/-- A session that has read the token has read it from the client. -/
theorem Uplink.token {s : Duplex} (h : Uplink layout config remote i s) {session : Session}
    (hsession : s.link.server.sessionAt i = some session)
    (hread : Authenticated layout config.shared session.received) :
    remote.token.getD "" = config.shared.authToken := by
  obtain ⟨frame, clientVersion, authToken, hframe, hdecode, htoken⟩ := hread
  obtain ⟨hfits, -, hbytes⟩ := encoded_of_readFrame (Prod.ext hframe rfl)
  -- the frame is the first of those the client has written, of which there is one
  have hsent : frame.encoded <+: s.sent :=
    (List.IsPrefix.trans ⟨_, hbytes.symm⟩ (h.session session hsession).2.1).trans h.arrived
  have hfirst : [frame] <+: s.link.client.written :=
    prefix_of_prefix_flatMap_encoded (fun f hf => List.mem_singleton.1 hf ▸ hfits)
      (fun f hf => (h.client.hello f hf).1) (by rw [List.flatMap_singleton]; exact hsent)
  obtain ⟨-, hhello⟩ := h.client.hello frame (hfirst.subset List.mem_cons_self)
  have heq := eq_of_fromFrame hhello hfits hdecode
  obtain ⟨-, rfl⟩ := WireMessage.hello.inj heq
  exact utf8_injective htoken

/-- What holds of both directions, in every run. -/
structure DuplexInv (layout : Layout) (config : ServerConfig) (remote : RemoteConfig) (i : ℕ) (s : Duplex) :
    Prop where
  link : LinkInv layout config i s.link
  uplink : Uplink layout config remote i s

/-- At the start nothing has been sent either way. -/
theorem DuplexInv.start (now : Instant) (channel : SnapshotChannel) :
    DuplexInv layout config remote i ⟨Link.start config now channel, []⟩ :=
  ⟨.start i now channel, uplink_fresh rfl channel⟩

/-- Any event, of either side. -/
theorem DuplexInv.step {s : Duplex} (h : DuplexInv layout config remote i s) (e : LinkEvent) :
    DuplexInv layout config remote i (duplexStep layout config remote i s e) := by
  refine ⟨?_, h.uplink.step e⟩
  unfold duplexStep
  split
  · split_ifs
    · exact h.link.step remote i e
    · exact h.link
  · exact h.link.step remote i e

/-- A session that has written a Welcome has read the token. -/
theorem authenticated_of_welcome {shared : SharedState} {session : Session}
    (h : SessionInv layout shared session) {frame : Frame} (hmem : frame ∈ session.written)
    (htype : frame.msgType = msgWelcome) : Authenticated layout shared session.received := by
  cases h with
  | awaiting received => cases hmem
  | authenticated phase received written hphase hread => exact hread
  | failed e received => cases hmem
  | refused received =>
      obtain rfl := List.mem_singleton.1 hmem
      exact absurd htype (show ¬ msgError = msgWelcome by decide)

/-- **No snapshot without the token.** A client that has forwarded a snapshot has the token of the
server. -/
theorem DuplexInv.token {s : Duplex} (h : DuplexInv layout config remote i s)
    (hne : s.link.client.forwarded ≠ []) : remote.token.getD "" = config.shared.authToken := by
  cases htask : s.link.server.tasks[i]? with
  | none => exact absurd (h.link.forwarded_eq_nil (by rw [ServerState.wire, htask])) hne
  | some task =>
      cases hstage : task.stage with
      | tlsHandshake | ended =>
          refine absurd (h.link.forwarded_eq_nil ?_) hne
          simp only [ServerState.wire, htask, Task.written, hstage]
          rfl
      | session session =>
          have hsession : s.link.server.sessionAt i = some session := by
            rw [ServerState.sessionAt, htask, Option.bind_some, hstage]
            rfl
          have hwelcome := h.link.head?_messages htask hstage hne
          obtain ⟨frames, hwritten, hmessages, -⟩ := h.link.exists_frames_written htask hstage
          rcases hread : s.link.client.messages with _ | ⟨message, messages⟩
          · rw [hread] at hwelcome
            cases hwelcome
          · rw [hread, List.head?_cons, Option.some.injEq] at hwelcome
            rw [hread] at hmessages
            rcases frames with _ | ⟨frame, frames⟩
            · cases hmessages
            · rw [List.map_cons, List.map_cons, List.cons.injEq, hwelcome] at hmessages
              obtain ⟨htype, -⟩ := fromFrame_eq_ok_iff.1 hmessages.1
              obtain ⟨hinv, -, -⟩ := h.uplink.session session hsession
              exact h.uplink.token hsession
                (authenticated_of_welcome hinv (hwritten.subset List.mem_cons_self) htype)

end Muxtop.Server
