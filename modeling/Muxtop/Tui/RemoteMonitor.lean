import Muxtop.Server.Host
import Muxtop.Server.Uplink
import Muxtop.Tui.Interface

/-!
# The monitor of a remote machine

Reference: `run_app` of `src/main.rs` with `--remote`, and `run` of `muxtop-proto/src/remote.rs`.

The server program runs on one machine, with any number of connections. The remote collector on the other
one is linked to one of them at a time, and after an attempt that failed to a later one; what it forwards
goes into the channel that the interface drains. Whatever happens in between, the interface shows
snapshots of the server's machine, and they come in order.
-/

namespace Muxtop.Tui

open Muxtop.Core (SystemSnapshot Engines)
open Muxtop.Proto (Client ClientEvent ClientPhase Layout RemoteConfig SnapshotChannel WireMessage)
open Muxtop.Server (Host ServerConfig Duplex LinkEvent duplexStep DuplexInv)

structure RemoteMonitor where
  /-- of the server's machine -/
  collector : Core.Collector.State
  /-- the server, the attempt under way and the bytes between them -/
  duplex : Duplex
  /-- the server's connection that the attempt is linked to -/
  connection : ℕ
  /-- the reconnection loop, as the attempt before left it -/
  loop : Proto.Collector
  /-- what the attempts before have forwarded -/
  earlier : List SystemSnapshot
  /-- the token of the remote collector has fired -/
  cancelled : Bool
  interface : Interface

namespace RemoteMonitor

def client (r : RemoteMonitor) : Client := r.duplex.link.client

def host (r : RemoteMonitor) : Host := ⟨r.collector, r.duplex.link.server⟩

/-- What the channel to the interface has first. -/
def next (r : RemoteMonitor) : Option SystemSnapshot := r.client.channel.queue.head?

inductive Event
  | host (e : Host.Event)
  | client (e : ClientEvent)
  /-- the sleep after an attempt that failed is over, and the next one begins -/
  | reconnect (connection : ℕ)
  | interface (e : Interface.Event)

/-- The channel's receiving end is the interface's, and the token `main`'s. -/
def clientEvents (r : RemoteMonitor) : ClientEvent → List ClientEvent
  | .taken | .receiverDropped => []
  | .cancelled => if r.cancelled then [.cancelled] else []
  | e => [e]

/-- What a turn of the interface is to the client. -/
def demands : Demand → List ClientEvent
  | .nothing => []
  | .recv => [.taken]
  | .leave => [.receiverDropped]

/-- The loop after an attempt that ended in an error and the sleep after it. -/
def slept (loop : Proto.Collector) (client : Client) (e : Proto.RemoteError) : Proto.Collector :=
  { loop with
    channel := client.channel
    announced := loop.announced ++ client.announced }.sleep e client.welcomed false

variable (engines : Engines) (layout : Layout) (config : ServerConfig) (remote : RemoteConfig) (lib : Lib)

/-- Events of the server or of the client, on the link that there is. -/
def exchange (r : RemoteMonitor) (events : List LinkEvent) : Duplex :=
  Runs.run (duplexStep layout config remote r.connection) r.duplex events

/-- One event. The connection of a new attempt is accepted after the attempt has begun. -/
def step (r : RemoteMonitor) : Event → RemoteMonitor
  | .host e =>
    { r with
      collector := Runs.run (Core.Collector.step (Core.Collector.kindOf engines)) r.collector
        (r.host.demands e)
      duplex := exchange layout config remote r ((r.host.served e).map .server) }
  | .client e =>
    { r with duplex := exchange layout config remote r ((r.clientEvents e).map .client) }
  | .reconnect connection =>
    match r.client.phase with
    | .returned (.error e) =>
      if r.cancelled ∨ connection < r.duplex.link.server.tasks.length then r
      else
        { r with
          duplex := ⟨⟨r.duplex.link.server, Client.start r.client.channel, []⟩, []⟩
          connection := connection
          loop := slept r.loop r.client e
          earlier := r.earlier ++ r.client.forwarded }
    | _ => r
  | .interface e =>
    { r with
      duplex := exchange layout config remote r ((demands (r.interface.demand e)).map .client)
      cancelled := r.cancelled || decide (r.interface.demand e = .leave)
      interface := r.interface.step lib r.next e }

/-- The channel that `main` makes. -/
def channel : SnapshotChannel := ⟨4, [], false⟩

/-- The server has been running for a while, or not; the remote collector is linked to its connection
`connection`. -/
def start (now : Server.Instant) (connection : ℕ) (cli : CliConfig) : RemoteMonitor where
  collector := Core.Collector.spawn engines 4
  duplex := ⟨.start config now channel, []⟩
  connection := connection
  loop := .start channel
  earlier := []
  cancelled := false
  interface := .start cli false false

variable {engines layout config remote lib} {r : RemoteMonitor}

/-! ## The server's machine -/

/-- What happens on the server's machine in a step. -/
def hostEvents (r : RemoteMonitor) : Event → List Host.Event
  | .host (.serve e) => if r.duplex.admits r.connection (.server e) then [.serve e] else []
  | .host e => [e]
  | _ => []

/-- The client's events bring nothing up, and leave the server alone. -/
theorem link_client (s : Duplex) (i : ℕ) (e : ClientEvent) :
    (duplexStep layout config remote i s (.client e)).link =
      Server.linkStep layout config remote i s.link (.client e) := by
  rw [Server.link_duplexStep]
  rfl

/-- What the client does leaves the server as it is. -/
theorem server_client (s : Duplex) (i : ℕ) (e : ClientEvent) :
    (duplexStep layout config remote i s (.client e)).link.server = s.link.server := by
  rw [link_client]
  cases e with
  | arrived piece =>
    simp only [Server.linkStep]
    split_ifs <;> rfl
  | _ => rfl

/-- However much of it there is. -/
theorem server_clients (r : RemoteMonitor) (events : List ClientEvent) :
    (exchange layout config remote r (events.map .client)).link.server = r.duplex.link.server := by
  unfold exchange
  generalize r.duplex = s
  induction events generalizing s with
  | nil => rfl
  | cons e events ih => rw [List.map_cons, Runs.run_cons, ih, server_client]

/-- Events of the server that bring nothing up are what they are without a client. -/
theorem server_exchange (r : RemoteMonitor) {events : List Server.ServerEvent}
    (hup : ∀ e ∈ events, (LinkEvent.server e).arrivingAt r.connection = none) :
    (exchange layout config remote r (events.map .server)).link.server =
      Runs.run (Server.serverStep layout config) r.duplex.link.server events := by
  unfold exchange
  generalize r.duplex = s
  induction events generalizing s with
  | nil => rfl
  | cons e events ih =>
    have hadmits : s.admits r.connection (.server e) = true := by
      unfold Duplex.admits
      rw [hup e List.mem_cons_self]
    rw [List.map_cons, Runs.run_cons, ih fun e' he' => hup e' (List.mem_cons_of_mem _ he'),
      Server.link_duplexStep, if_pos hadmits, Runs.run_cons]
    rfl

/-- The server's machine runs as it does alone. -/
theorem host_step (r : RemoteMonitor) (e : Event) :
    (step engines layout config remote lib r e).host =
      Runs.run (Host.step engines layout config) r.host (r.hostEvents e) := by
  rcases e with e | e | connection | e
  · have hup (hquiet : ∀ e' ∈ r.host.served e, (LinkEvent.server e').arrivingAt r.connection = none) :
        (step engines layout config remote lib r (.host e)).host = Host.step engines layout config r.host e :=
      congrArg (Host.mk _) (server_exchange r hquiet)
    -- Only a serving event of the connection itself can hand bytes to the client.
    rcases e with e | _ | _ | e | _
    · exact hup fun e' he' => absurd he' List.not_mem_nil
    · refine hup fun e' he' => ?_
      simp only [Host.served] at he'
      split_ifs at he'
      · obtain ⟨snapshot, -, rfl⟩ := List.mem_map.1 he'
        rfl
      · cases he'
    · refine hup fun e' he' => ?_
      rw [List.mem_singleton.1 he']
      rfl
    · by_cases hserving : e.isServing = true
      · have hserved : r.host.served (.serve e) = [e] := if_pos hserving
        have hlink : (step engines layout config remote lib r (.host (.serve e))).host =
            ⟨r.collector, (duplexStep layout config remote r.connection r.duplex (.server e)).link.server⟩ := by
          simp only [step, exchange, hserved]
          rfl
        rw [hlink, Server.link_duplexStep, hostEvents]
        split_ifs with hadmits
        · show _ = Host.step engines layout config r.host (.serve e)
          simp only [Host.step, hserved]
          rfl
        · rfl
      · have hserved : r.host.served (.serve e) = [] := if_neg hserving
        have hsame : Host.step engines layout config r.host (.serve e) = r.host := by
          simp only [Host.step, hserved]
          rfl
        have hstays : (step engines layout config remote lib r (.host (.serve e))).host = r.host := by
          simp only [step, exchange, hserved]
          rfl
        rw [hstays, hostEvents]
        split_ifs
        · exact hsame.symm
        · rfl
    · refine hup fun e' he' => ?_
      rw [List.mem_singleton.1 he']
      rfl
  · exact congrArg (Host.mk _) (server_clients r _)
  · unfold step
    simp only
    split
    · split_ifs <;> rfl
    · rfl
  · exact congrArg (Host.mk _) (server_clients r _)

/-! ## What is forwarded -/

/-- What has been broadcast stays so. -/
theorem prefix_relayed (s : Server.ServerState) (e : Server.ServerEvent) :
    s.relayed <+: (Server.serverStep layout config s e).relayed := by
  by_cases hserving : e.isServing = true
  · rw [Host.relayed_serving s hserving]
  · cases e with
    | cancel => exact List.prefix_rfl
    | collected snapshot =>
      cases snapshot with
      | none => exact List.prefix_rfl
      | some snapshot =>
        simp only [Server.serverStep]
        split_ifs
        · rw [Host.relayed_relay]
          exact List.prefix_append _ _
        · exact List.prefix_rfl
    | relayCancelled =>
      simp only [Server.serverStep]
      split_ifs <;> exact List.prefix_rfl
    | _ => exact absurd rfl hserving

/-- A task that was not there before a step subscribes to what is broadcast from then on. -/
theorem subscribed_serverStep {s : Server.ServerState} {i : ℕ} {task : Server.Task} {e : Server.ServerEvent}
    (h : (Server.serverStep layout config s e).tasks[i]? = some task) :
    (∃ before, s.tasks[i]? = some before ∧ before.subscribed = task.subscribed) ∨
      task.subscribed = s.broadcast.sent.length := by
  cases hbefore : s.tasks[i]? with
  | some before =>
    obtain ⟨task', htask', hextends⟩ := Server.exists_task_serverStep layout config hbefore e
    rw [h] at htask'
    obtain rfl := Option.some.inj htask'
    exact .inl ⟨before, rfl, hextends.subscribed.symm⟩
  | none =>
    right
    have hlen := List.getElem?_eq_none_iff.1 hbefore
    have hmore := (List.getElem?_eq_some_iff.1 h).1
    have hcases := Server.serverStep_cases layout config s e
    generalize Server.serverStep layout config s e = s' at h hmore hcases
    have hsame {tasks : List Server.Task} (htasks : s'.tasks = tasks)
        (hlength : tasks.length = s.tasks.length) : task.subscribed = s.broadcast.sent.length := by
      rw [htasks] at hmore
      omega
    rcases hcases with hkept | ⟨snapshot, -⟩ | ⟨call, -⟩ | ⟨j, step, -⟩
    · exact hsame hkept.tasks rfl
    · exact hsame (s.relay_tasks layout snapshot).1 rfl
    · rcases s.accept_cases config call with ⟨-, hkept⟩ | ⟨-, -, -, htasks, -⟩
      · exact hsame hkept.tasks rfl
      · rw [htasks] at h hmore
        have hi : i = s.tasks.length := by
          rw [List.length_append] at hmore
          have hone : ([⟨.tlsHandshake, s.broadcast.sent.length, s.broadcast.sent.length⟩] :
              List Server.Task).length = 1 := rfl
          omega
        rw [hi, List.getElem?_concat_length] at h
        rw [← Option.some.inj h]
    · rcases s.stepTask_cases j step with heq | ⟨other, -, -, heq⟩
      · exact hsame (by rw [heq]) rfl
      · exact hsame (by rw [heq]) List.length_set

/-- What earlier attempts forwarded was broadcast before the connection `i` subscribed. -/
def Earlier (earlier : List SystemSnapshot) (i : ℕ) (server : Server.ServerState) : Prop :=
  ∃ k ≤ server.relayed.length, earlier.Sublist (server.relayed.take k) ∧
    ∀ task, server.tasks[i]? = some task → k ≤ task.subscribed

/-- The server broadcasts more, and a connection keeps its place. -/
theorem Earlier.serverStep {earlier : List SystemSnapshot} {i : ℕ} {s : Server.ServerState}
    (h : Earlier earlier i s) (hchannel : Server.ChannelInv layout config s) (e : Server.ServerEvent) :
    Earlier earlier i (Server.serverStep layout config s e) := by
  obtain ⟨k, hk, hearlier, hsubscribed⟩ := h
  obtain ⟨more, hmore⟩ := @prefix_relayed layout config s e
  refine ⟨k, ?_, ?_, fun task htask => ?_⟩
  · rw [← hmore, List.length_append]
    omega
  · rwa [← hmore, List.take_append_of_le_length hk]
  · rcases subscribed_serverStep htask with ⟨before, hbefore, hsame⟩ | hnew
    · rw [← hsame]
      exact hsubscribed before hbefore
    · rw [hnew, hchannel.sent, List.length_map]
      exact hk

/-- What holds of the link under way and of the ones before. -/
structure Ordered (layout : Layout) (config : ServerConfig) (remote : RemoteConfig) (r : RemoteMonitor) :
    Prop where
  duplex : DuplexInv layout config remote r.connection r.duplex
  earlier : Earlier r.earlier r.connection r.duplex.link.server
  token : r.earlier ≠ [] → remote.token.getD "" = config.shared.authToken

/-- What happens on a link keeps the order on it and the order to the ones before. -/
theorem Ordered.exchange (h : Ordered layout config remote r) (events : List LinkEvent) :
    DuplexInv layout config remote r.connection (r.exchange layout config remote events) ∧
      Earlier r.earlier r.connection (r.exchange layout config remote events).link.server := by
  refine Runs.run_invariant (I := fun s => DuplexInv layout config remote r.connection s ∧
    Earlier r.earlier r.connection s.link.server) (fun s e hs => ?_) events ⟨h.duplex, h.earlier⟩
  refine ⟨hs.1.step e, ?_⟩
  cases e with
  | server e =>
    rw [Server.link_duplexStep]
    split_ifs
    · exact hs.2.serverStep hs.1.link.channel e
    · exact hs.2
  | client e =>
    rw [server_client]
    exact hs.2

/-- What the attempts have forwarded was broadcast, in this order. -/
theorem Ordered.forwarded (h : Ordered layout config remote r) :
    (r.earlier ++ r.client.forwarded).Sublist r.host.server.relayed := by
  obtain ⟨k, hk, hearlier, hsubscribed⟩ := h.earlier
  have hlink := h.duplex.link.inOrder
  cases htask : r.duplex.link.server.tasks[r.connection]? with
  | none =>
    rw [show r.client.forwarded = [] from hlink.unconnected htask, List.append_nil]
    exact hearlier.trans (List.take_sublist _ _)
  | some task =>
    have hlater : r.client.forwarded.Sublist (r.duplex.link.server.relayed.drop k) := by
      refine (hlink.forwarded task htask).trans ?_
      have hdrop := hsubscribed task htask
      rw [show task.subscribed = k + (task.subscribed - k) by omega, ← List.drop_drop]
      exact List.drop_sublist _ _
    have hboth := hearlier.append hlater
    rwa [List.take_append_drop] at hboth

/-- Whoever forwards anything has shown the server's token. -/
theorem Ordered.token_of_forwarded (h : Ordered layout config remote r)
    (hne : r.earlier ++ r.client.forwarded ≠ []) : remote.token.getD "" = config.shared.authToken := by
  by_cases hearlier : r.earlier = []
  · refine h.duplex.token fun hnone => hne ?_
    rw [hearlier, List.nil_append]
    exact hnone
  · exact h.token hearlier

/-- At the start nothing has been forwarded. -/
theorem ordered_start (now : Server.Instant) (connection : ℕ) (cli : CliConfig) :
    Ordered layout config remote (start engines config now connection cli) where
  duplex := .start now channel
  earlier := ⟨0, Nat.zero_le _, List.Sublist.refl _, fun _ _ => Nat.zero_le _⟩
  token hne := absurd rfl hne

/-- A new attempt is linked to a connection that subscribes after all that went before. -/
theorem ordered_step (h : Ordered layout config remote r) (e : Event) :
    Ordered layout config remote (step engines layout config remote lib r e) := by
  rcases e with e | e | connection | e
  · obtain ⟨hduplex, hearlier⟩ := h.exchange ((r.host.served e).map .server)
    exact ⟨hduplex, hearlier, h.token⟩
  · obtain ⟨hduplex, hearlier⟩ := h.exchange ((r.clientEvents e).map .client)
    exact ⟨hduplex, hearlier, h.token⟩
  · unfold step
    simp only
    split
    · split_ifs with hno
      · exact h
      · have hnew : r.duplex.link.server.tasks[connection]? = none :=
          List.getElem?_eq_none (Nat.not_lt.1 fun hlt => hno (.inr hlt))
        refine ⟨⟨⟨h.duplex.link.channel, .start r.client.channel, List.nil_prefix⟩,
          Server.uplink_fresh hnew r.client.channel⟩, ?_, h.token_of_forwarded⟩
        -- the new attempt comes after all that was broadcast
        refine ⟨_, le_rfl, ?_, fun task htask => absurd (hnew.symm.trans htask) nofun⟩
        rw [List.take_length]
        exact h.forwarded
    · exact h
  · obtain ⟨hduplex, hearlier⟩ := h.exchange ((demands (r.interface.demand e)).map .client)
    exact ⟨hduplex, hearlier, h.token⟩

/-! ## The channel to the interface -/

/-- What an event that is not the interface's does to the channel: it adds what is forwarded. A client
gives up at the token, or when the channel is closed. -/
structure Forwards (e : ClientEvent) (client client' : Client) : Prop where
  more : ∃ more, client'.forwarded = client.forwarded ++ more ∧
    client'.channel = { client.channel with queue := client.channel.queue ++ more }
  gaveUp : client'.phase = .returned (.ok ()) →
    client.phase = .returned (.ok ()) ∨ client.channel.closed = true ∨ e = .cancelled

/-- A step that forwards nothing. -/
theorem Forwards.of_same {e : ClientEvent} {client client' : Client}
    (hforwarded : client'.forwarded = client.forwarded) (hchannel : client'.channel = client.channel)
    (hphase : client'.phase = .returned (.ok ()) →
      client.phase = .returned (.ok ()) ∨ client.channel.closed = true ∨ e = .cancelled) :
    Forwards e client client' :=
  ⟨⟨[], by rw [hforwarded, List.append_nil], by rw [hchannel, List.append_nil]⟩, hphase⟩

/-- An attempt that fails forwards nothing. -/
theorem forwards_fail (e : ClientEvent) (client : Client) (error : Proto.RemoteError) :
    Forwards e client (client.fail error) := .of_same rfl rfl fun h => by cases h

/-- The hello forwards nothing. -/
theorem forwards_sendHello (e : ClientEvent) (client : Client) (fault : Option Proto.ErrorKind) :
    Forwards e client (client.sendHello layout remote fault) := by
  unfold Client.sendHello
  split
  · exact forwards_fail e client _
  · split
    · exact .of_same rfl rfl fun h => by cases h
    · exact .of_same rfl rfl fun h => by cases h

/-- What a client does with a message forwards it if it is a snapshot and there is room. -/
theorem forwards_handleMessage (e : ClientEvent) (client : Client) (message : WireMessage) :
    Forwards e client (client.handleMessage message) := by
  cases message with
  | snapshot snapshot =>
    simp only [Client.handleMessage]
    cases hsend : client.channel.trySend snapshot with
    | ok channel =>
      have hchannel : channel = { client.channel with queue := client.channel.queue ++ [snapshot] } := by
        unfold SnapshotChannel.trySend at hsend
        split_ifs at hsend
        exact (Except.ok.inj hsend).symm
      exact ⟨⟨[snapshot], rfl, hchannel⟩, fun h => .inl h⟩
    | error reason =>
      cases reason with
      | full => exact .of_same rfl rfl fun h => .inl h
      | closed =>
        refine .of_same rfl rfl fun _ => .inr (.inl ?_)
        unfold SnapshotChannel.trySend at hsend
        split_ifs at hsend with hclosed
        · exact hclosed
        · cases hsend
  | error code message => exact .of_same rfl rfl fun h => by cases h
  | _ => exact .of_same rfl rfl fun h => .inl h

/-- The answer to the hello forwards nothing. -/
theorem forwards_judgeWelcome (e : ClientEvent) (client : Client) (message : WireMessage) :
    Forwards e client (client.judgeWelcome message) := by
  cases message <;> exact .of_same rfl rfl fun h => by cases h

/-- A read forwards what the handler of its message does. -/
theorem forwards_poll (e : ClientEvent) (client : Client) {handle : Client → WireMessage → Client}
    (hhandle : ∀ client' message, Forwards e client' (handle client' message)) :
    Forwards e client (client.poll layout handle) := by
  unfold Client.poll
  split
  · exact .of_same rfl rfl fun h => .inl h
  · exact .of_same rfl rfl fun h => by cases h
  · exact .of_same rfl rfl fun h => by cases h
  next frame rest hread =>
    split
    · exact .of_same rfl rfl fun h => by cases h
    next message hdecode =>
      obtain ⟨hmore, hgaveUp⟩ := hhandle
        { client with received := rest, messages := client.messages ++ [message] } message
      exact ⟨hmore, hgaveUp⟩

/-- Every event of a client forwards what it puts into the channel, in order. -/
theorem forwards_step (client : Client) {e : ClientEvent} (htaken : e ≠ .taken)
    (hdropped : e ≠ .receiverDropped) : Forwards e client (client.step layout remote e) := by
  have hresolve : Forwards e client (client.resolve layout remote e) := by
    unfold Client.resolve
    -- Phase by phase: only the streaming one can forward, and only what it has just read.
    split
    next => exact .of_same rfl rfl fun h => by cases h
    next => exact forwards_fail _ client _
    next => exact .of_same rfl rfl fun _ => .inr (.inr rfl)
    next => exact .of_same rfl rfl fun h => by cases h
    next => exact forwards_fail _ client _
    next => exact forwards_fail _ client _
    next => exact .of_same rfl rfl fun _ => .inr (.inr rfl)
    next => exact forwards_sendHello _ client _
    next => exact forwards_poll _ client (forwards_judgeWelcome _)
    next => exact forwards_fail _ client _
    next => exact forwards_poll _ client (forwards_handleMessage _)
    next => exact .of_same rfl rfl fun _ => .inr (.inr rfl)
    next => exact .of_same rfl rfl fun h => .inl h
  cases e with
  | arrived piece => exact .of_same rfl rfl fun h => .inl h
  | ended ending => exact .of_same rfl rfl fun h => .inl h
  | taken => exact absurd rfl htaken
  | receiverDropped => exact absurd rfl hdropped
  | _ => exact hresolve

/-- The server's events leave the client alone. -/
theorem client_servers (r : RemoteMonitor) (events : List Server.ServerEvent) :
    (exchange layout config remote r (events.map .server)).link.client = r.client := by
  unfold exchange client
  generalize r.duplex = s
  induction events generalizing s with
  | nil => rfl
  | cons e events ih =>
    rw [List.map_cons, Runs.run_cons, ih, Server.link_duplexStep]
    split_ifs <;> rfl

/-- On the client's side a link takes an event as the client does, arrivals of bytes apart. -/
theorem client_of_not_arrived (r : RemoteMonitor) {e : ClientEvent} (h : ∀ piece, e ≠ .arrived piece) :
    (exchange layout config remote r [.client e]).link.client = r.client.step layout remote e := by
  show (duplexStep layout config remote r.connection r.duplex (.client e)).link.client = _
  rw [link_client, Server.linkStep_client remote r.connection r.duplex.link h]
  rfl

/-- One event of the client's own; bytes may not be there to arrive. -/
theorem client_client (r : RemoteMonitor) (e : ClientEvent) :
    (exchange layout config remote r [.client e]).link.client = r.client ∨
      (exchange layout config remote r [.client e]).link.client = r.client.step layout remote e := by
  by_cases hpiece : ∃ piece, e = .arrived piece
  · obtain ⟨piece, rfl⟩ := hpiece
    have hlink : (exchange layout config remote r [.client (.arrived piece)]).link =
        Server.linkStep layout config remote r.connection r.duplex.link (.client (.arrived piece)) :=
      link_client ..
    rw [hlink]
    simp only [Server.linkStep]
    split_ifs
    · exact .inr rfl
    · exact .inl rfl
  · exact .inr (client_of_not_arrived r fun piece heq => hpiece ⟨piece, heq⟩)

/-- The snapshot that the interface takes in a step. -/
def takes (r : RemoteMonitor) : Event → List SystemSnapshot
  | .interface e => r.interface.takes r.next e
  | _ => []

/-- What has been forwarded has been taken, in order, or is in the channel; the channel is closed, and the
remote collector gives up, only when the interface has left. -/
structure Kept (r : RemoteMonitor) (taken : List SystemSnapshot) : Prop where
  queue : r.earlier ++ r.client.forwarded = taken ++ r.client.channel.queue
  closed : r.client.channel.closed = r.cancelled
  quits : r.interface.Quits r.cancelled
  holds : r.interface.Holds taken
  gaveUp : r.client.phase = .returned (.ok ()) → r.cancelled = true

/-- At the start the channel is empty. -/
theorem kept_start (now : Server.Instant) (connection : ℕ) (cli : CliConfig) :
    (start engines config now connection cli).Kept [] where
  queue := rfl
  closed := rfl
  quits := Interface.quits_start cli false false
  holds := Interface.holds_start cli false false
  gaveUp h := by cases h

/-- A step that leaves the client and the interface alone. -/
theorem Kept.of_same {taken : List SystemSnapshot} (h : r.Kept taken) {r' : RemoteMonitor}
    (hclient : r'.client = r.client) (hearlier : r'.earlier = r.earlier)
    (hcancelled : r'.cancelled = r.cancelled) (hinterface : r'.interface = r.interface) :
    r'.Kept taken := by
  refine ⟨?_, ?_, ?_, ?_, ?_⟩
  · rw [hclient, hearlier]
    exact h.queue
  · rw [hclient, hcancelled]
    exact h.closed
  · rw [hinterface, hcancelled]
    exact h.quits
  · rw [hinterface]
    exact h.holds
  · rw [hclient, hcancelled]
    exact h.gaveUp

/-- What the client forwards waits in the channel. -/
theorem Kept.of_forwards {taken : List SystemSnapshot} (h : r.Kept taken) {e : ClientEvent}
    {duplex : Duplex} (hforwards : Forwards e r.client duplex.link.client)
    (hcancelled : e = .cancelled → r.cancelled = true) :
    ({ r with duplex := duplex } : RemoteMonitor).Kept taken := by
  obtain ⟨more, hforwarded, hchannel⟩ := hforwards.more
  refine ⟨?_, ?_, h.quits, h.holds, fun hphase => ?_⟩
  · show r.earlier ++ duplex.link.client.forwarded = taken ++ duplex.link.client.channel.queue
    rw [hforwarded, hchannel, ← List.append_assoc, h.queue, List.append_assoc]
  · show duplex.link.client.channel.closed = r.cancelled
    rw [hchannel]
    exact h.closed
  · rcases hforwards.gaveUp hphase with hbefore | hclosed | hevent
    · exact h.gaveUp hbefore
    · rw [← h.closed, hclosed]
    · exact hcancelled hevent

/-- An event of the client. -/
theorem kept_client {taken : List SystemSnapshot} (h : r.Kept taken) (e : ClientEvent) :
    (step engines layout config remote lib r (.client e)).Kept taken := by
  -- An event of the channel, or a cancellation while the token is not set, is not the client's own.
  by_cases hown : r.clientEvents e = [e] ∧ e ≠ .taken ∧ e ≠ .receiverDropped
  · obtain ⟨hone, htaken, hdropped⟩ := hown
    have hcancelled : e = .cancelled → r.cancelled = true := by
      rintro rfl
      by_contra hno
      simp only [clientEvents, if_neg hno] at hone
      cases hone
    have hsame : Forwards e r.client r.client :=
      .of_same rfl rfl fun hphase => .inl hphase
    refine h.of_forwards (e := e) ?_ hcancelled
    rw [hone]
    rcases client_client r e with hclient | hclient
    · rw [List.map_singleton, hclient]
      exact hsame
    · rw [List.map_singleton, hclient]
      exact forwards_step r.client htaken hdropped
  · have hnone : r.clientEvents e = [] := by
      cases e with
      | cancelled =>
        unfold clientEvents
        split_ifs with hcancelled
        · exact absurd ⟨if_pos hcancelled, nofun, nofun⟩ hown
        · rfl
      | taken => rfl
      | receiverDropped => rfl
      | _ => exact absurd ⟨rfl, nofun, nofun⟩ hown
    have hstays : step engines layout config remote lib r (.client e) = r := by
      simp only [step, hnone]
      rfl
    rw [hstays]
    exact h

/-- A turn of the interface takes what the channel has first, or closes it. -/
theorem client_demands (r : RemoteMonitor) (demand : Demand) :
    (exchange layout config remote r ((demands demand).map .client)).link.client =
      match demand with
      | .nothing => r.client
      | .recv => { r.client with channel.queue := r.client.channel.queue.tail }
      | .leave => { r.client with channel.closed := true } := by
  cases demand with
  | nothing => rfl
  | recv => exact client_of_not_arrived r nofun
  | leave => exact client_of_not_arrived r nofun

/-- A turn of the interface takes what is first in the channel, or leaves. -/
theorem kept_interface {taken : List SystemSnapshot} (h : r.Kept taken) (e : Interface.Event) :
    (step engines layout config remote lib r (.interface e)).Kept (taken ++ r.interface.takes r.next e) := by
  have hquits := @Interface.quits_step lib r.next r.interface _ h.quits e
  have hholds := @Interface.holds_step lib r.next r.interface taken h.holds e
  have hclient := @client_demands layout config remote r (r.interface.demand e)
  have htakes : r.interface.takes r.next e = if r.interface.demand e = .recv then r.next.toList else [] := rfl
  generalize hstep : step engines layout config remote lib r (.interface e) = r'
  have hparts : r'.client =
      (exchange layout config remote r ((demands (r.interface.demand e)).map .client)).link.client ∧
      r'.earlier = r.earlier ∧
      r'.cancelled = (r.cancelled || decide (r.interface.demand e = .leave)) ∧
      r'.interface = r.interface.step lib r.next e := by
    subst hstep
    exact ⟨rfl, rfl, rfl, rfl⟩
  obtain ⟨hclient', hearlier, hcancelled, hinterface⟩ := hparts
  rw [hclient] at hclient'
  rw [← hcancelled, ← hinterface] at hquits
  rw [← hinterface] at hholds
  rw [htakes] at hholds ⊢
  generalize r.interface.demand e = demand at *
  rcases demand with _ | _ | _
  case nothing =>
    have hcancelled' : r'.cancelled = r.cancelled := hcancelled.trans (Bool.or_false _)
    refine ⟨?_, ?_, hquits, hholds, ?_⟩
    · rw [hearlier, hclient', if_neg (by decide), List.append_nil]
      exact h.queue
    · rw [hclient', hcancelled']
      exact h.closed
    · rw [hclient', hcancelled']
      exact h.gaveUp
  case recv =>
    have hcancelled' : r'.cancelled = r.cancelled := hcancelled.trans (Bool.or_false _)
    refine ⟨?_, ?_, hquits, hholds, ?_⟩
    · rw [hearlier, hclient', if_pos rfl]
      show r.earlier ++ r.client.forwarded = _ ++ r.client.channel.queue.tail
      rw [h.queue, next]
      rcases r.client.channel.queue with _ | ⟨snapshot, queue⟩
      · simp
      · simp
    · rw [hclient', hcancelled']
      exact h.closed
    · rw [hclient', hcancelled']
      exact h.gaveUp
  case leave =>
    have hcancelled' : r'.cancelled = true := hcancelled.trans (Bool.or_true _)
    refine ⟨?_, ?_, hquits, hholds, fun _ => hcancelled'⟩
    · rw [hearlier, hclient', if_neg (by decide), List.append_nil]
      exact h.queue
    · rw [hclient', hcancelled']

/-- Any event: nothing gets lost between the client and the interface. -/
theorem kept_step {taken : List SystemSnapshot} (h : r.Kept taken) (e : Event) :
    (step engines layout config remote lib r e).Kept (taken ++ r.takes e) := by
  rcases e with e | e | connection | e
  · show Kept _ (taken ++ [])
    rw [List.append_nil]
    exact h.of_same (client_servers r (r.host.served e)) rfl rfl rfl
  · show Kept _ (taken ++ [])
    rw [List.append_nil]
    exact kept_client h e
  · show Kept _ (taken ++ [])
    rw [List.append_nil]
    unfold step
    simp only
    split
    · split_ifs
      · exact h
      · refine ⟨?_, h.closed, h.quits, h.holds, fun hphase => by cases hphase⟩
        show r.earlier ++ r.client.forwarded ++ [] = _
        rw [List.append_nil]
        exact h.queue
    · exact h
  · exact kept_interface h e

/-! ## Runs -/

/-- What the two programs are started with, and the connection of the first attempt. -/
structure Setup where
  engines : Engines
  layout : Layout
  config : ServerConfig
  remote : RemoteConfig
  lib : Lib
  cli : CliConfig
  now : Server.Instant
  connection : ℕ

variable (p : Setup)

def Setup.step : RemoteMonitor → Event → RemoteMonitor :=
  RemoteMonitor.step p.engines p.layout p.config p.remote p.lib

def Setup.start : RemoteMonitor := RemoteMonitor.start p.engines p.config p.now p.connection p.cli

def run (events : List Event) : RemoteMonitor := Runs.run p.step p.start events

/-- What happens on the server's machine in a run. -/
def hostTrace (events : List Event) : List Host.Event := Runs.trace p.step hostEvents p.start events

/-- The snapshots that the interface has taken, oldest first. -/
def taken (events : List Event) : List SystemSnapshot := Runs.trace p.step takes p.start events

/-- What the collector of the server's machine sees of a run. -/
def collectorEvents (events : List Event) : List Core.Collector.Event :=
  Host.collectorEvents p.engines p.layout p.config p.now (hostTrace p events)

variable {p} {events : List Event}

/-- A run ends with its last event. -/
theorem run_concat (events : List Event) (e : Event) : run p (events ++ [e]) = p.step (run p events) e :=
  Runs.run_append _ _ _ _

/-- The server's machine runs the server program, on the events that are its own. -/
theorem host_run (events : List Event) :
    (run p events).host = Host.run p.engines p.layout p.config p.now (hostTrace p events) := by
  induction events using List.reverseRecOn with
  | nil => rfl
  | append_singleton events e ih =>
    have htrace : hostTrace p (events ++ [e]) = hostTrace p events ++ (run p events).hostEvents e := by
      rw [hostTrace, Runs.trace_append, Runs.trace_cons, Runs.trace_nil, List.append_nil]
      rfl
    rw [run_concat, Setup.step, host_step, ih, htrace, Host.run, Host.run, Runs.run_append]

/-- The order holds in every run. -/
theorem ordered_run (events : List Event) : Ordered p.layout p.config p.remote (run p events) :=
  Runs.run_invariant (I := Ordered p.layout p.config p.remote) (fun _ e h => ordered_step h e) events
    (ordered_start p.now p.connection p.cli)

/-- Nothing gets lost in any run. -/
theorem kept_run (events : List Event) : (run p events).Kept (taken p events) := by
  induction events using List.reverseRecOn with
  | nil => exact kept_start p.now p.connection p.cli
  | append_singleton events e ih =>
    rw [run_concat, taken, Runs.trace_append, Runs.trace_cons, Runs.trace_nil, List.append_nil]
    exact kept_step ih e

/-- What the interface has taken was broadcast, in this order. -/
theorem taken_sublist_relayed (events : List Event) :
    (taken p events).Sublist (run p events).host.server.relayed := by
  have hforwarded := (@ordered_run p events).forwarded
  rw [(@kept_run p events).queue] at hforwarded
  exact (List.sublist_append_left _ _).trans hforwarded

/-- What the interface takes was collected on the server's machine. -/
theorem collected_of_taken {snapshot : SystemSnapshot} (h : snapshot ∈ taken p events) :
    Core.Collector.Collected p.engines 4 (collectorEvents p events) snapshot := by
  have hrelayed := (taken_sublist_relayed events).subset h
  rw [host_run] at hrelayed
  exact Host.collected_of_relayed hrelayed

/-- Nothing is taken unless the token is the server's. -/
theorem token_of_taken (h : taken p events ≠ []) : p.remote.token.getD "" = p.config.shared.authToken := by
  have hne : (run p events).earlier ++ (run p events).client.forwarded ≠ [] := by
    rw [(@kept_run p events).queue]
    exact fun hnone => h (List.append_eq_nil_iff.1 hnone).1
  exact (ordered_run events).token_of_forwarded hne

/-- Nothing but a delivery changes what is shown. -/
theorem lastSnapshot_step (r : RemoteMonitor) (e : Event) :
    (p.step r e).interface.app.lastSnapshot = r.interface.app.lastSnapshot ∨
      ∃ w snapshot, e = .interface (.drain w) ∧ r.interface.Delivers r.next snapshot := by
  rcases e with e | e | connection | e
  · exact .inl rfl
  · exact .inl rfl
  · left
    simp only [Setup.step, step]
    split
    · split_ifs <;> rfl
    · rfl
  · rcases @Interface.lastSnapshot_step p.lib r.next r.interface e with
      hsame | ⟨w, snapshot, rfl, hdelivers⟩
    · exact .inl hsame
    · exact .inr ⟨w, snapshot, rfl, hdelivers⟩

/-- **A remote interface shows what was collected on the server's machine.** In every run of the
collector, the relay, the accept loop and the sessions on one machine and of the remote collector, with its
reconnections, the interface and the user on the other, whatever the network delivers in between and
however: what the interface takes comes from the collector, in order, unaltered and at most once each; a
snapshot that is shown was the last one taken, had been collected within one tick, and is shown until the
next one; and nothing is taken unless the two machines have one token. -/
theorem shows_remote_machine (p : Setup) (events : List Event) :
    (taken p events).Sublist
        (Core.Collector.publications p.engines 4 Core.Collector.State.received (collectorEvents p events)) ∧
      (taken p events ≠ [] → p.remote.token.getD "" = p.config.shared.authToken) ∧
      ∀ snapshot, (run p events).interface.app.lastSnapshot = some snapshot →
        ∃ before w after, events = before ++ .interface (.drain w) :: after ∧
          (run p before).interface.Delivers (run p before).next snapshot ∧
          (taken p before).getLast? = some snapshot ∧
          Core.Collector.Collected p.engines 4 (collectorEvents p before) snapshot ∧
          ∀ mid, mid <+: after →
            (run p (before ++ .interface (.drain w) :: mid)).interface.app.lastSnapshot =
              some snapshot := by
  refine ⟨?_, token_of_taken, fun snapshot hshown => ?_⟩
  · have hrelayed := @taken_sublist_relayed p events
    rw [host_run] at hrelayed
    have hreceived := hrelayed.trans (Host.relayed_sublist_taken _)
    rwa [Host.taken_eq] at hreceived
  · have hnone : ¬ p.start.interface.app.lastSnapshot = some snapshot := fun h => by cases h
    obtain ⟨before, e, after, rfl, hbefore, hkept⟩ := Runs.exists_gaining_step
      (I := fun r : RemoteMonitor => r.interface.app.lastSnapshot = some snapshot) events hnone hshown
    have hgained := hkept [] (List.nil_prefix ..)
    rw [Runs.run_append] at hgained
    change ¬ (run p before).interface.app.lastSnapshot = some snapshot at hbefore
    change (p.step (run p before) e).interface.app.lastSnapshot = some snapshot at hgained
    rcases @lastSnapshot_step p (run p before) e with hsame | ⟨w, found, rfl, hdelivers⟩
    · exact absurd (hsame ▸ hgained) hbefore
    · obtain rfl := Option.some.inj ((Interface.lastSnapshot_of_delivers hdelivers w).symm.trans hgained)
      have hlast := (kept_run before).holds found hdelivers.poll
      exact ⟨before, w, after, rfl, hdelivers, hlast, collected_of_taken (List.mem_of_getLast? hlast),
        hkept⟩

/-! ## Reconnecting, and the end -/

/-- The remote collector's task has ended: it gave up, or the token fired in the sleep after an attempt
that failed. -/
def done (r : RemoteMonitor) : Prop :=
  r.client.phase = .returned (.ok ()) ∨
    r.cancelled = true ∧ ∃ e, r.client.phase = .returned (.error e)

/-- What ends an attempt under way once the token has fired: the token, where it is selected on, and
otherwise what the attempt waits for. -/
def ending (error : Proto.ErrorKind) : ClientPhase → ClientEvent
  | .writingHello => .helloWritten (some error)
  | .awaitingWelcome => .handshakeTimeout
  | _ => .cancelled

/-- An event that is the client's own is taken up. -/
theorem client_own {e : ClientEvent} (hown : r.clientEvents e = [e]) (h : ∀ piece, e ≠ .arrived piece) :
    (step engines layout config remote lib r (.client e)).client = r.client.step layout remote e := by
  show (exchange layout config remote r ((r.clientEvents e).map .client)).link.client = _
  rw [hown]
  exact client_of_not_arrived r h

/-- Once the token has fired the client learns of it. -/
theorem client_cancelled (h : r.cancelled = true) :
    (step engines layout config remote lib r (.client .cancelled)).client =
      r.client.step layout remote .cancelled :=
  client_own (if_pos h) fun piece hpiece => by cases hpiece

/-- A hello that cannot be written ends the attempt. -/
theorem sendHello_fault (client : Client) (error : Proto.ErrorKind) :
    ∃ e, (client.sendHello layout remote (some error)).phase = .returned (.error e) := by
  unfold Client.sendHello
  split
  · exact ⟨_, rfl⟩
  next helloFrame _ =>
    rcases hencode : Proto.encodeFrame helloFrame with e | bytes
    · simp only [Proto.writeFrame, hencode]
      exact ⟨_, rfl⟩
    · simp only [Proto.writeFrame, hencode]
      exact ⟨_, rfl⟩

/-- Whatever an attempt is at, one event ends it. -/
theorem done_ending (h : r.cancelled = true) (error : Proto.ErrorKind) :
    (step engines layout config remote lib r (.client (ending error r.client.phase))).done := by
  unfold done
  show (step engines layout config remote lib r (.client _)).client.phase = _ ∨ r.cancelled = true ∧ _
  cases hphase : r.client.phase with
  | connecting =>
    rw [show ending error .connecting = .cancelled from rfl, client_cancelled h]
    left
    simp only [Client.step, Client.resolve, hphase]
  | tlsHandshake =>
    rw [show ending error .tlsHandshake = .cancelled from rfl, client_cancelled h]
    left
    simp only [Client.step, Client.resolve, hphase]
  | streaming =>
    rw [show ending error .streaming = .cancelled from rfl, client_cancelled h]
    left
    simp only [Client.step, Client.resolve, hphase]
  | writingHello =>
    rw [ending, client_own rfl fun piece hpiece => by cases hpiece]
    simp only [Client.step, Client.resolve, hphase]
    exact .inr ⟨h, sendHello_fault r.client error⟩
  | awaitingWelcome =>
    rw [ending, client_own rfl fun piece hpiece => by cases hpiece]
    simp only [Client.step, Client.resolve, hphase]
    exact .inr ⟨h, _, rfl⟩
  | returned result =>
    rw [show ending error (.returned result) = .cancelled from rfl, client_cancelled h]
    have hsame : r.client.step layout remote .cancelled = r.client := by
      simp only [Client.step, Client.resolve, hphase]
    rw [hsame, hphase]
    rcases result with e | _
    · exact .inr ⟨h, e, rfl⟩
    · exact .inl rfl

/-- **The remote collector gives up only when the user has.** In every run: whatever the server and the
network do, its task ends only after the user has quit or the terminal has failed; until then an attempt
that has failed is followed by another, once the sleep is over, on the channel as it was; and after that,
one turn of the interface and one event of the attempt under way end the task. -/
theorem reconnects_until_quit (p : Setup) (events : List Event) :
    let r := run p events
    let stopped := r.interface.app.running = false ∨ r.interface.poll = .gone true
    (r.done → stopped) ∧
      (¬ stopped → ∀ e, r.client.phase = .returned (.error e) →
        ∀ connection, r.host.server.tasks.length ≤ connection →
          (run p (events ++ [.reconnect connection])).client = .start r.client.channel) ∧
      (stopped → ∀ w error, ∃ e,
        e = ending error (run p (events ++ [.interface (.drain w)])).client.phase ∧
          (run p (events ++ [.interface (.drain w), .client e])).done) := by
  intro r stopped
  have hkept : r.Kept (taken p events) := kept_run events
  have hleft (hcancelled : r.cancelled = true) : stopped := by
    have hgone := hkept.quits.left.1 hcancelled
    unfold Interface.there at hgone
    obtain ⟨failed, hpoll⟩ := Classical.not_forall_not.1 hgone
    rcases failed with _ | _
    · exact .inl (hkept.quits.quit hpoll)
    · exact .inr hpoll
  refine ⟨?_, ?_, ?_⟩
  · rintro (hgaveUp | ⟨hcancelled, -⟩)
    · exact hleft (hkept.gaveUp hgaveUp)
    · exact hleft hcancelled
  · intro hgoing e hphase connection hnew
    have hno : ¬ (r.cancelled = true ∨ connection < r.duplex.link.server.tasks.length) := by
      rintro (hcancelled | hlt)
      · exact hgoing (hleft hcancelled)
      · exact Nat.not_lt.2 hnew hlt
    rw [run_concat]
    show (p.step r (.reconnect connection)).client = _
    simp only [Setup.step, step, hphase, if_neg hno]
    rfl
  · intro hstopped w error
    refine ⟨_, rfl, ?_⟩
    have hcancelled : (p.step r (.interface (.drain w))).cancelled = true := by
      show (r.cancelled || decide (r.interface.demand (.drain w) = .leave)) = true
      have hgone {failed : Bool} (hpoll : r.interface.poll = .gone failed) : r.cancelled = true :=
        hkept.quits.left.2 (Interface.not_there hpoll)
      rcases hstopped with hstopped | hpoll
      · rcases hkept.quits.stopped hstopped with hpoll | ⟨failed, hpoll⟩
        · simp [Interface.demand, hpoll, hstopped]
        · rw [hgone hpoll, Bool.true_or]
      · rw [hgone hpoll, Bool.true_or]
    rw [← List.singleton_append, ← List.append_assoc, run_concat, run_concat]
    exact done_ending hcancelled error

end RemoteMonitor

end Muxtop.Tui
