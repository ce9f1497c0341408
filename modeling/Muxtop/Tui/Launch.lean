import Muxtop.Proto.RemoteTarget
import Muxtop.Server.Login
import Muxtop.Tui.ReadOnly

/-!
# Starting up

Reference: `run_app` of `src/main.rs`, up to where the collector is spawned.

What is monitored is decided once: this machine, with the engines that it has, or a remote one, over a
connection whose target, token and certificate are settled before anything is spawned.
-/

namespace Muxtop.Tui

open Muxtop.Core (SortField)
open Muxtop.Proto (SocketAddr ServerName RemoteTargetError parseRemoteTarget)

/-- The options of the command line that the start depends on. -/
structure Cli where
  filter : Option String := none
  sort : SortField := .cpu
  tree : Bool := false
  theme : ThemeKind := .tokyoNight
  remote : Option String := none
  token : Server.TokenArgs := ⟨none, none⟩
  tlsCa : Option String := none
  tlsSkipVerify : Bool := false
  noContainers : Bool := false
  noKube : Bool := false
  noGpu : Bool := false

/-- What the machine answers at the start: whether the directory of the log can be made and the log opened
in it, the resolver, whether a container daemon and a cluster can be reached, and whether a CA file can be
loaded. -/
structure Machine where
  createDataDir : Except String Unit
  openLog : Except String Unit
  names : Proto.Names
  containerEngine : Bool
  clusterEngine : Bool
  connectorFromCa : String → Except String Unit
  /-- how an address is written -/
  display : SocketAddr → String

/-- Which certificates the connection accepts. -/
inductive TlsConnector
  | fromCa (path : String)
  | insecure
deriving DecidableEq

structure RemoteSource where
  addr : SocketAddr
  serverName : ServerName
  token : String
  tlsConnector : TlsConnector

/-- What the snapshots come from. -/
inductive Source
  | thisMachine (containers cluster gpu : Bool)
  | remote (source : RemoteSource)

/-- What `run_app` spawns the collector and the interface with. -/
structure Launch where
  source : Source
  config : CliConfig
  containerEngine : Bool
  clusterEngine : Bool

/-- Why nothing is started; a failure of the log comes with what was tried. -/
inductive LaunchError
  | log (context cause : String)
  | target (remote : String) (source : RemoteTargetError)
  | token (message : String)
  | ca (message : String)
  | noCa

def initTracing (m : Machine) : Except LaunchError Unit :=
  match m.createDataDir with
  | .error cause => .error (.log "failed to create muxtop data directory" cause)
  | .ok () =>
    match m.openLog with
    | .error cause => .error (.log "failed to open log file" cause)
    | .ok () => .ok ()

namespace Cli

def tlsConnector (cli : Cli) (m : Machine) : Except LaunchError TlsConnector :=
  match cli.tlsCa with
  | some path =>
    match m.connectorFromCa path with
    | .ok () => .ok (.fromCa path)
    | .error message => .error (.ca message)
  | none => if cli.tlsSkipVerify then .ok .insecure else .error .noCa

def config (cli : Cli) (mode : ConnectionMode) : CliConfig where
  filter := cli.filter
  sortField := cli.sort
  treeMode := cli.tree
  theme := cli.theme
  connectionMode := mode

def runApp (cli : Cli) (m : Machine) : Except LaunchError Launch :=
  match initTracing m with
  | .error e => .error e
  | .ok () =>
    let containerEngine := cli.remote.isNone && !cli.noContainers && m.containerEngine
    let clusterEngine := cli.remote.isNone && !cli.noKube && m.clusterEngine
    let gpuEngine := cli.remote.isNone && !cli.noGpu
    match cli.remote with
    | some raw =>
      match parseRemoteTarget m.names raw with
      | .error e => .error (.target raw e)
      | .ok (addr, serverName) =>
        match Server.clientToken cli.token with
        | .error message => .error (.token message)
        | .ok token =>
          match cli.tlsConnector m with
          | .error e => .error e
          | .ok tlsConnector =>
            .ok ⟨.remote ⟨addr, serverName, token, tlsConnector⟩,
              cli.config (.remote raw (m.display addr)), containerEngine, clusterEngine⟩
    | none =>
      .ok ⟨.thisMachine containerEngine clusterEngine gpuEngine, cli.config .local, containerEngine,
        clusterEngine⟩

/-! ## What a launch comes to -/

theorem initTracing_eq_ok_iff {m : Machine} :
    initTracing m = .ok () ↔ m.createDataDir = .ok () ∧ m.openLog = .ok () := by
  unfold initTracing
  cases m.createDataDir with
  | error cause => simp
  | ok made => cases m.openLog <;> simp

theorem tlsConnector_eq_ok_iff {cli : Cli} {m : Machine} {c : TlsConnector} :
    cli.tlsConnector m = .ok c ↔
      (∃ path, cli.tlsCa = some path ∧ m.connectorFromCa path = .ok () ∧ c = .fromCa path) ∨
        (cli.tlsCa = none ∧ cli.tlsSkipVerify = true ∧ c = .insecure) := by
  unfold tlsConnector
  cases hca : cli.tlsCa with
  | none =>
    cases hskip : cli.tlsSkipVerify with
    | false => simp
    | true => simp [eq_comm (a := TlsConnector.insecure)]
  | some path =>
    cases hloads : m.connectorFromCa path with
    | error message => simp [hloads]
    | ok loaded => simp [hloads, eq_comm (a := TlsConnector.fromCa path)]

theorem runApp_remote_iff {cli : Cli} {m : Machine} {raw : String} (hremote : cli.remote = some raw)
    {launch : Launch} :
    cli.runApp m = .ok launch ↔ initTracing m = .ok () ∧ ∃ addr serverName token tlsConnector,
      parseRemoteTarget m.names raw = .ok (addr, serverName) ∧ Server.clientToken cli.token = .ok token ∧
        cli.tlsConnector m = .ok tlsConnector ∧
        launch = ⟨.remote ⟨addr, serverName, token, tlsConnector⟩,
          cli.config (.remote raw (m.display addr)), false, false⟩ := by
  unfold runApp
  simp only [hremote]
  cases initTracing m with
  | error e => simp
  | ok opened =>
    -- The branches of the source, in its order; each failure ends the launch.
    simp only [true_and]
    cases htarget : parseRemoteTarget m.names raw with
    | error e => simp
    | ok target =>
      cases htoken : Server.clientToken cli.token with
      | error message => simp
      | ok token =>
        cases htls : cli.tlsConnector m with
        | error e => simp
        | ok tlsConnector =>
          simp only [Except.ok.injEq]
          constructor
          · rintro rfl
            exact ⟨_, _, _, _, rfl, rfl, rfl, rfl⟩
          · rintro ⟨addr, serverName, _, _, rfl, rfl, rfl, rfl⟩
            rfl

/-- **What starts a remote monitor.** With a remote target the program starts exactly if its log can be
opened, the target can be parsed, the token passes its rules, and there is a CA that loads or certificates
are not to be verified at all. Then it connects to that target with that token, of 16 bytes at least; it
verifies the certificate unless it was told not to and given no CA; no engine of this machine is attached
to the interface; and whatever happens in the interface, it asks for no confirmation and does nothing to
this machine. -/
theorem remote_launch (cli : Cli) (m : Machine) (raw : String) (hremote : cli.remote = some raw) :
    ((cli.runApp m).toOption.isSome ↔
      (m.createDataDir = .ok () ∧ m.openLog = .ok ()) ∧
        (parseRemoteTarget m.names raw).toOption.isSome ∧ (Server.clientToken cli.token).toOption.isSome ∧
        ((∃ path, cli.tlsCa = some path ∧ m.connectorFromCa path = .ok ()) ∨
          cli.tlsCa = none ∧ cli.tlsSkipVerify = true)) ∧
      ∀ launch, cli.runApp m = .ok launch →
        (∃ source, launch.source = .remote source ∧
          parseRemoteTarget m.names raw = .ok (source.addr, source.serverName) ∧
          16 ≤ source.token.utf8ByteSize ∧
          (source.tlsConnector = .insecure ↔ cli.tlsCa = none ∧ cli.tlsSkipVerify = true)) ∧
        launch.containerEngine = false ∧ launch.clusterEngine = false ∧
        ∀ lib inputs,
          let s := Runs.run (AppState.step lib)
            (.withConfig launch.config launch.containerEngine launch.clusterEngine) inputs
          s.confirm = none ∧ s.performed = [] := by
  constructor
  · -- the parts of a launch are independent of each other
    constructor
    · intro hstart
      obtain ⟨launch, hlaunch⟩ := Option.isSome_iff_exists.1 hstart
      have hok : cli.runApp m = .ok launch := by
        rcases hrun : cli.runApp m with e | launch'
        · rw [hrun] at hlaunch
          cases hlaunch
        · rw [hrun] at hlaunch
          cases hlaunch
          rfl
      obtain ⟨hlog, addr, serverName, token, connector, htarget, htoken, htls, -⟩ :=
        (runApp_remote_iff hremote).1 hok
      refine ⟨initTracing_eq_ok_iff.1 hlog, by rw [htarget]; rfl, by rw [htoken]; rfl, ?_⟩
      rcases tlsConnector_eq_ok_iff.1 htls with ⟨path, hca, hloads, -⟩ | ⟨hca, hskip, -⟩
      · exact .inl ⟨path, hca, hloads⟩
      · exact .inr ⟨hca, hskip⟩
    · rintro ⟨hlog, htarget, htoken, htls⟩
      rcases hparsed : parseRemoteTarget m.names raw with e | ⟨addr, serverName⟩
      · rw [hparsed] at htarget
        cases htarget
      rcases hread : Server.clientToken cli.token with message | token
      · rw [hread] at htoken
        cases htoken
      have hconnector : ∃ connector, cli.tlsConnector m = .ok connector := by
        rcases htls with ⟨path, hca, hloads⟩ | ⟨hca, hskip⟩
        · exact ⟨_, tlsConnector_eq_ok_iff.2 (.inl ⟨path, hca, hloads, rfl⟩)⟩
        · exact ⟨_, tlsConnector_eq_ok_iff.2 (.inr ⟨hca, hskip, rfl⟩)⟩
      obtain ⟨connector, hconnector⟩ := hconnector
      have hok := (runApp_remote_iff hremote).2
        ⟨initTracing_eq_ok_iff.2 hlog, addr, serverName, token, connector, hparsed, hread, hconnector, rfl⟩
      rw [hok]
      rfl
  · intro launch hok
    obtain ⟨-, addr, serverName, token, connector, htarget, htoken, htls, rfl⟩ :=
      (runApp_remote_iff hremote).1 hok
    refine ⟨⟨_, rfl, htarget, Server.le_of_tokenOf htoken, ?_⟩, rfl, rfl, fun lib inputs => ?_⟩
    · rcases tlsConnector_eq_ok_iff.1 htls with ⟨path, hca, -, rfl⟩ | ⟨hca, hskip, rfl⟩
      · simp [hca]
      · simp [hca, hskip]
    · have hend : ReadOnly (Runs.run (AppState.step lib) _ inputs) :=
        Runs.run_invariant (I := ReadOnly) (fun _ input h => AppState.readOnly_step h input) inputs
          (AppState.readOnly_withConfig (cli.config .local) raw (m.display addr) false false)
      exact ⟨hend.confirm, hend.performed⟩

/-- A target that is an address, a token of the command line, and certificates that are not verified. -/
theorem remote_launch_insecure :
    (Cli.runApp
        { remote := some "10.0.0.5:4242", token := ⟨none, some "0123456789abcdef"⟩, tlsSkipVerify := true }
        { createDataDir := .ok ()
          openLog := .ok ()
          names := ⟨fun _ _ => .error "no answer", fun _ => .error "invalid dns name"⟩
          containerEngine := true
          clusterEngine := true
          connectorFromCa := fun _ => .error "no such file"
          display := fun _ => "10.0.0.5:4242" }).toOption.isSome := by
  refine (remote_launch
    { remote := some "10.0.0.5:4242", token := ⟨none, some "0123456789abcdef"⟩, tlsSkipVerify := true }
    _ "10.0.0.5:4242" rfl).1.2 ⟨⟨rfl, rfl⟩, ?_, ?_, .inr ⟨rfl, rfl⟩⟩
  · decide +kernel
  · decide +kernel

end Cli

end Muxtop.Tui
