import Muxtop.Core.CpuQuantity
import Muxtop.Core.KubeConnect
import Muxtop.Foundation.ByteStream
import Muxtop.Foundation.InsertAll
import Muxtop.Foundation.Runs
import Muxtop.Foundation.Saturating

/-!
# The metrics poll loop

Reference: `spawn_metrics_loop`, `tick_metrics`, `fetch_metrics_text` and `read_capped` of
`muxtop-core/src/kube_engine.rs`.

The loop shares the scope and the metrics cache with the calls of `snapshot`, and replaces the cache as a
whole. The bodies come from an aggregated API service, which may send what it likes: they are read up to a
cap, and what `serde_json` makes of them is a parameter.
-/

namespace Muxtop.Core

open ByteStream (Poll Source)

/-! ## Bodies -/

/-- Ceiling on a response body. -/
def maxMetricsBody : ℕ := 16 * 1024 * 1024

/-- What becomes of a buffer whose stream has come to an ending. -/
def bodyOf (utf8Error : List UInt8 → String) (ending : ByteStream.Ending String) (buf : List UInt8) :
    Poll (Except ClusterError String) :=
  match ending with
  | .pending => .pending
  | .fails e => .ready (.error (.other ("metrics body read: " ++ e)))
  | .eof =>
    match String.fromUTF8? ⟨buf.toArray⟩ with
    | some text => .ready (.ok text)
    | none => .ready (.error (.other ("metrics body utf-8: " ++ utf8Error buf)))

def exceeded (cap : ℕ) : ClusterError :=
  .other ("metrics body exceeded " ++ toString cap ++ " bytes; refusing to buffer it")

/-- Buffer at most `cap` bytes of a stream as UTF-8. One byte more is read, so that a longer body is told
from one that fits. -/
def readCapped (utf8Error : List UInt8 → String) (stream : Source String) (cap : ℕ) :
    Poll (Except ClusterError String) :=
  let buf := (ByteStream.fill (cap + 1) stream.pieces).1
  if cap < buf.length then .ready (.error (exceeded cap)) else bodyOf utf8Error stream.ending buf

/-- What a request gives: the reason for which it was refused, or the body. -/
abbrev Response := Except String (Source String)

/-- The body, unless it is refused or does not arrive in time. -/
def fetchMetricsText (utf8Error : List UInt8 → String) (response : Response) : Option String :=
  match response with
  | .error _ => none
  | .ok stream =>
    match readCapped utf8Error stream maxMetricsBody with
    | .ready (.ok body) => some body
    | _ => none

/-! ## JSON -/

/-- `serde_json::Value`; an object has its keys once. -/
inductive Json
  | null
  | bool (b : Bool)
  | number
  | string (s : String)
  | array (items : List Json)
  | object (fields : List (String × Json))

namespace Json

/-- `Value::get` at a key. -/
def get (key : String) : Json → Option Json
  | .object fields => fields.lookup key
  | _ => none

def asStr : Json → Option String
  | .string s => some s
  | _ => none

def asArray : Json → Option (List Json)
  | .array items => some items
  | _ => none

/-- An index into an array: no sign and no leading zero. -/
def parseIndex (token : String) : Option ℕ :=
  if Text.startsWith token "+" || (Text.startsWith token "0" && (Text.bytes token).length ≠ 1) then none
  else Text.parseUnsigned UInt64.size token

/-- `Value::pointer`, at the tokens between the slashes. -/
def pointer (tokens : List String) (v : Json) : Option Json :=
  tokens.foldlM (fun v token =>
    match v with
    | .object fields => fields.lookup token
    | .array items => (parseIndex token).bind (items[·]?)
    | _ => none) v

/-- The text at a pointer, empty where there is none. -/
def textAt (tokens : List String) (v : Json) : String := ((v.pointer tokens).bind asStr).getD ""

end Json

/-! ## One tick -/

/-- What the engine takes from outside to read metrics. -/
structure MetricsReader where
  fromStr : String → Option Json
  /-- how a failed UTF-8 check is told -/
  utf8Error : List UInt8 → String

/-- A tick: the scope that it read, and what the API server gives under each path. -/
structure MetricsTick where
  scope : KubeScope
  respond : String → Response

def nodeMetricsPath : String := "/apis/metrics.k8s.io/v1beta1/nodes"

/-- The CPU usage of a container or a node, if it is told. -/
def cpuUsage (floatMillis : String → Option UInt32) (v : Json) : Option UInt32 :=
  ((v.pointer ["usage", "cpu"]).bind Json.asStr).map (parseMetricsCpuToMillis floatMillis)

/-- The memory usage of a container or a node, if it is told. -/
def memoryUsage (v : Json) : Option UInt64 :=
  ((v.pointer ["usage", "memory"]).bind Json.asStr).map parseQuantityToBytes

/-- The containers of a pod's item. -/
def itemContainers (item : Json) : List Json := ((item.get "containers").bind Json.asArray).getD []

/-- The namespace and the name that an item is told under. -/
def podKey (item : Json) : String × String :=
  (item.textAt ["metadata", "namespace"], item.textAt ["metadata", "name"])

def nodeKey (item : Json) : String := item.textAt ["metadata", "name"]

/-- Add what a container uses. -/
def addUsage (floatMillis : String → Option UInt32) (totals : UInt32 × UInt64) (c : Json) :
    UInt32 × UInt64 :=
  let cpuTotal := match cpuUsage floatMillis c with
    | some cpu => Saturating.add32 totals.1 cpu
    | none => totals.1
  let memTotal := match memoryUsage c with
    | some mem => Saturating.add64 totals.2 mem
    | none => totals.2
  (cpuTotal, memTotal)

/-- Sum CPU and memory across the containers of a pod. -/
def podUsage (floatMillis : String → Option UInt32) (item : Json) : UInt32 × UInt64 :=
  (itemContainers item).foldl (addUsage floatMillis) (0, 0)

def nodeUsage (floatMillis : String → Option UInt32) (item : Json) : UInt32 × UInt64 :=
  ((cpuUsage floatMillis item).getD 0, (memoryUsage item).getD 0)

namespace MetricsReader

variable (reader : MetricsReader)

/-- The items of a body; a body that is missing or is not a list has none. -/
def items (body : Option String) : List Json :=
  (((body.bind reader.fromStr).bind (Json.get "items")).bind Json.asArray).getD []

/-- The two fetches of a tick. -/
def podMetrics (tick : MetricsTick) : Option String :=
  fetchMetricsText reader.utf8Error (tick.respond (podMetricsPath tick.scope))

def nodeMetrics (tick : MetricsTick) : Option String :=
  fetchMetricsText reader.utf8Error (tick.respond nodeMetricsPath)

/-- What a tick writes into the cache: nothing is left of the tick before. -/
def tickMetrics (floatMillis : String → Option UInt32) (tick : MetricsTick) : MetricsCache :=
  let podMetrics := reader.podMetrics tick
  let nodeMetrics := reader.nodeMetrics tick
  if podMetrics.isNone && nodeMetrics.isNone then { available := false, pods := ∅, nodes := ∅ }
  else
    { available := true
      pods := AList.insertAll ∅ (((reader.items podMetrics).filter fun item =>
        (podKey item).1 ≠ "" && (podKey item).2 ≠ "").map fun item => (podKey item, podUsage floatMillis item))
      nodes := AList.insertAll ∅ (((reader.items nodeMetrics).filter fun item =>
        nodeKey item ≠ "").map fun item => (nodeKey item, nodeUsage floatMillis item)) }

end MetricsReader

/-! ## The loop and the engine -/

/-- Where the metrics poll loop is. -/
inductive MetricsLoop
  | awaitsTick
  | fetches (scope : KubeScope)
  | awaitsCache (tick : MetricsTick)
  | stopped

structure MetricsState where
  engine : EngineState
  loop : MetricsLoop

inductive MetricsEvent
  /-- a step of another task of the engine -/
  | engine (e : EngineEvent)
  /-- The loop wakes up and reads the scope. -/
  | tick
  | fetched (respond : String → Response)
  /-- The loop writes its cache. -/
  | write
  /-- The loop takes the cancellation. -/
  | stop

/-- The loop's own write of the cache. -/
def EngineEvent.writesMetrics : EngineEvent → Bool
  | .writeMetrics _ => true
  | _ => false

namespace KubeEngine

variable (engine : KubeEngine) (reader : MetricsReader)

/-- The tick that a step writes into the cache. -/
def written (s : MetricsState) : MetricsEvent → Option MetricsTick
  | .write =>
    match s.loop with
    | .awaitsCache tick => if s.engine.metricsFree then some tick else none
    | _ => none
  | _ => none

/-- A step of the engine with its metrics loop. -/
def stepMetrics (s : MetricsState) : MetricsEvent → MetricsState
  | .engine e => if e.writesMetrics then s else { s with engine := engine.step s.engine e }
  | .tick =>
    match s.loop with
    | .awaitsTick => { s with loop := .fetches s.engine.scope }
    | _ => s
  | .fetched respond =>
    match s.loop with
    | .fetches scope => { s with loop := .awaitsCache ⟨scope, respond⟩ }
    | _ => s
  | .write =>
    match s.loop with
    | .awaitsCache tick =>
      if s.engine.metricsFree then
        { engine := engine.step s.engine (.writeMetrics (reader.tickMetrics engine.floatMillis tick))
          loop := .awaitsTick }
      else s
    | _ => s
  | .stop => { s with loop := .stopped }

def startMetrics («namespace» : Option String) : MetricsState := ⟨connected «namespace», .awaitsTick⟩

def runMetrics («namespace» : Option String) (events : List MetricsEvent) : MetricsState :=
  Runs.run (stepMetrics engine reader) (startMetrics «namespace») events

/-- The ticks that a run has written, the latest last. -/
def ticks («namespace» : Option String) (events : List MetricsEvent) : List MetricsTick :=
  Runs.trace (stepMetrics engine reader) (fun s e => (written s e).toList) (startMetrics «namespace») events

end KubeEngine

/-! ## What is read -/

/-- Bytes are a text when they are the text's bytes. -/
theorem fromUTF8?_eq_some_iff {bytes : List UInt8} {text : String} :
    String.fromUTF8? ⟨bytes.toArray⟩ = some text ↔ Text.bytes text = bytes := by
  unfold String.fromUTF8? Text.bytes
  constructor
  · intro h
    split at h
    · rw [← Option.some.inj h]
      rfl
    · cases h
  · rintro rfl
    have hvalid := text.isValidUTF8
    exact dif_pos hvalid

variable {utf8Error : List UInt8 → String}

/-- A reader with a cap depends on how much there is to read, however it arrives. -/
theorem readCapped_eq (stream : Source String) (cap : ℕ) :
    readCapped utf8Error stream cap =
      if cap < stream.bytes.length then .ready (.error (exceeded cap))
      else bodyOf utf8Error stream.ending stream.bytes := by
  have hfill : (ByteStream.fill (cap + 1) stream.pieces).1 = stream.bytes.take (cap + 1) :=
    ByteStream.fill_fst _ _
  unfold readCapped
  rw [hfill]
  by_cases hlong : cap < stream.bytes.length
  · have htake : cap < (stream.bytes.take (cap + 1)).length := by
      rw [List.length_take]
      omega
    rw [if_pos hlong]
    exact if_pos htake
  · have htake : stream.bytes.take (cap + 1) = stream.bytes := List.take_of_length_le (by omega)
    rw [htake]

/-- A body comes to its end and is a text. -/
theorem bodyOf_eq_ok_iff {ending : ByteStream.Ending String} {buf : List UInt8} {text : String} :
    bodyOf utf8Error ending buf = .ready (.ok text) ↔ ending = .eof ∧ Text.bytes text = buf := by
  rw [← fromUTF8?_eq_some_iff]
  cases ending with
  | pending => exact ⟨nofun, nofun⟩
  | fails e => exact ⟨nofun, nofun⟩
  | eof =>
    show bodyOf utf8Error .eof buf = _ ↔ _
    unfold bodyOf
    cases String.fromUTF8? ⟨buf.toArray⟩ with
    | some found => simp
    | none => simp

/-- One that does not come to its end keeps the reader waiting. -/
theorem bodyOf_eq_pending_iff {ending : ByteStream.Ending String} {buf : List UInt8} :
    bodyOf utf8Error ending buf = .pending ↔ ending = .pending := by
  cases ending with
  | pending => exact ⟨fun _ => rfl, fun _ => rfl⟩
  | fails e => exact ⟨nofun, nofun⟩
  | eof =>
    refine ⟨fun h => ?_, nofun⟩
    unfold bodyOf at h
    dsimp only at h
    split at h <;> cases h

/-- **A body is read as a whole or refused.** It is read if and only if the stream ends within the cap and
spells a text; one that is longer is refused with the cap, whether or not it ever ends, and one that is not
is waited for; and the pieces it arrives in do not matter. -/
theorem readCapped_iff (utf8Error : List UInt8 → String) (stream : Source String) (cap : ℕ) :
    (∀ text, readCapped utf8Error stream cap = .ready (.ok text) ↔
      stream.ending = .eof ∧ stream.bytes.length ≤ cap ∧ Text.bytes text = stream.bytes) ∧
    (cap < stream.bytes.length → readCapped utf8Error stream cap = .ready (.error (exceeded cap))) ∧
    (readCapped utf8Error stream cap = .pending ↔
      stream.ending = .pending ∧ stream.bytes.length ≤ cap) ∧
    ∀ stream' : Source String, stream'.bytes = stream.bytes → stream'.ending = stream.ending →
      readCapped utf8Error stream' cap = readCapped utf8Error stream cap := by
  rw [readCapped_eq]
  refine ⟨fun text => ?_, fun hlong => if_pos hlong, ?_, fun stream' hbytes hending => ?_⟩
  -- a text that is too long is refused before it is looked at
  · by_cases hlong : cap < stream.bytes.length
    · rw [if_pos hlong]
      refine ⟨nofun, ?_⟩
      rintro ⟨-, hle, -⟩
      omega
    · rw [if_neg hlong, bodyOf_eq_ok_iff]
      have hle : stream.bytes.length ≤ cap := by omega
      exact ⟨fun h => ⟨h.1, hle, h.2⟩, fun h => ⟨h.1, h.2.2⟩⟩
  · by_cases hlong : cap < stream.bytes.length
    · rw [if_pos hlong]
      refine ⟨nofun, ?_⟩
      rintro ⟨-, hle⟩
      omega
    · rw [if_neg hlong, bodyOf_eq_pending_iff]
      exact ⟨fun h => ⟨h, by omega⟩, fun h => h.1⟩
  · rw [readCapped_eq, hbytes, hending]

/-! ## The figures of a tick -/

/-- The CPU that a pod's item tells of: the sum over its containers, cut at the greatest `u32`. -/
def cpuTotal (floatMillis : String → Option UInt32) (item : Json) : ℕ :=
  min ((itemContainers item).map fun c => ((cpuUsage floatMillis c).getD 0).toNat).sum (UInt32.size - 1)

/-- The memory that a pod's item tells of, cut at the greatest `u64`. -/
def memoryTotal (item : Json) : ℕ :=
  min ((itemContainers item).map fun c => ((memoryUsage c).getD 0).toNat).sum (UInt64.size - 1)

namespace MetricsReader

variable (reader : MetricsReader)

/-- One of the two bodies has been read. -/
def answered (tick : MetricsTick) : Bool :=
  (reader.podMetrics tick).isSome || (reader.nodeMetrics tick).isSome

/-- The item that tells of a pod: the last under its namespace and its name. -/
def podItem (tick : MetricsTick) (key : String × String) : Option Json :=
  if key.1 ≠ "" && key.2 ≠ "" then
    ((reader.items (reader.podMetrics tick)).filter fun item => podKey item = key).getLast?
  else none

/-- The item that tells of a node: the last under its name. -/
def nodeItem (tick : MetricsTick) (name : String) : Option Json :=
  if name ≠ "" then
    ((reader.items (reader.nodeMetrics tick)).filter fun item => nodeKey item = name).getLast?
  else none

end MetricsReader

variable {reader : MetricsReader} {floatMillis : String → Option UInt32}

/-- A container that does not tell what it uses uses nothing. -/
theorem addUsage_eq (totals : UInt32 × UInt64) (c : Json) :
    addUsage floatMillis totals c =
      (Saturating.add32 totals.1 ((cpuUsage floatMillis c).getD 0),
        Saturating.add64 totals.2 ((memoryUsage c).getD 0)) := by
  unfold addUsage
  rcases cpuUsage floatMillis c with _ | cpu <;> rcases memoryUsage c with _ | mem <;> simp

/-- CPU and memory are summed side by side. -/
theorem foldl_addUsage (l : List Json) (totals : UInt32 × UInt64) :
    l.foldl (addUsage floatMillis) totals =
      (l.foldl (fun total c => Saturating.add32 total ((cpuUsage floatMillis c).getD 0)) totals.1,
        l.foldl (fun total c => Saturating.add64 total ((memoryUsage c).getD 0)) totals.2) := by
  induction l generalizing totals with
  | nil => rfl
  | cons c l ih => rw [List.foldl_cons, ih, addUsage_eq, List.foldl_cons, List.foldl_cons]

/-- The figures of a pod are the sums over its containers, cut once. -/
theorem toNat_podUsage (item : Json) :
    (podUsage floatMillis item).1.toNat = cpuTotal floatMillis item ∧
      (podUsage floatMillis item).2.toNat = memoryTotal item := by
  unfold podUsage
  rw [foldl_addUsage]
  constructor
  · rw [Saturating.adds_add32.toNat_foldl, UInt32.toNat_zero, Nat.zero_add]
    rfl
  · rw [Saturating.adds_add64.toNat_foldl, UInt64.toNat_zero, Nat.zero_add]
    rfl

/-- The figures that a tick leaves are those of its items. -/
theorem lookup_tickMetrics (tick : MetricsTick) :
    (∀ key, (reader.tickMetrics floatMillis tick).pods.lookup key =
      (reader.podItem tick key).map (podUsage floatMillis)) ∧
    ∀ name, (reader.tickMetrics floatMillis tick).nodes.lookup name =
      (reader.nodeItem tick name).map (nodeUsage floatMillis) := by
  unfold MetricsReader.tickMetrics MetricsReader.podItem MetricsReader.nodeItem
  by_cases hnone : ((reader.podMetrics tick).isNone && (reader.nodeMetrics tick).isNone) = true
  · -- a body that is missing has no items
    obtain ⟨hpods, hnodes⟩ := Bool.and_eq_true_iff.1 hnone
    rw [Option.isNone_iff_eq_none] at hpods hnodes
    simp only [hnone, if_true]
    rw [hpods, hnodes]
    constructor
    · intro key
      rw [AList.lookup_empty]
      split <;> rfl
    · intro name
      rw [AList.lookup_empty]
      split <;> rfl
  · simp only [hnone]
    constructor
    · intro key
      exact AList.lookup_insertAll_map podKey (podUsage floatMillis)
        (fun key => decide (key.1 ≠ "") && decide (key.2 ≠ "")) _ key
    · intro name
      have hlookup := AList.lookup_insertAll_map nodeKey (nodeUsage floatMillis)
        (fun name => decide (name ≠ "")) (reader.items (reader.nodeMetrics tick)) name
      simp only [decide_eq_true_eq] at hlookup
      exact hlookup

/-- Metrics are available when one of the two bodies came. -/
theorem available_tickMetrics (tick : MetricsTick) :
    (reader.tickMetrics floatMillis tick).available = reader.answered tick := by
  unfold MetricsReader.tickMetrics MetricsReader.answered
  rcases reader.podMetrics tick with _ | pods <;> rcases reader.nodeMetrics tick with _ | nodes <;> rfl

end Muxtop.Core
