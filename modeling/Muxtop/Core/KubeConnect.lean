import Muxtop.Core.KubeEngine
import Muxtop.Foundation.Text

/-!
# Connecting to a cluster

`is_valid_namespace` of `muxtop-core/src/cluster_engine.rs`, and of `kube_engine.rs` what of `connect`
decides the scope, with the path that `tick_metrics` asks for pod metrics under a scope.

The kubeconfig is read by code outside the repository: what it declares as the default namespace is a
parameter, and so are the answer of the `/version` probe and the quoting of text in an error.
-/

namespace Muxtop.Core

/-- Errors raised by a cluster engine; of its kinds, those that `connect` raises. -/
inductive ClusterError
  | kubeconfigNotFound
  | unreachable (reason : String)
  | other (message : String)
deriving DecidableEq, Repr

/-! ## Names of namespaces -/

/-- `b'a'..=b'z'` or `b'0'..=b'9'` -/
def isAlnum (b : UInt8) : Bool := (97 ≤ b && b ≤ 122) || (48 ≤ b && b ≤ 57)

/-- The DNS-1123 label rules, on the bytes of a name. -/
def isValidNamespace (name : String) : Bool :=
  match Text.bytes name with
  | [] => false
  | b :: rest =>
    if 63 < (b :: rest).length then false
    else if !isAlnum b || !isAlnum ((b :: rest).getLast (List.cons_ne_nil b rest)) then false
    else (b :: rest).all fun b => isAlnum b || b == 45

/-- A lowercase ASCII letter or a digit. -/
def IsAlnum (c : Char) : Prop := c.isLower ∨ c.isDigit

instance : DecidablePred IsAlnum := fun _ => inferInstanceAs (Decidable (_ ∨ _))

/-- A DNS-1123 label: 1 to 63 characters, each alphanumeric or a hyphen, alphanumeric at both ends. -/
structure DnsLabel (name : String) : Prop where
  nonempty : name.toList ≠ []
  length : name.toList.length ≤ 63
  first : ∀ c ∈ name.toList.head?, IsAlnum c
  last : ∀ c ∈ name.toList.getLast?, IsAlnum c
  all : ∀ c ∈ name.toList, IsAlnum c ∨ c = '-'

/-! ## The engine -/

/-- The path of the pod metrics under a scope. -/
def podMetricsPath (scope : KubeScope) : String :=
  match scope.namespace with
  | some ns => "/apis/metrics.k8s.io/v1beta1/namespaces/" ++ ns ++ "/pods"
  | none => "/apis/metrics.k8s.io/v1beta1/pods"

/-- `build_config`: the flag's namespace takes the place of the kubeconfig's. -/
def buildConfig (kubeconfig : Except ClusterError String) («namespace» : Option String) :
    Except ClusterError String := do
  let default_namespace ← kubeconfig
  match «namespace» with
  | some ns => pure ns
  | none => pure default_namespace

/-- `KubeEngine::connect`, from the flag's namespace and the kubeconfig's: the engine and its state
before the first poll. -/
def connect (quoted : String → String) (probe : Option (ClusterKind × String))
    (floatMillis : String → Option UInt32) (kubeconfig : Except ClusterError String)
    («namespace» : Option String) : Except ClusterError (KubeEngine × EngineState) := do
  match «namespace» with
  | some ns =>
    if !isValidNamespace ns then
      throw (.other ("invalid namespace " ++ quoted ns ++ ": expected a DNS-1123 label " ++
        "(1-63 chars, lowercase alphanumeric or '-', starting and ending alphanumeric)"))
  | none => pure ()
  let resolved ← buildConfig kubeconfig «namespace»
  let engine : KubeEngine :=
    { clusterKind := (probe.map Prod.fst).getD .generic
      serverVersion := probe.map Prod.snd
      scopedNamespace := «namespace».getD resolved
      floatMillis := floatMillis }
  return (engine, KubeEngine.connected «namespace»)

/-! ## What a valid name is -/

/-- An ASCII character is its byte. -/
theorem toNat_byte {c : Char} (h : c.toNat < 128) : c.val.toUInt8.toNat = c.toNat := by
  rw [UInt32.toNat_toUInt8]
  exact Nat.mod_eq_of_lt (by show c.toNat < 256; omega)

/-- Letters and digits by their codes. -/
theorem isAlnum_char {c : Char} :
    IsAlnum c ↔ (97 ≤ c.toNat ∧ c.toNat ≤ 122) ∨ (48 ≤ c.toNat ∧ c.toNat ≤ 57) := by
  have hlower : c.isLower = (decide (97 ≤ c.val) && decide (c.val ≤ 122)) := rfl
  have hdigit : c.isDigit = (decide (48 ≤ c.val) && decide (c.val ≤ 57)) := rfl
  simp only [IsAlnum, hlower, hdigit, Bool.and_eq_true, decide_eq_true_iff, UInt32.le_iff_toNat_le]
  rfl

/-- The check of a byte is the check of the character. -/
theorem isAlnum_iff {c : Char} (h : c.toNat < 128) : isAlnum c.val.toUInt8 = true ↔ IsAlnum c := by
  rw [isAlnum_char]
  simp only [isAlnum, Bool.or_eq_true, Bool.and_eq_true, decide_eq_true_iff, UInt8.le_iff_toNat_le,
    toNat_byte h]
  rfl

/-- So it is for the hyphen. -/
theorem isHyphen_iff {c : Char} (h : c.toNat < 128) : c.val.toUInt8 = 45 ↔ c = '-' := by
  rw [← UInt8.toNat_inj, toNat_byte h]
  constructor
  · exact fun hc => Char.toNat_inj.1 hc
  · rintro rfl
    rfl

/-- Bytes that pass are ASCII. -/
theorem lt_of_isAlnum {b : UInt8} (h : isAlnum b = true ∨ b = 45) : b.toNat < 128 := by
  obtain h | rfl := h
  · simp only [isAlnum, Bool.or_eq_true, Bool.and_eq_true, decide_eq_true_iff,
      UInt8.le_iff_toNat_le] at h
    obtain ⟨-, hle⟩ | ⟨-, hle⟩ := h
    · exact lt_of_le_of_lt hle (by decide)
    · exact lt_of_le_of_lt hle (by decide)
  · decide

/-- So are characters that do. -/
theorem lt_of_isAlnum_char {c : Char} (h : IsAlnum c ∨ c = '-') : c.toNat < 128 := by
  obtain h | rfl := h
  · rw [isAlnum_char] at h
    omega
  · decide

/-- The rules as the code checks them. -/
theorem isValidNamespace_eq_true {name : String} :
    isValidNamespace name = true ↔
      Text.bytes name ≠ [] ∧ (Text.bytes name).length ≤ 63 ∧
        (∀ b ∈ (Text.bytes name).head?, isAlnum b = true) ∧
        (∀ b ∈ (Text.bytes name).getLast?, isAlnum b = true) ∧
        ∀ b ∈ Text.bytes name, isAlnum b = true ∨ b = 45 := by
  unfold isValidNamespace
  cases hbytes : Text.bytes name with
  | nil => simp
  | cons b rest =>
    have hlast : (b :: rest).getLast? = some ((b :: rest).getLast (List.cons_ne_nil b rest)) :=
      List.getLast?_eq_getLast_of_ne_nil _
    simp only [hlast]
    grind

/-- What passes the check is a DNS-1123 label, and nothing else does. -/
theorem isValidNamespace_iff {name : String} : isValidNamespace name = true ↔ DnsLabel name := by
  rw [isValidNamespace_eq_true]
  constructor
  · rintro ⟨hne, hlength, hfirst, hlast, hall⟩
    -- the bytes that pass are ASCII, so they are the characters
    have hascii := Text.ascii_of_bytes fun b hb => lt_of_isAlnum (hall b hb)
    rw [Text.bytes_of_ascii hascii] at hne hlength hfirst hlast hall
    constructor
    case nonempty => simpa using hne
    case length => simpa using hlength
    case first =>
      intro c hc
      have hmem := List.mem_of_mem_head? hc
      exact (isAlnum_iff (hascii c hmem)).1 (hfirst _ (by rw [List.head?_map]; exact Option.mem_map_of_mem _ hc))
    case last =>
      intro c hc
      have hmem := List.mem_of_mem_getLast? hc
      exact (isAlnum_iff (hascii c hmem)).1
        (hlast _ (by rw [List.getLast?_map]; exact Option.mem_map_of_mem _ hc))
    case all =>
      intro c hc
      have hbyte := hall _ (List.mem_map_of_mem hc)
      rwa [isAlnum_iff (hascii c hc), isHyphen_iff (hascii c hc)] at hbyte
  · rintro ⟨hne, hlength, hfirst, hlast, hall⟩
    -- and the other way round
    have hascii (c : Char) (hc : c ∈ name.toList) : c.toNat < 128 := lt_of_isAlnum_char (hall c hc)
    rw [Text.bytes_of_ascii hascii]
    refine ⟨by simpa using hne, by simpa using hlength, ?_, ?_, ?_⟩
    · intro b hb
      rw [List.head?_map] at hb
      obtain ⟨c, hc, rfl⟩ := Option.mem_map.1 hb
      exact (isAlnum_iff (hascii c (List.mem_of_mem_head? hc))).2 (hfirst c hc)
    · intro b hb
      rw [List.getLast?_map] at hb
      obtain ⟨c, hc, rfl⟩ := Option.mem_map.1 hb
      exact (isAlnum_iff (hascii c (List.mem_of_mem_getLast? hc))).2 (hlast c hc)
    · intro b hb
      obtain ⟨c, hc, rfl⟩ := List.mem_map.1 hb
      rw [isAlnum_iff (hascii c hc), isHyphen_iff (hascii c hc)]
      exact hall c hc

/-- The segments of a path. -/
def segments (path : String) : List String := (path.toList.splitOn '/').map String.ofList

/-- A label has no other characters, so none that would end a path segment. -/
theorem DnsLabel.notMem {name : String} (h : DnsLabel name) {c : Char} (hc : ¬ IsAlnum c)
    (hhyphen : c ≠ '-') : c ∉ name.toList :=
  fun hmem => (h.all c hmem).elim hc hhyphen

/-- Under a valid name, the path has that one segment between the fixed ones, and neither query nor
fragment. -/
theorem podMetricsPath_segments {ns : String} (h : DnsLabel ns) :
    segments (podMetricsPath (.ofNamespace ns)) =
        ["", "apis", "metrics.k8s.io", "v1beta1", "namespaces", ns, "pods"] ∧
      '?' ∉ (podMetricsPath (.ofNamespace ns)).toList ∧
      '#' ∉ (podMetricsPath (.ofNamespace ns)).toList := by
  have hpath : (podMetricsPath (.ofNamespace ns)).toList =
      ['/'].intercalate
        [[], "apis".toList, "metrics.k8s.io".toList, "v1beta1".toList, "namespaces".toList, ns.toList,
          "pods".toList] := by
    simp [podMetricsPath, KubeScope.namespace]
  have hslash : '/' ∉ ns.toList := h.notMem (by decide) (by decide)
  refine ⟨?_, ?_, ?_⟩
  · unfold segments
    rw [hpath, List.splitOn_intercalate]
    · simp
    · simp [hslash]
    · simp
  · have hquery : '?' ∉ ns.toList := h.notMem (by decide) (by decide)
    simp [podMetricsPath, KubeScope.namespace, hquery]
  · have hfragment : '#' ∉ ns.toList := h.notMem (by decide) (by decide)
    simp [podMetricsPath, KubeScope.namespace, hfragment]

end Muxtop.Core
