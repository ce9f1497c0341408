import Mathlib.Data.Nat.Notation
import Muxtop.Core.ProcessList

/-!
# Tabs, sub-views and sort fields

Reference: `muxtop-tui/src/app.rs`, the identifiers every other part of the interface goes by.
-/

namespace Muxtop.Tui

open Muxtop.Core

/-- Tab identifiers for TUI views. -/
inductive Tab
  | general | processes | network | containers | kube | gpu
deriving DecidableEq, Repr, Inhabited

namespace Tab

/-- `Tab::ALL` -/
def all : List Tab := [.general, .processes, .network, .containers, .kube, .gpu]

def label : Tab → String
  | .general => "General"
  | .processes => "Processes"
  | .network => "Network"
  | .containers => "Containers"
  | .kube => "Kube"
  | .gpu => "GPU"

def next (tab : Tab) : Tab := all.getD ((all.idxOf tab + 1) % all.length) .general

def prev (tab : Tab) : Tab := all.getD ((all.idxOf tab + all.length - 1) % all.length) .general

example : all.map next = [.processes, .network, .containers, .kube, .gpu, .general] := by decide
example : all.map (prev ∘ next) = all := by decide

end Tab

inductive NetworkSortField
  | name | rxRate | txRate | totalRx | totalTx | errors
deriving DecidableEq, Repr

inductive ContainerSortField
  | name | cpu | mem | netRx | netTx | uptime
deriving DecidableEq, Repr

/-- Active sub-view of the Kubernetes tab. -/
inductive KubeSubview
  | pods | nodes | deployments
deriving DecidableEq, Repr, Inhabited

/-- The sort fields of the three Kube sub-views in one enumeration. -/
inductive KubeSortField
  | podName | podCpu | podMem | podRestarts | podAge | podPhase
  | nodeName | nodeCpuPct | nodeMemPct | nodePodCount | nodeAge
  | deployNamespace | deployName | deployReadyRatio | deployAge
deriving DecidableEq, Repr

def KubeSortField.defaultFor : KubeSubview → KubeSortField
  | .pods => .podCpu
  | .nodes => .nodeCpuPct
  | .deployments => .deployName

/-- Active sub-view of the GPU tab. -/
inductive GpuSubview
  | devices | procs
deriving DecidableEq, Repr, Inhabited

/-- The sort fields of the two GPU sub-views in one enumeration. -/
inductive GpuSortField
  | deviceIndex | deviceName | deviceUtil | deviceMem | deviceTemp | devicePower
  | procPid | procName | procMem | procDevice
deriving DecidableEq, Repr

def GpuSortField.defaultFor : GpuSubview → GpuSortField
  | .devices => .deviceIndex
  | .procs => .procMem

/-! ## Cycling -/

def nextSortField : SortField → SortField
  | .cpu => .mem
  | .mem => .pid
  | .pid => .name
  | .name => .user
  | .user => .cpu

def nextNetSortField : NetworkSortField → NetworkSortField
  | .rxRate => .txRate
  | .txRate => .name
  | .name => .errors
  | .errors => .totalRx
  | .totalRx => .totalTx
  | .totalTx => .rxRate

def nextContainerSortField : ContainerSortField → ContainerSortField
  | .cpu => .mem
  | .mem => .name
  | .name => .netRx
  | .netRx => .netTx
  | .netTx => .uptime
  | .uptime => .cpu

/-- The next GPU sort field of the sub-view; a field of the other sub-view recovers to the default. -/
def nextGpuSortField (field : GpuSortField) (sv : GpuSubview) : GpuSortField :=
  match sv, field with
  | .devices, .deviceIndex => .deviceUtil
  | .devices, .deviceUtil => .deviceMem
  | .devices, .deviceMem => .deviceTemp
  | .devices, .deviceTemp => .devicePower
  | .devices, .devicePower => .deviceName
  | .devices, .deviceName => .deviceIndex
  | .procs, .procMem => .procPid
  | .procs, .procPid => .procName
  | .procs, .procName => .procDevice
  | .procs, .procDevice => .procMem
  | sv, _ => .defaultFor sv

/-- The next Kube sort field of the sub-view; a field of another sub-view recovers to the default. -/
def nextKubeSortField (field : KubeSortField) (sv : KubeSubview) : KubeSortField :=
  match sv, field with
  | .pods, .podCpu => .podMem
  | .pods, .podMem => .podName
  | .pods, .podName => .podRestarts
  | .pods, .podRestarts => .podAge
  | .pods, .podAge => .podPhase
  | .pods, .podPhase => .podCpu
  | .nodes, .nodeCpuPct => .nodeMemPct
  | .nodes, .nodeMemPct => .nodeName
  | .nodes, .nodeName => .nodePodCount
  | .nodes, .nodePodCount => .nodeAge
  | .nodes, .nodeAge => .nodeCpuPct
  | .deployments, .deployName => .deployReadyRatio
  | .deployments, .deployReadyRatio => .deployNamespace
  | .deployments, .deployNamespace => .deployAge
  | .deployments, .deployAge => .deployName
  | sv, _ => .defaultFor sv

/-- Flip a sort order. -/
def flip : SortOrder → SortOrder
  | .asc => .desc
  | .desc => .asc

end Muxtop.Tui
