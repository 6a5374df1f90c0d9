import Palette.Alerts.DiskRuns
import Palette.Alerts.Ports
import Palette.Metrics.Notified

/-!
# Alerts alternate

Disks, processes and ports are checked in any order. In every run in which an event that is due
is generated and its color is stored, or neither happens, the events of every object alternate,
and what is stored is the color of the last one. A run in which an exception comes between the
event and the commit of its color sends the event again.
-/

namespace Palette.Alerts

open Palette.Foundation
open Palette.Metrics (Board Metric metricMachine reliableMetrics reliableMetrics_told processColors)

/-- Disks, processes and ports. -/
abbrev Monitored := Disks × Board × PortBoard

/-- The events of every object alternate, and the color that is stored is that of the last event.
Until the first event of a port, its color may be green. -/
def Alternating (envid : Nat) (monitored : Monitored) : Prop :=
  (∀ key,
      Foundation.Faithful .green (monitored.1.stored.notified key)
        (diskColors key monitored.1.events)) ∧
    (∀ agentid metric process,
      Foundation.Faithful .green (monitored.2.1.notified envid agentid metric process)
        (processColors agentid metric process monitored.2.1.events)) ∧
      ∀ portid, Settled .green (monitored.2.2.notified portid)
        (portColors portid monitored.2.2.happenings)

/-- Every sequence of checks, reports and settings. -/
def monitorMachine (envid : Nat) : Machine Monitored (DiskStep ⊕ Metrics.Checking ⊕ PortStep) :=
  diskMachine.beside ((metricMachine envid).beside portMachine)

/-- The runs in which every event that comes to be due is told. -/
noncomputable def reliableMonitor (envid : Nat) :
    Machine Monitored (DiskStep ⊕ Metrics.Checking ⊕ PortStep) :=
  reliableDisks.beside ((reliableMetrics envid).beside reliablePorts)

/-- A volume with five percent left. -/
def fullVolume (name : Files.Path) : VolumeInfo :=
  ⟨some (some name), none, some (some "/dev/sdb1".toList), none, none, some (some 100),
    some (some 5)⟩

/-- A volume that reports no size at all. -/
def emptyVolume (name : Files.Path) : VolumeInfo :=
  ⟨some (some name), none, some (some "/dev/sdc1".toList), none, none, some (some 0),
    some (some 0)⟩

/-- A report of an agent that is not on Windows. -/
def reportOf (volumes : List VolumeInfo) : DiskReport where
  agentid := 1
  iswin := false
  hasType := true
  primary := false
  displayname := some "worker"
  dataDir := "/var/palette".toList
  low := some (.ok 50)
  high := some (.ok 80)
  tableauDataDir := none
  volumes := some volumes
  gen _ := .generated none
  refuses _ := none
  keeps := false

/-- A volume fills up. -/
def filling : DiskReport := reportOf [fullVolume "/data".toList]

/-- A second volume is full, and the first one reports no size. -/
def vanishing : DiskReport := reportOf [emptyVolume "/data".toList, fullVolume "/mnt".toList]

/-- Nothing was checked. -/
def unchecked : Monitored := (.empty, Board.empty, .empty)

/-- The disks after the second report, twice. -/
def repeated : Disks :=
  ((Disks.empty.next (.report filling)).next (.report vanishing)).next (.report vanishing)

/-- What is read before the loop over a single volume. -/
def fillingScan : Scan := ⟨"/var/palette/Data".toList, 50, 80, [fullVolume "/data".toList]⟩

/-- The report of a volume that fills up is reliable. -/
theorem filling_reliable : filling.Reliable .empty := by
  intro dataDir directory scan read
  have directoryIs : filling.paletteDataDir = some "/var/palette/Data".toList := by decide +kernel
  have same : dataDir = "/var/palette/Data".toList :=
    Option.some.inj (directory.symm.trans directoryIs)
  subst same
  have scanIs : filling.scan "/var/palette/Data".toList = .ok fillingScan := by
    rfl
  have scanned : scan = fillingScan := by
    rw [scanIs] at read
    exact (Except.ok.inj read).symm
  subst scanned
  have told : filling.Told fillingScan [] ⟨.empty, .empty, false, []⟩
      (fullVolume "/data".toList) := by
    have color : diskColor (100 - 5) 100 50 80 = .red := by decide +kernel
    refine ⟨?_, fun _ _ _ refused => (refused rfl).elim⟩
    unfold DiskReport.due
    dsimp only [fullVolume, fillingScan, filling, reportOf]
    rw [color]
    intro event due
    cases due
    exact .inl ⟨rfl, rfl⟩
  exact ⟨told, Script.upholds_of_forall _ fun _ _ => trivial⟩

end Palette.Alerts
