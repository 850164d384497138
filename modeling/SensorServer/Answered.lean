import SensorServer.Description
import SensorServer.Story

/-! has_reported_capabilities over runs of messages and renames (devices/models.py,
mqtt_bridge/services.py): the flag reads the metrics of the row, the property speaks of
the messages the device has sent. -/
namespace SensorServer
open Program

def processed (w : World) (id : String) (d : Delivery) : Bool :=
  decide (d.kind = .capabilities) && decide (d.deviceId = id) && d.payload.object?.isSome &&
    (w.device? id).isSome && (outcome (handleCapabilitiesMessage d.env d.deviceId d.payload) w).1.isOk

/-- The flag says whether the device has answered, and the firmware is judged exactly then. -/
structure Tells (answered : Bool) (row : Device) : Prop where
  flag : row.hasReportedCapabilities = answered
  update : row.needsFirmwareUpdate = (answered && (row.hardwareCode.isNone || decide (row.fwVersion = "")))
  legacy : row.isLegacyFirmware = (answered && (!row.otaCapable && row.hardwareCode.isNone))

theorem tells_iff {answered : Bool} {row : Device} :
    Tells answered row ↔ row.hasReportedCapabilities = answered := by
  constructor
  · exact Tells.flag
  · rintro rfl
    exact ⟨rfl, rfl, rfl⟩

theorem hasReportedCapabilities_congr {row new : Device}
    (same : new.capabilities.metrics = row.capabilities.metrics) :
    new.hasReportedCapabilities = row.hasReportedCapabilities := by
  unfold Device.hasReportedCapabilities
  rw [same]

def advertises (data : Fields) (row : Device) : Bool :=
  match Dict.get? data "metrics" with
  | some (.obj metrics) => (Dict.keys metrics).any safeIdentifierRe
  | _ => row.hasReportedCapabilities

theorem metrics_applyCmds (data : Fields) (c : Capabilities) : (applyCmds data c).metrics = c.metrics := by
  unfold applyCmds
  split <;> rfl

theorem isEmpty_metricNames (metrics : Fields) :
    (!(metricNames metrics).isEmpty) = (Dict.keys metrics).any safeIdentifierRe := by
  unfold metricNames
  rw [Bool.eq_iff_iff]
  simp

theorem hasReportedCapabilities_reportedDevice (w : World) (data : Fields) (row : Device) :
    (reportedDevice w data row).hasReportedCapabilities = advertises data row := by
  have metrics : (reportedDevice w data row).capabilities.metrics =
      (applyMetrics data row.capabilities).metrics := by
    rw [reportedDevice, capabilities_applyCapabilities, metrics_applyCmds]
  unfold advertises
  split
  · next carried found =>
    unfold Device.hasReportedCapabilities
    rw [metrics, applyMetrics, found]
    exact isEmpty_metricNames carried
  · next bare =>
    refine hasReportedCapabilities_congr ?_
    rw [metrics]
    unfold applyMetrics
    split
    · next carried found => exact absurd found (bare carried)
    · rfl

section Message
variable {w : World} {d : Delivery} {id : String} {row : Device} (known : w.device? id = some row)
include known

theorem processed_iff : processed w id d = true ↔ ∃ data, Carries d .capabilities id data ∧
    capabilitiesFields.all (reportedDevice w data row).accepts = true := by
  unfold processed
  simp only [Bool.and_eq_true, decide_eq_true_eq, Option.isSome_iff_exists]
  constructor
  · rintro ⟨⟨⟨⟨kind, rfl⟩, data, object⟩, -⟩, completes⟩
    rw [completes_capabilities object known] at completes
    exact ⟨data, ⟨kind, rfl, object⟩, completes⟩
  · rintro ⟨data, ⟨kind, rfl, object⟩, accepted⟩
    rw [completes_capabilities object known]
    exact ⟨⟨⟨⟨kind, rfl⟩, data, object⟩, row, known⟩, accepted⟩

theorem metrics_unprocessed (missed : processed w id d = false) :
    ∃ new, (deliver w d).device? id = some new ∧ new.capabilities.metrics = row.capabilities.metrics := by
  by_cases own : d.deviceId = id
  swap
  · exact @keepsColumn_deliver _ (fun r => r.capabilities.metrics) _ _ (fun same => absurd same own) w row known
  cases object : d.payload.object? with
  | none =>
    rw [deliver_unread object]
    exact ⟨row, known, rfl⟩
  | some data =>
    cases kind : d.kind with
    | capabilities =>
      have refused : capabilitiesFields.all (reportedDevice w data row).accepts = false := by
        rw [← Bool.not_eq_true]
        intro accepted
        rw [(processed_iff known).mpr ⟨data, ⟨kind, own, object⟩, accepted⟩] at missed
        cases missed
      rw [device?_reported ⟨kind, own, object⟩ known, refused]
      exact ⟨row, rfl, rfl⟩
    | commands =>
      rw [device?_listed ⟨kind, own, object⟩ known]
      refine ⟨_, rfl, ?_⟩
      split <;> rfl
    | sensors | status | calibration | diag | ack =>
      refine @keepsColumn_deliver _ (fun r => r.capabilities.metrics) _ _ (fun _ saved fields among r => ?_) w row
        known
      have absent : DeviceField.capabilities ∉ fields := by
        intro named
        have listed := among _ named
        rw [kind] at listed
        revert listed
        decide
      rw [Device.capabilities_copyFields, if_neg absent]

theorem hasReported_processed (done : processed w id d = true) :
    ∃ data new, d.payload.object? = some data ∧ (deliver w d).device? id = some new ∧
      new.hasReportedCapabilities = advertises data row := by
  obtain ⟨data, carries, accepted⟩ := (processed_iff known).mp done
  refine ⟨data, reportedDevice w data row, carries.object, ?_, hasReportedCapabilities_reportedDevice w data row⟩
  rw [device?_reported carries known, if_pos accepted]

end Message

/-- One device, followed through its renames, and whether it has answered. -/
structure Inquiry where
  world : World
  id : String
  answered : Bool

namespace Inquiry

def step (s : Inquiry) : Happening → Inquiry
  | .message d =>
    { s with
      world := deliver s.world d
      answered := s.answered || processed s.world s.id d }
  | .rename env deviceId newId =>
    let v := SensorServer.rename s.world env deviceId newId
    { s with
      world := v
      id := if deviceId = s.id ∧ (s.world.device? deviceId).isSome = true ∧ v.device? deviceId = none then newId
        else s.id }

/-- The row of a device that was just discovered. -/
structure Fresh (s : Inquiry) : Prop where
  row : ∃ row, s.world.device? s.id = some row ∧ row.capabilities = {}
  silent : s.answered = false

def Truthful (s : Inquiry) : Prop := ∃ row, s.world.device? s.id = some row ∧ Tells s.answered row

/-- A processed message carries a metric, or none at all on a row that has some. -/
def Advertises (s : Inquiry) : Happening → Prop
  | .message d => processed s.world s.id d = true → ∀ data row, d.payload.object? = some data →
      s.world.device? s.id = some row → advertises data row = true
  | .rename _ _ _ => True

variable {s : Inquiry}

theorem Fresh.truthful (fresh : s.Fresh) : s.Truthful := by
  obtain ⟨⟨row, known, blank⟩, silent⟩ := fresh
  refine ⟨row, known, tells_iff.mpr ?_⟩
  unfold Device.hasReportedCapabilities
  rw [blank, silent]

theorem truthful_step_iff (truthful : s.Truthful) (h : Happening) : (s.step h).Truthful ↔ s.Advertises h := by
  obtain ⟨row, known, tells⟩ := truthful
  have flag := tells.flag
  cases h with
  | rename env deviceId newId =>
    obtain ⟨new, found, renamed⟩ := device?_followed known env deviceId newId
    refine iff_of_true ⟨new, found, tells_iff.mpr ?_⟩ trivial
    rcases renamed with rfl | rfl <;> exact flag
  | message d =>
    cases done : processed s.world s.id d with
    | true =>
      obtain ⟨data, new, object, found, reports⟩ := hasReported_processed known done
      constructor
      · rintro ⟨new', found', tells'⟩ - data' row' object' known'
        cases object.symm.trans object'
        cases known.symm.trans known'
        cases found.symm.trans found'
        have answered : (s.step (.message d)).answered = true := by simp [step, done]
        rw [← reports, tells'.flag, answered]
      · intro advertised
        refine ⟨new, found, tells_iff.mpr ?_⟩
        rw [reports, advertised done data row object known]
        simp [step, done]
    | false =>
      obtain ⟨new, found, same⟩ := metrics_unprocessed known done
      refine iff_of_true ⟨new, found, tells_iff.mpr ?_⟩ (fun done' => absurd (done.symm.trans done') (by decide))
      rw [hasReportedCapabilities_congr same, flag]
      simp [step, done]

/-- In every state of a run the flag says whether the device has answered exactly as long as
each processed message leaves the row a metric. -/
theorem truthful_iff (fresh : s.Fresh) (hs : List Happening) :
    Run.Along step (fun s h => (s.step h).Truthful) s hs ↔ Run.Along step Advertises s hs :=
  Run.along_iff (fun _ h truthful => truthful_step_iff truthful h)
    (fun _ h truthful advertised => (truthful_step_iff truthful h).mpr advertised) fresh.truthful

end Inquiry

def discovered : Inquiry where
  world := World.empty.apply (.createDevice { deviceId := "valve01", createdAt := 0 })
  id := "valve01"
  answered := false

def answerOf (fields : Fields) : Happening :=
  .message ⟨{ now := seconds 5 }, .capabilities, "actuator", "valve01", ⟨60, .value (.obj fields)⟩⟩

def withFlow : Happening := answerOf [("metrics", .obj [("flow", .str "l/min")])]
def withoutMetrics : Happening := answerOf [("cmds", .obj [("open", .arr [])])]

theorem discovered_fresh : discovered.Fresh := ⟨⟨_, rfl, rfl⟩, rfl⟩

theorem withFlow_truthful :
    Run.Along Inquiry.step (fun s h => (s.step h).Truthful) discovered
      [withFlow, .rename { now := seconds 6 } "valve01" "valve02", withFlow] := by
  have advertised : ∀ s : Inquiry, s.Advertises withFlow := by
    rintro s - data row ⟨⟩ -
    rfl
  exact (Inquiry.truthful_iff discovered_fresh _).mpr ⟨advertised _, trivial, advertised _, trivial⟩

/-- The answer is stored, but the flag stays off and the missing firmware is not reported. -/
theorem withoutMetrics_untold :
    let s := discovered.step withoutMetrics
    discovered.Fresh ∧ s.answered = true ∧ ¬s.Truthful ∧
      (s.world.device? s.id).map (fun row => (row.capabilities.commands, row.hardwareCode, row.fwVersion,
        row.hasReportedCapabilities, row.needsFirmwareUpdate, row.isLegacyFirmware)) =
          some (some ["open"], none, "", false, false, false) := by
  have stored : ((discovered.step withoutMetrics).world.device? (discovered.step withoutMetrics).id).map
      (fun row => (row.capabilities.commands, row.hardwareCode, row.fwVersion,
        row.hasReportedCapabilities, row.needsFirmwareUpdate, row.isLegacyFirmware)) =
          some (some ["open"], none, "", false, false, false) := by decide +kernel
  have answered : (discovered.step withoutMetrics).answered = true := by decide +kernel
  refine ⟨⟨⟨_, rfl, rfl⟩, rfl⟩, answered, ?_, stored⟩
  rintro ⟨row, known, tells⟩
  rw [known] at stored
  simp only [Option.map_some, Option.some.injEq, Prod.mk.injEq] at stored
  exact absurd (tells.flag.symm.trans stored.2.2.2.1) (by rw [answered]; decide)

end SensorServer
