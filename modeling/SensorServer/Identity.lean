import SensorServer.Reports
import SensorServer.Ota
import SensorServer.Lib.Run

/-! The hardware identity of a device: a capabilities message resets the code it does
not carry but keeps the revision, so the stored pair can stem from two messages. -/
namespace SensorServer
open Program

/-- A message on the capabilities topic of a device. -/
structure Report where
  env : Env
  deviceType : String
  payload : Payload

def Report.delivery (m : Report) (deviceId : String) : Delivery :=
  ⟨m.env, .capabilities, m.deviceType, deviceId, m.payload⟩

/-- The state and the most recent message that was stored. -/
structure History where
  world : World
  last : Option Fields

def stores (w : World) (d : Delivery) : Bool :=
  (reported w d).any (fun saved => saved.2.all saved.1.accepts)

def History.receive (deviceId : String) (h : History) (m : Report) : History where
  world := deliver h.world (m.delivery deviceId)
  last := if stores h.world (m.delivery deviceId) then m.payload.object? else h.last

def Carried (last : Option Fields) (code : String) (rev : Nat) : Prop :=
  ∃ data, last = some data ∧ Dict.get? data "hw" = some (.str code) ∧
    Dict.get? data "hwrev" = some (.int rev)

/-- A stored pair comes from the most recent stored message. -/
def Matched (deviceId : String) (h : History) : Prop :=
  ∀ device code rev, h.world.device? deviceId = some device → device.hardwareCode = some code →
    device.hwRev = some rev → Carried h.last code rev

def mixes (w : World) (d : Delivery) : Bool :=
  match d.payload.object?, w.device? d.deviceId with
  | some data, some device =>
    (reportedCode (fun code => (w.db.hardwareCodes.get? code).isSome) data).isSome &&
      (reportedRev data).isNone && device.hwRev.isSome
  | _, _ => false

def Unmixed (deviceId : String) (h : History) (m : Report) : Prop :=
  stores h.world (m.delivery deviceId) = true → mixes h.world (m.delivery deviceId) = false

instance (deviceId : String) (h : History) (m : Report) : Decidable (Unmixed deviceId h m) :=
  inferInstanceAs (Decidable (_ → _))

theorem reportedCode_carried {known : String → Bool} {data : Fields} {code : String}
    (h : reportedCode known data = some code) : Dict.get? data "hw" = some (.str code) := by
  unfold reportedCode at h
  cases field : Dict.get? data "hw" with
  | none =>
    rw [field] at h
    have empty : hwCodeRe "" = false := by decide
    simp [empty] at h
  | some value =>
    rw [field] at h
    cases value with
    | str s =>
      simp only [Option.getD_some] at h
      split at h
      · cases h
        rfl
      · cases h
    | _ => cases h

theorem reportedRev_iff {data : Fields} {rev : Nat} (fits : rev ≤ Device.smallintMax) :
    reportedRev data = some rev ↔ Dict.get? data "hwrev" = some (.int rev) := by
  have small : rev ≤ 65535 := fits.trans (by decide)
  unfold reportedRev
  constructor
  · intro h
    split at h
    · next i field =>
      split at h
      · next bounds =>
        have same : i.toNat = rev := by simpa using h
        rw [field, ← same, Int.toNat_of_nonneg bounds.1]
      · cases h
    · cases h
  · intro field
    rw [field]
    have bounds : (0 : Int) ≤ rev ∧ (rev : Int) ≤ 65535 := by omega
    simp [bounds]

section Step
variable {deviceId : String} {h : History} {m : Report}

theorem device?_receive :
    (h.receive deviceId m).world.device? deviceId =
      (saveReport h.world (reported h.world (m.delivery deviceId))).device? deviceId := by
  have same : KeepsDevices (saveReport h.world (reported h.world (m.delivery deviceId)))
      (deliver h.world (m.delivery deviceId)) := deliver_capabilities rfl
  unfold World.device?
  exact congrArg (fun t => Table.get? t deviceId) same

theorem receive_unstored (refused : stores h.world (m.delivery deviceId) = false) :
    (h.receive deviceId m).world.device? deviceId = h.world.device? deviceId ∧
      (h.receive deviceId m).last = h.last := by
  refine ⟨?_, by simp [History.receive, refused]⟩
  rw [device?_receive]
  unfold stores at refused
  cases saves : reported h.world (m.delivery deviceId) with
  | none => rfl
  | some pair =>
    obtain ⟨saved, fields⟩ := pair
    rw [saves] at refused
    have no : ¬ fields.all saved.accepts = true := by simpa using refused
    rw [saveReport_some, if_neg no]

theorem receive_stored (taken : stores h.world (m.delivery deviceId) = true) :
    ∃ data device row, m.payload.object? = some data ∧ h.world.device? deviceId = some device ∧
      (h.receive deviceId m).last = some data ∧
      (h.receive deviceId m).world.device? deviceId = some row ∧
      row.hardwareCode = reportedCode (fun code => (h.world.db.hardwareCodes.get? code).isSome) data ∧
      row.hwRev = (reportedRev data).or device.hwRev ∧
      ∀ rev, row.hwRev = some rev → rev ≤ Device.smallintMax := by
  have row_ := @device?_receive deviceId h m
  have last : (h.receive deviceId m).last = m.payload.object? := by simp [History.receive, taken]
  unfold stores at taken
  unfold reported at taken row_
  cases object : m.payload.object? with
  | none => simp [Report.delivery, object] at taken
  | some data =>
    cases found : h.world.device? deviceId with
    | none => simp [Report.delivery, object, found] at taken
    | some device =>
      have id : device.deviceId = deviceId := Table.key_get? found
      simp only [Report.delivery, object, found, Option.any_some] at taken row_
      generalize saved_ : applyCapabilities
        (fun code => (h.world.db.hardwareCodes.get? code).isSome) data device = saved at taken row_
      have code : saved.hardwareCode =
          reportedCode (fun code => (h.world.db.hardwareCodes.get? code).isSome) data := by
        rw [← saved_]
        exact hardwareCode_applyCapabilities
      have rev : saved.hwRev = (reportedRev data).or device.hwRev := by
        rw [← saved_]
        exact hwRev_applyCapabilities
      have key : saved.deviceId = deviceId := by
        rw [← saved_]
        exact deviceId_applyCapabilities.trans id
      rw [saveReport_some, if_pos taken, device?_saved found (key.trans id.symm)] at row_
      have fits : saved.accepts .hwRev = true := List.all_eq_true.mp taken _ (by decide)
      refine ⟨data, device, _, rfl, rfl, last.trans object, row_, ?_, ?_, ?_⟩
      · simpa [capabilitiesFields] using code
      · simpa [capabilitiesFields] using rev
      · intro stored named
        have same : saved.hwRev = some stored := by simpa [capabilitiesFields] using named
        simpa [Device.accepts, same] using fits

theorem mixes_iff {data : Fields} {device : Device} (object : m.payload.object? = some data)
    (found : h.world.device? deviceId = some device) :
    mixes h.world (m.delivery deviceId) = true ↔
      (∃ code, reportedCode (fun code => (h.world.db.hardwareCodes.get? code).isSome) data =
        some code) ∧ reportedRev data = none ∧ ∃ rev, device.hwRev = some rev := by
  simp [mixes, Report.delivery, object, found, Option.isSome_iff_exists, and_assoc]

theorem matched_receive (matched : Matched deviceId h) :
    Matched deviceId (h.receive deviceId m) ↔ Unmixed deviceId h m := by
  cases taken : stores h.world (m.delivery deviceId) with
  | false =>
    obtain ⟨same, last⟩ := receive_unstored taken
    constructor
    · intro _ stored
      rw [taken] at stored
      cases stored
    · intro _ device code rev found
      rw [last]
      exact matched device code rev (same.symm.trans found)
  | true =>
    obtain ⟨data, device, row, object, found, last, stored, code_, rev_, small⟩ :=
      receive_stored taken
    have mixed := mixes_iff object found
    constructor
    · intro good _
      by_contra mixing
      obtain ⟨⟨code, named⟩, absent, rev, kept⟩ := mixed.mp (by simpa using mixing)
      have revision : row.hwRev = some rev := by rw [rev_, absent, kept]; rfl
      have carried := good row code rev stored (code_.trans named) revision
      obtain ⟨fields, same, _, hwrev⟩ := carried
      cases last.symm.trans same
      have given := (reportedRev_iff (small rev revision)).mpr hwrev
      rw [absent] at given
      cases given
    · intro unmixed row' code rev stored' named revision
      cases stored.symm.trans stored'
      refine ⟨data, last, reportedCode_carried (code_.symm.trans named), ?_⟩
      have fitting := small rev revision
      cases given : reportedRev data with
      | some fresh =>
        rw [rev_, given] at revision
        cases revision
        exact (reportedRev_iff fitting).mp given
      | none =>
        have kept : device.hwRev = some rev := by simpa [rev_, given] using revision
        have mixing := mixed.mpr ⟨⟨code, code_.symm.trans named⟩, given, rev, kept⟩
        have apart := unmixed taken
        rw [mixing] at apart
        cases apart

end Step

def OffersReported (deviceId : String) (h : History) : Prop :=
  ∀ device firmware, h.world.device? deviceId = some device →
    (firmware ∈ compatibleFirmwares h.world.db device ∨
      ∃ env, otaGuard env device firmware = none) →
    Carried h.last firmware.hardwareRevision.1 firmware.hardwareRevision.2

theorem Matched.offersReported {deviceId : String} {h : History} (matched : Matched deviceId h) :
    OffersReported deviceId h := by
  rintro device firmware found (listed | ⟨env, passes⟩)
  · obtain ⟨code, rev⟩ := (compatibleFirmwares_spec listed).2
    exact matched device _ _ found code rev
  · obtain ⟨code, rev⟩ := (otaGuard_spec passes).2
    exact matched device _ _ found code rev

/-- Along a run of capabilities messages the pair always comes from the last stored one
exactly when no stored message names a known code, no valid revision, and finds one. -/
theorem identity_matched_iff (deviceId : String) (h : History) (ms : List Report)
    (matched : Matched deviceId h) :
    (Run.Along (History.receive deviceId)
      (fun h m => Matched deviceId (h.receive deviceId m)) h ms ↔
      Run.Along (History.receive deviceId) (Unmixed deviceId) h ms) ∧
    (Run.Along (History.receive deviceId) (Unmixed deviceId) h ms →
      Matched deviceId (Run.run (History.receive deviceId) h ms) ∧
      OffersReported deviceId (Run.run (History.receive deviceId) h ms)) := by
  have preserved : ∀ (h : History) (m : Report), Matched deviceId h → Unmixed deviceId h m →
      Matched deviceId (h.receive deviceId m) :=
    fun h m matched unmixed => (matched_receive matched).mpr unmixed
  constructor
  · exact @Run.along_iff _ _ _ _ _ (Matched deviceId) (fun h m matched => matched_receive matched)
      preserved h ms matched
  · intro unmixed
    have kept := Run.invariant preserved matched unmixed
    exact ⟨kept, kept.offersReported⟩

def firstReport : Report :=
  ⟨{ now := seconds 1 }, "thermo",
    ⟨40, .value (.obj [("hw", .str "E8BMEBAT"), ("hwrev", .int 1), ("ota", .bool true)])⟩⟩
def boardSwap : Report :=
  ⟨{ now := seconds 2 }, "thermo", ⟨20, .value (.obj [("hw", .str "E32SHT40")])⟩⟩

def registered : History where
  world := ((World.empty.apply (.createDevice { deviceId := "living01", createdAt := 0 })).apply
    (.putHardwareCode ⟨"E8BMEBAT", "", "", [], 0, 0⟩)).apply
    (.putHardwareCode ⟨"E32SHT40", "", "", [], 0, 0⟩)
  last := none

theorem registered_matched : Matched "living01" registered := by
  intro device code rev found named _
  have fresh : registered.world.device? "living01" = some { deviceId := "living01", createdAt := 0 } :=
    rfl
  cases fresh.symm.trans found
  cases named

def wholeSwap : Report :=
  ⟨{ now := seconds 3 }, "thermo", ⟨30, .value (.obj [("hw", .str "E32SHT40"), ("hwrev", .int 2)])⟩⟩

theorem wholeSwap_matched :
    let swapped := Run.run (History.receive "living01") registered [firstReport, wholeSwap]
    (swapped.world.device? "living01").map (fun device => (device.hardwareCode, device.hwRev)) =
        some (some "E32SHT40", some 2) ∧
      Matched "living01" swapped ∧ OffersReported "living01" swapped :=
  ⟨by decide, (identity_matched_iff "living01" registered [firstReport, wholeSwap] registered_matched).2 (by decide)⟩

/-- The guard lets an image for revision 1 of the second code through. -/
theorem boardSwap_mixed :
    ((Run.run (History.receive "living01") registered [firstReport, boardSwap]).world.device?
      "living01").any (fun device =>
        otaGuard { now := seconds 3, otaBaseUrl := "http://fw" } device ⟨0, ("E32SHT40", 1), "1.0.0", "", "", 0, 0, ""⟩ =
          none) = true ∧
    ¬ Carried (Run.run (History.receive "living01") registered [firstReport, boardSwap]).last
      "E32SHT40" 1 := by
  refine ⟨by decide, ?_⟩
  rintro ⟨data, last, -, rev⟩
  have stored : (Run.run (History.receive "living01") registered [firstReport, boardSwap]).last =
      some [("hw", .str "E32SHT40")] := by decide
  cases stored.symm.trans last
  cases rev

end SensorServer
