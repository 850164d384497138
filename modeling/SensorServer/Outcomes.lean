import SensorServer.Lifecycle
import SensorServer.Push
import SensorServer.Replies
import SensorServer.RequestRace

/-! What ends a pending OTA update: the messages of its device, each in its own way. -/
namespace SensorServer
open Program

def otaRows (w : World) : List CommandLog := w.db.commandLogs.rows.filter (fun r => otaUpdate r.command)

def SameOta (w v : World) : Prop := otaRows v = otaRows w

theorem sameOta_closed : Closed SameOta := ⟨fun _ => rfl, fun h k => k.trans h⟩

theorem SameOta.of_commandLogs {w v : World} (same : v.db.commandLogs = w.db.commandLogs) : SameOta w v := by
  unfold SameOta otaRows
  rw [same]

theorem recounted_sameOta : Recounted SameOta (fun _ _ => True) (fun _ _ => True) (fun _ => True) where
  closed := sameOta_closed
  save := fun _ _ _ _ => rfl
  publish := fun _ _ _ => rfl
  history := fun _ e history _ => by cases e <;> first | rfl | cases history

section Marks
variable {w : World} {which : CommandLog → Bool} {status : CommandStatus} {message : String} {at_ : Time}

theorem otaRows_markCommands : otaRows (w.apply (.markCommands which status message at_)) =
    (otaRows w).map (fun r => if which r then r.mark status message at_ else r) := by
  unfold otaRows
  have rows : (w.apply (.markCommands which status message at_)).db.commandLogs.rows =
      w.db.commandLogs.rows.map (fun r => if which r then r.mark status message at_ else r) := rfl
  rw [rows, List.filter_map]
  refine congrArg _ (List.filter_congr (fun r _ => ?_))
  dsimp only [Function.comp]
  split <;> rfl

theorem sameOta_marks (other : ∀ r, which r = true → otaUpdate r.command = false) :
    SameOta w (w.apply (.markCommands which status message at_)) := by
  unfold SameOta
  rw [otaRows_markCommands]
  conv_rhs => rw [← List.map_id (otaRows w)]
  refine List.map_congr_left (fun r member => ?_)
  have ota : otaUpdate r.command = true := (List.mem_filter.mp member).2
  cases hit : which r with
  | false => rfl
  | true =>
    rw [other r hit] at ota
    cases ota

end Marks

section Sensors
variable {env : Env} {device : Device} {deviceType : String} {data : Fields}

theorem sameOta_resolveRequests {status : CommandStatus} {message : String} :
    Upholds SameOta (resolveCapabilityRequests env device status message) := by
  unfold resolveCapabilityRequests
  split
  · refine upholds_emit (fun w => sameOta_marks (fun r hit => ?_))
    simp only [Bool.and_eq_true] at hit
    by_contra ota
    rw [request_not_ota r (by simpa [otaUpdate] using ota)] at hit
    cases hit.2
  · exact Upholds.fail sameOta_closed _

theorem sameOta_heardRest {woken : Bool} : Upholds SameOta (heardRest env deviceType data woken device) := by
  have closed := sameOta_closed
  have within := recounted_sameOta
  refine Upholds.bind closed ?_ (fun d => upholds_approvedRest within (fun _ _ _ _ => trivial)
    (fun _ _ _ => trivial) (⟨rfl, rfl⟩ : SameUnit d d) trivial)
  split
  · exact upholds_wakeUp within.toIssued trivial ⟨fun _ _ => trivial, trivial, trivial, trivial⟩
  · unfold checkCapabilitiesTimeout
    split
    · exact Upholds.bind closed (within.saveDevice trivial)
        (fun _ => Upholds.bind closed (within.addStatusLog trivial)
        (fun _ => Upholds.bind closed sameOta_resolveRequests (fun _ => Upholds.pure closed _)))
    · exact Upholds.pure closed _

theorem overdueUpdate_reconcileAlert :
    overdueUpdate env (reconcileAlert env.now { device with lastSeen := some env.now }).1 =
      overdueUpdate env device := by
  rcases reconcileAlert_cases env.now { device with lastSeen := some env.now } with h | h | h <;> rw [h] <;> rfl

def Lapsed (env : Env) (device : Device) (w v : World) : Prop :=
  SameOta w v ∨ ∃ message, otaRows v =
    (otaRows w).map (fun r => if overdueUpdate env device r then r.mark .timeout message env.now else r)

theorem lapsed_sensorBody {created : Bool} (w : World) :
    Lapsed env device w (after (sensorBody env deviceType data device created) w) := by
  rw [sensorBody_halves]
  have overdue := @overdueUpdate_reconcileAlert env device
  dsimp only
  generalize reconcileAlert env.now { device with lastSeen := some env.now } = reconciled at overdue ⊢
  obtain ⟨d, names, cleared⟩ := reconciled
  have within := recounted_sameOta
  have announced : Upholds SameOta (when cleared (announceCleared env d)) :=
    Upholds.when sameOta_closed (fun _ => upholds_announceCleared within trivial)
  have first := announced w
  rcases run : outcome (when cleared (announceCleared env d)) w with ⟨e | ⟨⟩, v⟩ <;> rw [after, run] at first
  · rw [after_bind_error run]
    exact .inl first
  rw [after_bind_ok run]
  have saved := outcome_saveDevice d (.lastSeen :: names) v
  split at saved
  swap
  · rw [after_bind_error saved]
    exact .inl first
  rw [after_bind_ok saved, savedRest, after_bind_ok (outcome_checkOtaTimeouts _ _ _)]
  refine .inr ⟨"No confirmation within " ++ toString (otaTimeout d) ++ "s",
    (sameOta_heardRest _).trans (otaRows_markCommands.trans ?_)⟩
  rw [overdue]
  exact congrArg (List.map _) first

end Sensors

section Messages
variable {w : World} {d : Delivery} {data : Fields} {device : Device}

/-- The limit of max(600, 3 x publish_interval) seconds, for a device in the table or not. -/
def otaLimit (w : World) (id : String) : Nat :=
  max otaUpdateTimeout (3 * ((w.device? id).map Device.publishInterval).getD 0)

def lapses (w : World) (d : Delivery) (r : CommandLog) : Bool :=
  pendingOf d.deviceId (.str "ota_update") r && decide (d.env.now - r.sentAt > seconds (otaLimit w d.deviceId))

theorem otaRows_sensors (kind : d.kind = .sensors) :
    SameOta w (deliver w d) ∨ ∃ message, otaRows (deliver w d) =
      (otaRows w).map (fun r => if lapses w d r then r.mark .timeout message d.env.now else r) := by
  cases object : d.payload.object? with
  | none => exact .inl (.of_commandLogs (congrArg (fun v : World => v.db.commandLogs) (deliver_unread object)))
  | some data =>
    have own : ∀ device : Device, device.deviceId = d.deviceId →
        otaTimeout device = otaLimit w d.deviceId → overdueUpdate d.env device = lapses w d := by
      intro device same limit
      funext r
      unfold overdueUpdate lapses
      rw [same, limit]
    cases known : w.device? d.deviceId with
    | some device =>
      rw [deliver_sensors kind object known]
      rw [← own device (Table.key_get? known) (by rw [otaLimit, known]; rfl)]
      exact lapsed_sensorBody w
    | none =>
      rw [deliver_new known kind object rfl]
      generalize fresh_ :
        ({ deviceId := d.deviceId, deviceType := d.deviceType, createdAt := d.env.now } : Device) = fresh
      have created : Upholds SameOta (createDevice fresh) :=
        upholds_createDevice sameOta_closed (fun _ => rfl)
      have first := created w
      rcases run : outcome (createDevice fresh) w with ⟨e | ⟨⟩, v⟩ <;> rw [after, run] at first
      · rw [after_bind_error run]
        exact .inl first
      · rw [after_bind_ok run]
        rw [← own fresh (by rw [← fresh_]) (by rw [otaLimit, known, ← fresh_]; rfl)]
        rcases @lapsed_sensorBody d.env fresh d.deviceType data true v with same | ⟨message, lapsed⟩
        · exact .inl (same.trans first)
        · exact .inr ⟨message, lapsed.trans (congrArg (List.map _) first)⟩

theorem otaRows_capabilities (kind : d.kind = .capabilities) (object : d.payload.object? = some data)
    (known : w.device? d.deviceId = some device) :
    otaRows (deliver w d) =
      if capabilitiesFields.all (reportedDevice w data device).accepts then
        (otaRows w).map (fun r => if confirmedUpdate (reportedDevice w data device) r then
          r.mark .success ("Running " ++ (reportedDevice w data device).fwVersion) d.env.now else r)
      else otaRows w := by
  unfold deliver handleMessage
  rw [kind]
  dsimp only [handleCapabilitiesMessage]
  rw [after_handler object known, after_read_bind]
  change otaRows (after (do
    when (hadTimeoutAlert device) (addStatusLog (statusRow d.env (reportedDevice w data device)))
    saveDevice (reportedDevice w data device) capabilitiesFields
    capabilitiesRest d.env (reportedDevice w data device)
      (storeEmpty data && !(reportedDevice w data device).calibration.isEmpty)) w) = _
  obtain ⟨v, aside, logged⟩ := @outcome_logCleared d.env
    (fun code => (w.db.hardwareCodes.get? code).isSome) data device w
  change outcome (when (hadTimeoutAlert device)
    (addStatusLog (statusRow d.env (reportedDevice w data device)))) w = (.ok (), v) at logged
  have first : SameOta w v := .of_commandLogs aside.commandLogs
  generalize reportedDevice w data device = saved at *
  have stored := outcome_saveDevice saved capabilitiesFields v
  rw [after_bind_ok logged]
  split
  · next taken =>
    have text : varchar 32 saved.fwVersion = true := List.all_eq_true.mp taken .fwVersion (by decide)
    rw [varchar, Bool.and_eq_true] at text
    rw [if_pos taken] at stored
    obtain ⟨_, u, resolved⟩ := @total_resolveCapabilityRequests d.env saved .success "" (by decide)
      (v.apply (.saveDevice saved capabilitiesFields))
    have second := @sameOta_resolveRequests d.env saved .success ""
      (v.apply (.saveDevice saved capabilitiesFields))
    rw [after, resolved] at second
    rw [after_bind_ok stored, capabilitiesRest, after_bind_ok resolved,
      after_bind_ok (outcome_resolveOtaUpdates text.1 u)]
    have rest : Upholds SameOta (when (storeEmpty data && !saved.calibration.isEmpty)
        (repushCalibration d.env saved)) :=
      Upholds.when sameOta_closed (fun _ => upholds_repushCalibration recounted_sameOta.toIssued
        (fun _ _ => trivial))
    refine (rest _).trans (otaRows_markCommands.trans (congrArg (List.map _) ?_))
    exact second.trans first
  · next refused =>
    rw [if_neg refused] at stored
    rw [after_bind_error stored]
    exact first

theorem sameOta_other (capabilities : d.kind ≠ .capabilities) (sensors : d.kind ≠ .sensors) (ack : d.kind ≠ .ack) :
    SameOta w (deliver w d) := by
  have within := recounted_sameOta
  unfold deliver handleMessage
  cases kind : d.kind with
  | sensors => exact absurd kind sensors
  | capabilities => exact absurd kind capabilities
  | ack => exact absurd kind ack
  | status => exact upholds_handleStatusMessage within (fun _ _ => trivial) (fun _ _ => trivial) w
  | commands => exact upholds_handleCommandsMessage within.toIssued (fun _ _ => trivial) w
  | calibration => exact upholds_handleCalibrationMessage within.toIssued (fun _ _ => trivial) w
  | diag => exact upholds_handleDiagMessage within (fun _ _ => trivial) (fun _ _ => trivial) w

theorem otaRows_ack (kind : d.kind = .ack) :
    SameOta w (deliver w d) ∨ ∃ m data, Answers w d.deviceId d.payload m data ∧
      nulFree (pyTake 256 m.message) = true ∧ otaRows (deliver w d) =
      (otaRows w).map (fun r => if decide (r.id = m.row.id) then r.mark m.status m.message d.env.now else r) := by
  have looked : Upholds SameOta (ackLookup d.deviceId d.payload) :=
    upholds_ackLookup recounted_sameOta.toIssued (fun _ _ => trivial)
  have first := looked w
  unfold deliver handleMessage
  rw [kind]
  dsimp only [handleAckMessage]
  rcases run : outcome (ackLookup d.deviceId d.payload) w with ⟨e | target, v⟩ <;> rw [after, run] at first
  · rw [after_bind_error run]
    exact .inl first
  · rw [after_bind_ok run]
    cases target with
    | none => exact .inl first
    | some m =>
      obtain ⟨rfl, data, answers⟩ := ackLookup_answers run
      unfold ackUpdate
      dsimp only
      rw [after_markCommand]
      split
      · next text => exact .inr ⟨m, data, answers, text, otaRows_markCommands⟩
      · exact .inl first

end Messages

inductive Rollout where
  | push (env : Env) (request : Request) (deviceId : String)
  | message (d : Delivery)

def rollout (w : World) : Rollout → World
  | .push env request deviceId => after (deviceOtaPushView env request deviceId) w
  | .message d => deliver w d

def Earned (w : World) (e : Rollout) (row : CommandLog) : CommandStatus → Prop
  | .pending => False
  | .success => ∃ d data target, e = .message d ∧ d.kind = .capabilities ∧ d.deviceId = row.device ∧
      d.payload.object? = some data ∧ commandGet row.command "ver" = some (.str target) ∧
      Dict.get? data "fw" = some (.str target)
  | .failed => ∃ d data, e = .message d ∧ d.kind = .ack ∧ d.deviceId = row.device ∧
      d.payload.object? = some data ∧ Dict.get? data "action" = some (.str "ota_update") ∧
      Dict.get? data "status" = some (.str "error")
  | .timeout => ∃ d, e = .message d ∧ d.kind = .sensors ∧ d.deviceId = row.device ∧
      d.env.now - row.sentAt > seconds (otaLimit w row.device)

/-- Every update is one from before, with its status or one it has earned, or new and pending. -/
def SoundRows (w v : World) (e : Rollout) : Prop :=
  ∀ new ∈ otaRows v, (∃ old ∈ otaRows w, old.id = new.id ∧
      (new.status = old.status ∨ Earned w e old new.status)) ∨
    (∀ old ∈ w.db.commandLogs.rows, old.id ≠ new.id) ∧ new.status = .pending

def startAck (d : Delivery) : Bool :=
  decide (d.kind = .ack) && d.payload.object?.any (fun data =>
    decide (Dict.get? data "action" = some (.str "ota_update")) && decide (Dict.get? data "status" = some (.str "start")))

def SoundOutcomes (w : World) (e : Rollout) : Prop :=
  SoundRows w (rollout w e) e ∧ ∀ d, e = .message d → startAck d = true → rollout w e = w

section Sound
variable {w v : World} {e : Rollout}

theorem soundRows_same (same : SameOta w v) : SoundRows w v e := by
  intro new member
  rw [same] at member
  exact .inl ⟨new, member, rfl, .inl rfl⟩

theorem soundRows_marked_iff {which : CommandLog → Bool} {status : CommandStatus} {message : String} {at_ : Time}
    (marked : otaRows v = (otaRows w).map (fun r => if which r then r.mark status message at_ else r))
    (pending : ∀ r ∈ otaRows w, which r = true → r.status ≠ status) :
    SoundRows w v e ↔ ∀ r ∈ otaRows w, which r = true → Earned w e r status := by
  constructor
  · intro sound r member hit
    have there : r.mark status message at_ ∈ otaRows v := by
      rw [marked]
      exact List.mem_map.mpr ⟨r, member, if_pos hit⟩
    have inside : r ∈ w.db.commandLogs.rows := List.mem_of_mem_filter member
    rcases sound _ there with ⟨old, before, same, kept | earned⟩ | ⟨fresh, -⟩
    · cases w.db.commandLogs.eq_of_id (List.mem_of_mem_filter before) inside same
      exact absurd kept.symm (pending _ before hit)
    · cases w.db.commandLogs.eq_of_id (List.mem_of_mem_filter before) inside same
      exact earned
    · exact absurd rfl (fresh r inside)
  · intro earned new member
    rw [marked] at member
    obtain ⟨old, before, rfl⟩ := List.mem_map.mp member
    refine .inl ⟨old, before, ?_⟩
    split
    · next hit => exact ⟨rfl, .inr (earned old before hit)⟩
    · exact ⟨rfl, .inl rfl⟩

structure Grown (w v : World) : Prop where
  counter : w.db.commandLogs.next ≤ v.db.commandLogs.next
  rows : ∀ new ∈ v.db.commandLogs.rows, new ∈ w.db.commandLogs.rows ∨
    w.db.commandLogs.next ≤ new.id ∧ new.status = .pending

theorem grown_closed : Closed Grown where
  refl _ := ⟨le_refl _, fun _ member => .inl member⟩
  trans := by
    intro a b c first second
    refine ⟨first.counter.trans second.counter, fun new member => ?_⟩
    rcases second.rows new member with before | ⟨late, pending⟩
    · exact first.rows new before
    · exact .inr ⟨first.counter.trans late, pending⟩

theorem grown_addCommandLog {env : Env} {device : String} {command : Json} {sentBy : Option String} :
    Upholds Grown (addCommandLog env device command sentBy) := by
  refine upholds_addCommandLog grown_closed (fun w => ⟨Nat.le_succ _, fun new member => ?_⟩)
  rcases List.mem_append.mp member with before | added
  · exact .inl before
  · rw [List.mem_singleton] at added
    subst added
    exact .inr ⟨le_refl _, rfl⟩

theorem grown_push {env : Env} {request : Request} {deviceId : String} :
    Upholds Grown (deviceOtaPushView env request deviceId) := by
  have publish : ∀ w p, Grown w (w.apply (.publish p)) := fun _ _ => ⟨le_refl _, fun _ member => .inl member⟩
  exact upholds_deviceOtaPushView grown_closed
    (fun _ _ => upholds_mqttPublish grown_closed (fun w _ => publish w _)) (fun _ _ => grown_addCommandLog)

theorem Grown.sound (grown : Grown w v) : SoundRows w v e := by
  intro new member
  obtain ⟨there, ota⟩ := List.mem_filter.mp member
  rcases grown.rows new there with before | ⟨late, pending⟩
  · exact .inl ⟨new, List.mem_filter.mpr ⟨before, ota⟩, rfl, .inl rfl⟩
  · refine .inr ⟨fun old before same => ?_, pending⟩
    exact absurd (w.db.commandLogs.below old before) (not_lt.mpr (same ▸ late))

/-- A capabilities message whose version is refused has the stored version confirm the updates to it. -/
def staleConfirm (w : World) (data : Fields) (device : Device) : Bool :=
  (reportedFw data).isNone && decide (Dict.get? data "fw" ≠ some (.str device.fwVersion)) &&
    capabilitiesFields.all (reportedDevice w data device).accepts && (otaRows w).any (confirmedUpdate device)

def ackConfirm (w : World) (d : Delivery) (data : Fields) : Bool :=
  decide (Dict.get? data "action" = some (.str "ota_update")) && decide (Dict.get? data "status" = some (.str "ok")) &&
    nulFree (pyTake 256 (ackText data)) && !(pendingCommands w.db d.deviceId (.str "ota_update")).isEmpty

def unconfirmed (w : World) : Rollout → Bool
  | .push _ _ _ => false
  | .message d =>
    match d.payload.object?, w.device? d.deviceId with
    | some data, some device =>
      match d.kind with
      | .capabilities => staleConfirm w data device
      | .ack => ackConfirm w d data
      | _ => false
    | _, _ => false

theorem body_of_object {p : Payload} {data : Fields} (object : p.object? = some data) :
    p.size ≤ maxPayloadSize ∧ p.body = .value (.obj data) ∧ p.fields = data := by
  obtain ⟨size, decoded⟩ := p
  unfold Payload.object? at object
  split at object
  · cases object
  · next small =>
    rcases decoded with json | _ | _ <;> try cases object
    cases json <;> cases object
    exact ⟨not_lt.mp small, rfl, rfl⟩

theorem runsTarget_iff {device : Device} {command : Json} :
    runsTarget device command = true ↔
      commandGet command "ver" = some (.str device.fwVersion) ∧ device.fwVersion ≠ "" := by
  unfold runsTarget
  split
  · next target ver =>
    simp only [Bool.and_eq_true, decide_eq_true_eq, ver, Option.some.injEq, Json.str.injEq]
    constructor
    · rintro ⟨some_, rfl⟩
      exact ⟨rfl, some_⟩
    · rintro ⟨rfl, some_⟩
      exact ⟨some_, rfl⟩
  · next other =>
    refine iff_of_false Bool.false_ne_true ?_
    rintro ⟨ver, -⟩
    exact other _ ver

theorem reportedFw_eq_some {data : Fields} {f : String} (reported : reportedFw data = some f) :
    f = "" ∨ Dict.get? data "fw" = some (.str f) := by
  unfold reportedFw at reported
  cases fw : Dict.get? data "fw" with
  | none =>
    rw [fw] at reported
    simp only [Option.getD_none] at reported
    split at reported
    · exact .inl (Option.some.inj reported).symm
    · cases reported
  | some value =>
    rw [fw] at reported
    cases value with
    | str s =>
      simp only [Option.getD_some] at reported
      split at reported
      · exact .inr (by rw [Option.some.inj reported])
      · cases reported
    | _ => cases reported

theorem fwVersion_reportedDevice {data : Fields} {device : Device} :
    (reportedDevice w data device).fwVersion = (reportedFw data).getD device.fwVersion := by
  unfold reportedDevice applyCapabilities
  cases hadTimeoutAlert device <;> rfl

section Known
variable {d : Delivery} {data : Fields} {device : Device} (object : d.payload.object? = some data)
  (known : w.device? d.deviceId = some device)
include object known

theorem earned_success_iff {row : CommandLog} (kind : d.kind = .capabilities)
    (confirmed : confirmedUpdate (reportedDevice w data device) row = true) :
    Earned w (.message d) row .success ↔
      Dict.get? data "fw" = some (.str (reportedDevice w data device).fwVersion) := by
  unfold confirmedUpdate pendingOf at confirmed
  simp only [Bool.and_eq_true, decide_eq_true_eq, runsTarget_iff] at confirmed
  obtain ⟨⟨⟨own, -⟩, -⟩, ver, -⟩ := confirmed
  have same : (reportedDevice w data device).deviceId = d.deviceId :=
    deviceId_applyCapabilities.trans (Table.key_get? known)
  constructor
  · rintro ⟨_, _, target, ⟨⟩, -, -, read, named, fw⟩
    cases object.symm.trans read
    cases ver.symm.trans named
    exact fw
  · exact fun fw => ⟨d, data, _, rfl, kind, (own.trans same).symm, object, ver, fw⟩

theorem soundRows_capabilities_iff (kind : d.kind = .capabilities) :
    SoundRows w (deliver w d) (.message d) ↔ staleConfirm w data device = false := by
  have rows := otaRows_capabilities kind object known
  unfold staleConfirm
  by_cases accepted : capabilitiesFields.all (reportedDevice w data device).accepts = true
  swap
  · rw [if_neg accepted] at rows
    refine iff_of_true (soundRows_same rows) ?_
    rw [Bool.not_eq_true] at accepted
    rw [accepted, Bool.and_false, Bool.false_and]
  · rw [if_pos accepted] at rows
    have marked := @soundRows_marked_iff w (deliver w d) (.message d) _ _ _ _ rows (fun r _ hit => by
      simp only [confirmedUpdate, pendingOf, Bool.and_eq_true, decide_eq_true_eq] at hit
      rw [hit.1.1.2]
      decide)
    rw [marked, accepted, Bool.and_true]
    have each : (∀ r ∈ otaRows w, confirmedUpdate (reportedDevice w data device) r = true →
        Earned w (.message d) r .success) ↔ ∀ r ∈ otaRows w,
        confirmedUpdate (reportedDevice w data device) r = true →
        Dict.get? data "fw" = some (.str (reportedDevice w data device).fwVersion) :=
      forall₂_congr (fun r _ => forall_congr' (fun confirmed => earned_success_iff object known kind confirmed))
    rw [each, fwVersion_reportedDevice]
    cases reported : reportedFw data with
    | some f =>
      refine iff_of_true (fun r _ confirmed => ?_) rfl
      simp only [confirmedUpdate, Bool.and_eq_true, runsTarget_iff, fwVersion_reportedDevice, reported,
        Option.getD_some] at confirmed
      exact (reportedFw_eq_some reported).resolve_left confirmed.2.2
    | none =>
      have alike : confirmedUpdate (reportedDevice w data device) = confirmedUpdate device := by
        funext r
        have id : (reportedDevice w data device).deviceId = device.deviceId := deviceId_applyCapabilities
        have fw : (reportedDevice w data device).fwVersion = device.fwVersion := by
          rw [fwVersion_reportedDevice, reported]
          rfl
        rw [Bool.eq_iff_iff]
        simp only [confirmedUpdate, Bool.and_eq_true, runsTarget_iff, id, fw]
      rw [alike, Option.getD_none, Option.isNone_none, Bool.true_and]
      by_cases named : Dict.get? data "fw" = some (.str device.fwVersion)
      · simp [named]
      · simp [named]

omit known in
theorem earned_of_answers {m : AckMark} {data' : Fields} (kind : d.kind = .ack)
    (answers : Answers w d.deviceId d.payload m data') (text : nulFree (pyTake 256 m.message) = true)
    (refused : ackConfirm w d data = false) (ota : otaUpdate m.row.command = true) :
    Earned w (.message d) m.row m.status := by
  obtain ⟨object', target, considered, status, message⟩ := answers
  cases object.symm.trans object'
  have listed := List.mem_of_mem_head? target
  rw [pendingNewestFirst, OrderBy.mem_descending] at listed
  have selected := (List.mem_filter.mp listed).2
  simp only [Bool.and_eq_true, decide_eq_true_eq] at selected
  have action : Dict.get? data "action" = some (.str "ota_update") := by
    unfold otaUpdate hasAction at ota
    have same := selected.2
    unfold hasAction at same
    cases named : actionOf m.row.command with
    | none => simp [named] at ota
    | some a =>
      rw [named] at ota same
      cases Json.same_str.mp ota
      have equal : Json.same ((Dict.get? data "action").getD (.str "")) (.str "ota_update") = true := by
        simp only [Json.same, decide_eq_true_eq] at same ⊢
        exact same.symm
      have value := Json.same_str.mp equal
      cases field : Dict.get? data "action" with
      | none => simp [field] at value
      | some a =>
        rw [field] at value
        exact congrArg some value
  have error : Dict.get? data "status" = some (.str "error") := by
    have pending : (pendingCommands w.db d.deviceId (.str "ota_update")).isEmpty = false := by
      rw [action] at listed
      cases rows : pendingCommands w.db d.deviceId (.str "ota_update") with
      | nil =>
        rw [Option.getD_some, rows] at listed
        cases listed
      | cons _ _ => rfl
    have other : Dict.get? data "status" ≠ some (.str "ok") := by
      intro ok
      rw [message] at text
      simp [ackConfirm, action, ok, text, pending] at refused
    simp only [ackIgnored, Bool.or_eq_false_iff, Bool.not_eq_false', Bool.or_eq_true,
      decide_eq_true_eq] at considered
    cases field : Dict.get? data "status" with
    | none => simp [field] at considered
    | some value =>
      rw [field, Option.getD_some] at considered
      rcases considered.2.2 with ok | error
      · exact absurd (ok ▸ field) other
      · rw [error]
  rw [status, error]
  exact ⟨d, data, rfl, kind, selected.1.1.symm, object, action, error⟩

theorem soundRows_ack_iff (kind : d.kind = .ack) :
    SoundRows w (deliver w d) (.message d) ↔ ackConfirm w d data = false := by
  cases confirm : ackConfirm w d data with
  | true =>
    refine iff_of_false (fun sound => ?_) (by decide)
    simp only [ackConfirm, Bool.and_eq_true, decide_eq_true_eq, Bool.not_eq_true',
      List.isEmpty_eq_false_iff] at confirm
    obtain ⟨⟨⟨action, ok⟩, text⟩, pending⟩ := confirm
    obtain ⟨small, body, fields⟩ := body_of_object object
    rw [← fields] at action ok text
    have ack : IsAck d.deviceId (.str "ota_update") d := ⟨kind, rfl, fields ▸ body, action, .inl ok⟩
    have readable : d.readable (.str "ota_update") = true := by
      simp only [Delivery.readable, Bool.and_eq_true, decide_eq_true_eq]
      exact ⟨⟨small, rfl⟩, text⟩
    have queued : pendingNewestFirst w.db d.deviceId (.str "ota_update") ≠ [] := by
      obtain ⟨r, member⟩ := List.exists_mem_of_ne_nil _ pending
      exact List.ne_nil_of_mem (OrderBy.mem_descending.mpr member)
    obtain ⟨row, target⟩ := Option.isSome_iff_exists.mp (List.isSome_head?.mpr queued)
    have delivered := deliver_ack (by rw [known]; rfl) ack readable target
    have listed := List.mem_filter.mp (OrderBy.mem_descending.mp (List.mem_of_mem_head? target))
    have selected := listed.2
    simp only [Bool.and_eq_true, decide_eq_true_eq] at selected
    have success : d.acked = .success := by
      unfold Delivery.acked ackStatus
      rw [ok]
      rfl
    rw [delivered] at sound
    have earned := (soundRows_marked_iff otaRows_markCommands (fun r member hit => ?_)).mp sound row
      (List.mem_filter.mpr ⟨listed.1, selected.2⟩) (decide_eq_true rfl)
    · rw [success] at earned
      obtain ⟨_, _, _, ⟨⟩, other, -⟩ := earned
      exact absurd (kind.symm.trans other) (by decide)
    · cases w.db.commandLogs.eq_of_id (List.mem_of_mem_filter member) listed.1 (of_decide_eq_true hit)
      rw [selected.1.2, success]
      decide
  | false =>
    refine iff_of_true ?_ rfl
    rcases @otaRows_ack w d kind with same | ⟨m, data', answers, text, marked⟩
    · exact soundRows_same same
    · have target := ackTarget_mem answers.target
      have waiting : m.row.status = .pending := by
        have listed := List.mem_of_mem_head? answers.target
        rw [pendingNewestFirst, OrderBy.mem_descending] at listed
        have selected := (List.mem_filter.mp listed).2
        simp only [Bool.and_eq_true, decide_eq_true_eq] at selected
        exact selected.1.2
      have row : ∀ r ∈ otaRows w, decide (r.id = m.row.id) = true → r = m.row := fun r member hit =>
        w.db.commandLogs.eq_of_id (List.mem_of_mem_filter member) target (of_decide_eq_true hit)
      refine (soundRows_marked_iff marked (fun r member hit => ?_)).mpr (fun r member hit => ?_)
      · rw [row r member hit, waiting]
        exact ((CommandLog.terminal_iff _).mp answers.terminal).symm
      · cases row r member hit
        exact earned_of_answers object kind answers text confirm (List.mem_filter.mp member).2

end Known

theorem sound_sensors {d : Delivery} (kind : d.kind = .sensors) : SoundRows w (deliver w d) (.message d) := by
  rcases @otaRows_sensors w d kind with same | ⟨message, marked⟩
  · exact soundRows_same same
  · refine (soundRows_marked_iff marked (fun r _ hit => ?_)).mpr (fun r _ hit => ?_)
    all_goals
      simp only [lapses, pendingOf, Bool.and_eq_true, decide_eq_true_eq] at hit
      obtain ⟨⟨⟨own, waiting⟩, -⟩, late⟩ := hit
    · rw [waiting]
      decide
    · exact ⟨d, rfl, kind, own.symm, own ▸ late⟩

theorem start_changes_nothing {d : Delivery} (start : startAck d = true) : deliver w d = w := by
  simp only [startAck, Bool.and_eq_true, decide_eq_true_eq, Option.any_eq_true] at start
  obtain ⟨kind, data, object, action, status⟩ := start
  have other : d.kind ≠ .sensors := by rw [kind]; decide
  cases known : w.device? d.deviceId with
  | none => exact deliver_unknown known other
  | some device =>
    have looked : outcome (ackLookup d.deviceId d.payload) w = (.ok none, w) := by
      unfold ackLookup
      rw [withObject_object _ _ object, withDevice_known _ _ known]
      dsimp only
      rw [action, status]
      rfl
    unfold deliver handleMessage
    rw [kind]
    exact after_bind_ok looked

/-- A step is sound exactly if no update is confirmed without a report of its version. -/
theorem soundOutcomes_iff : SoundOutcomes w e ↔ unconfirmed w e = false := by
  have quiet : ∀ d, e = .message d → startAck d = true → rollout w e = w := by
    rintro d rfl start
    exact start_changes_nothing start
  rw [SoundOutcomes, and_iff_left quiet]
  cases e with
  | push env request deviceId => exact iff_of_true (grown_push w).sound rfl
  | message d =>
    unfold unconfirmed
    dsimp only [rollout]
    cases object : d.payload.object? with
    | none =>
      refine iff_of_true (soundRows_same ?_) rfl
      rw [deliver_unread object]
      rfl
    | some data =>
      by_cases sensors : d.kind = .sensors
      · refine iff_of_true (sound_sensors sensors) ?_
        cases w.device? d.deviceId <;> simp [sensors]
      · cases known : w.device? d.deviceId with
        | none =>
          refine iff_of_true (soundRows_same ?_) rfl
          rw [deliver_unknown known sensors]
          rfl
        | some device =>
          by_cases capabilities : d.kind = .capabilities
          · rw [soundRows_capabilities_iff object known capabilities, capabilities]
          · by_cases ack : d.kind = .ack
            · rw [soundRows_ack_iff object known ack, ack]
            · refine iff_of_true (soundRows_same (sameOta_other capabilities sensors ack)) ?_
              cases kind : d.kind <;> first | rfl | exact absurd kind capabilities | exact absurd kind ack

/-- In every run every update ends as it has earned, as long as none is confirmed by an ok ack
or by the stored version of a device that reports an invalid one. -/
theorem outcomes_sound_iff (w : World) (es : List Rollout) :
    Run.Along rollout SoundOutcomes w es ↔ Run.Along rollout (fun w e => unconfirmed w e = false) w es :=
  Run.along_iff (fun _ _ (_ : True) => soundOutcomes_iff) (fun _ _ _ _ => trivial) trivial

end Sound

def benchDevice : Device :=
  { deviceId := "living01", deviceType := "thermo", createdAt := 0, fwVersion := "2.0", otaCapable := true
    hardwareCode := some "E32SHT40", hwRev := some 1 }

def benchWorld : World :=
  (World.empty.apply (.createDevice benchDevice)).apply
    (.addFirmware ("E32SHT40", 1) "2.0" "fw/E32SHT40/1/2.0.bin" "55a54008ad1ba589aa210d2629c1df41" 1 0 "")

def benchPush : Rollout :=
  .push { now := seconds 1, otaBaseUrl := "http://ota", intOfStr := fun _ => some 0 }
    { user := { username := "alice", role := some .admin }, post := [("firmware_id", "0")] } "living01"

/-- An ack with status ok, which no firmware sends for an update. -/
def okAck : Rollout :=
  .message { env := { now := seconds 2 }, kind := .ack, deviceType := "thermo", deviceId := "living01"
             payload := ⟨37, .value (.obj [("action", .str "ota_update"), ("status", .str "ok")])⟩ }

/-- A report whose version is no string. -/
def versionlessReport : Rollout :=
  .message { env := { now := seconds 2 }, kind := .capabilities, deviceType := "thermo", deviceId := "living01"
             payload := ⟨8, .value (.obj [("fw", .int 3)])⟩ }

theorem unreported_success :
    ((otaRows (Run.run rollout benchWorld [benchPush, versionlessReport])).map CommandLog.status = [.success] ∧
      ¬ Run.Along rollout SoundOutcomes benchWorld [benchPush, versionlessReport]) ∧
    (otaRows (Run.run rollout benchWorld [benchPush, okAck])).map CommandLog.status = [.success] ∧
      ¬ Run.Along rollout SoundOutcomes benchWorld [benchPush, okAck] := by
  have wrong : ∀ e, unconfirmed (rollout benchWorld benchPush) e = true →
      ¬ Run.Along rollout SoundOutcomes benchWorld [benchPush, e] := by
    rintro e hasty ⟨-, sound, -⟩
    rw [soundOutcomes_iff.mp sound] at hasty
    cases hasty
  exact ⟨⟨by decide +kernel, wrong versionlessReport (by decide +kernel)⟩,
    by decide +kernel, wrong okAck (by decide +kernel)⟩

end SensorServer
