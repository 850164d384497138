import SensorServer.Serving

/-! Who publishes ota_update on a command topic: the handlers and the flush never do,
the OTA push only does for a compatible image, a free-form command does as it pleases. -/
namespace SensorServer
open Program

def NotOta (_ : String) (payload : Json) : Prop := otaUpdate payload = false

theorem respected_sends (sends : String → Json → Prop) :
    Respected (Sends sends) (fun _ _ => True) sends (fun _ => True) :=
  have permits := (permits_sends sends).respected
  { closed := sends_closed sends
    save := fun w d fields _ => sends_of_emits (upholds_emit (permits.save · d fields trivial)) w
    publish := fun w p ok => sends_of_emits (upholds_emit (permits.publish · p ok)) w
    history := fun w e history log => sends_of_emits (upholds_emit (permits.history · e history log)) w
    checkOtaTimeouts := fun env device => sends_of_emits (permits.checkOtaTimeouts env device)
    resolveOtaUpdates := fun env device => sends_of_emits (permits.resolveOtaUpdates env device)
    resolveRequests := fun env device status message terminal =>
      sends_of_emits (permits.resolveRequests env device status message terminal) }

theorem sends_plain {sends : String → Json → Prop} (w : World) (e : Effect) (plain : e.plain = true) :
    Sends sends w (w.apply e) := by
  refine sends_of_emits (emits_emit (fun _ => ?_)) w
  cases e with
  | publish p => cases plain
  | _ => trivial

theorem served_sends {sends : String → Json → Prop}
    (quiet : ∀ topic payload, otaUpdate payload = false → sends topic payload) :
    Served (Sends sends) sends where
  toRespected := respected_sends sends
  plain := sends_plain
  undone := fun _ _ h => h
  ack := fun _ _ _ => sends_of_emits (emits_handleAckMessage (permits_sends sends) (fun _ _ => trivial))
  quiet := quiet

theorem served_notOta : Served (Sends NotOta) NotOta := served_sends (fun _ _ h => h)

/-- The message of an OTA push: an admin's request, a device that takes updates, and a
stored image of the device's own pair. -/
structure Pushed (w : World) (env : Env) (request : Request) (deviceId topic : String) (payload : Json)
    (device : Device) (firmware : Firmware) : Prop where
  admin : request.user.may .admin = true
  known : w.device? deviceId = some device
  topic : topic = commandTopic device
  capable : device.otaCapable = true
  existing : firmware ∈ w.db.firmwares.rows
  code : device.hardwareCode = some firmware.hardwareRevision.1
  rev : device.hwRev = some firmware.hardwareRevision.2
  payload : payload = otaCommand env firmware

def Legitimate (w : World) (e : Event) (topic : String) (payload : Json) : Prop :=
  otaUpdate payload = true → ∃ env request deviceId device firmware,
    e = .web env .otaPush request deviceId ∧
    Pushed w env request deviceId topic payload device firmware

theorem chosenFirmware_listed {env : Env} {db : Db} {device : Device} {key : Option String}
    {firmware : Firmware} (chosen : chosenFirmware env db device key = some (some firmware)) :
    firmware ∈ compatibleFirmwares db device := by
  unfold chosenFirmware at chosen
  cases key with
  | none => cases chosen
  | some text =>
    obtain ⟨i, -, found⟩ := Option.map_eq_some_iff.mp chosen
    exact List.mem_of_find?_eq_some found

theorem sends_sendOtaUpdate {sends : String → Json → Prop} {env : Env} {device : Device}
    {firmware : Firmware} {sentBy : Option String}
    (ok : otaGuard env device firmware = none → sends (commandTopic device) (otaCommand env firmware)) :
    Upholds (Sends sends) (sendOtaUpdate env device firmware sentBy) := by
  have closed := sends_closed sends
  unfold sendOtaUpdate
  split
  · exact Upholds.fail closed _
  · next passes =>
    exact Upholds.bind closed ((respected_sends sends).mqttPublish (ok passes))
      (fun _ => upholds_addCommandLog closed (fun w => sends_plain w _ rfl))

theorem sends_otaPush (w : World) (env : Env) (request : Request) (deviceId : String) :
    Sends (Legitimate w (.web env .otaPush request deviceId)) w
      (serve w (.web env .otaPush request deviceId)) := by
  have closed := sends_closed (Legitimate w (.web env .otaPush request deviceId))
  change Sends _ w (after (deviceOtaPushView env request deviceId) w)
  unfold deviceOtaPushView getDeviceOr404
  rw [roleRequired_eq]
  cases admin : request.user.may .admin with
  | false => exact closed.refl w
  | true =>
    rw [if_pos rfl, after_read_bind]
    cases known : w.device? deviceId with
    | none => exact closed.refl w
    | some device =>
      dsimp only [postOnly]
      split
      · exact closed.refl w
      · rw [after_read_bind]
        cases chosen : chosenFirmware env w.db device (QueryDict.get? request.post "firmware_id") with
        | none => exact closed.refl w
        | some choice =>
          cases choice with
          | none => exact closed.refl w
          | some firmware =>
            obtain ⟨existing, code, rev⟩ := compatibleFirmwares_spec (chosenFirmware_listed chosen)
            refine Upholds.rescue closed (Upholds.bind closed (sends_sendOtaUpdate ?_)
              (fun _ => Upholds.pure closed _)) (fun _ => Upholds.pure closed _) w
            intro passes _
            exact ⟨env, request, deviceId, device, firmware, rfl, admin, known, rfl,
              (otaGuard_spec passes).1, existing, code, rev, rfl⟩

def userCommand (env : Env) (request : Request) : Option Json :=
  let text := pyStrip (QueryDict.get request.post "command" "")
  if request.user.may .resident && request.isPost && decide (text ≠ "") then commandData env text
  else none

theorem after_deviceCommandView (w : World) (env : Env) (request : Request) (deviceId : String) :
    after (deviceCommandView env request deviceId) w =
      match userCommand env request, w.device? deviceId with
      | some command, some device =>
        after (publishAndRecord env device command request.user (do
          let _ ← requestCapabilities env device none false
          pure (commandLogAnswer request device))) w
      | _, _ => w := by
  unfold deviceCommandView userCommand getDeviceOr404 postOnly
  rw [roleRequired_eq]
  dsimp only
  cases request.user.may .resident with
  | false => simp only [Bool.false_and, Bool.false_eq_true, if_false]; rfl
  | true =>
    rw [if_pos rfl, after_read_bind]
    cases w.device? deviceId with
    | none => split <;> first | rfl | simp_all
    | some device =>
      cases request.isPost with
      | false => rfl
      | true =>
        dsimp only
        by_cases empty : pyStrip (QueryDict.get request.post "command" "") = ""
        · simp [empty]
        · simp only [empty, Bool.not_true, Bool.false_eq_true, if_false, Bool.true_and, ne_eq,
            not_false_eq_true, decide_true, if_true]
          cases commandData env (pyStrip (QueryDict.get request.post "command" "")) <;> rfl

theorem publishAndRecord_first (env : Env) (device : Device) (command : Json) (user : User)
    (respond : Act Response) (rest : Upholds (Sends (fun _ _ => True)) respond) (w : World) :
    ∃ p more, (after (publishAndRecord env device command user respond) w).published =
      w.published ++ p :: more ∧ p.payload = command := by
  have closed := sends_closed (fun _ _ => True)
  have later : Sends (fun _ _ => True)
      (after (attempt (mqttPublish env (commandTopic device) command false 1)) w)
      (after (publishAndRecord env device command user respond) w) := by
    refine Upholds.rest closed (fun sent => ?_) w
    split
    · exact Upholds.pure closed _
    · exact Upholds.bind closed (upholds_addCommandLog closed (fun w => sends_plain w _ rfl)) (fun _ => rest)
  obtain ⟨more, published, -⟩ := later
  rw [after_attempt, after_mqttPublish] at published
  refine ⟨⟨commandTopic device, command, false, 1, env.broker w.published.length⟩, more, ?_, rfl⟩
  rw [published]
  simp [World.apply]

/-- A request to the command form that carries an ota_update. -/
def forges (w : World) : Event → Bool
  | .web env .command request deviceId =>
    (w.device? deviceId).isSome && (userCommand env request).any otaUpdate
  | _ => false

theorem Sends.mono {sends weaker : String → Json → Prop} {w v : World}
    (entail : ∀ topic payload, sends topic payload → weaker topic payload) (h : Sends sends w v) :
    Sends weaker w v := by
  obtain ⟨new, published, each⟩ := h
  exact ⟨new, published, fun p member => entail _ _ (each p member)⟩

theorem legitimate_of_notOta {w : World} {e : Event} (topic : String) (payload : Json)
    (other : NotOta topic payload) : Legitimate w e topic payload := by
  intro ota
  rw [NotOta, ota] at other
  cases other

theorem command_legitimate_iff (w : World) (env : Env) (request : Request) (deviceId : String) :
    Sends (Legitimate w (.web env .command request deviceId)) w
        (serve w (.web env .command request deviceId)) ↔
      forges w (.web env .command request deviceId) = false := by
  change Sends _ w (after (deviceCommandView env request deviceId) w) ↔ _
  have forgery : forges w (.web env .command request deviceId) =
      ((w.device? deviceId).isSome && (userCommand env request).any otaUpdate) := rfl
  rw [after_deviceCommandView, forgery]
  cases userCommand env request with
  | none => exact iff_of_true ((sends_closed _).refl w) (by simp)
  | some command =>
    cases w.device? deviceId with
    | none => exact iff_of_true ((sends_closed _).refl w) (by simp)
    | some device =>
      dsimp only
      cases ota : otaUpdate command with
      | false =>
        refine iff_of_true ?_ (by simp [ota])
        have respond : Upholds (Sends NotOta) (do
            let _ ← requestCapabilities env device none false
            pure (commandLogAnswer request device)) :=
          Upholds.bind served_notOta.closed (served_notOta.requestCapabilities _ _ _)
            (fun _ => Upholds.pure served_notOta.closed _)
        exact Sends.mono legitimate_of_notOta (served_notOta.publishAndRecord ota respond w)
      | true =>
        refine iff_of_false ?_ (by simp [ota])
        rintro ⟨new, published, each⟩
        obtain ⟨p, more, first, payload⟩ := publishAndRecord_first env device command request.user (do
          let _ ← requestCapabilities env device none false
          pure (commandLogAnswer request device)) (Upholds.mono (fun _ _ => Sends.mono (fun _ _ _ => trivial))
            (Upholds.bind served_notOta.closed (served_notOta.requestCapabilities _ _ _)
              (fun _ => Upholds.pure served_notOta.closed _))) w
        have same : new = p :: more := List.append_cancel_left (published.symm.trans first)
        have member : p ∈ new := by rw [same]; exact List.mem_cons_self
        obtain ⟨_, _, _, _, _, push, -⟩ := each p member (by rw [payload]; exact ota)
        cases push

theorem legitimate_iff (w : World) (e : Event) :
    Sends (Legitimate w e) w (serve w e) ↔ forges w e = false := by
  cases e with
  | message d => exact iff_of_true ((served_sends legitimate_of_notOta).deliver w d) rfl
  | api env view request => exact iff_of_true ((served_sends legitimate_of_notOta).api w) rfl
  | web env view request deviceId =>
    by_cases command : view = .command
    · subst command
      exact command_legitimate_iff w env request deviceId
    · have quiet : forges w (.web env view request deviceId) = false := by
        cases view <;> first | rfl | exact absurd rfl command
      refine iff_of_true ?_ quiet
      by_cases push : view = .otaPush
      · subst push
        exact sends_otaPush w env request deviceId
      · exact (served_sends legitimate_of_notOta).view command push w

/-- In a run every ota_update is an admin's push of a stored image of the device's own pair
exactly when no command form carries one; and no message, by its flush, ever sends one. -/
theorem ota_pushed_iff (w : World) (es : List Event) :
    (Run.Along serve (fun w e => Sends (Legitimate w e) w (serve w e)) w es ↔
      Run.Along serve (fun w e => forges w e = false) w es) ∧
    ∀ v d, Sends NotOta v (serve v (.message d)) :=
  ⟨@Run.along_iff _ _ _ _ _ (fun _ => True) (fun w e _ => legitimate_iff w e) (fun _ _ _ _ => trivial) w es
    trivial, served_notOta.deliver⟩

/-- A resident types an update of their own into the command form. -/
def typedUpdate : Event :=
  .web
    { now := seconds 9
      jsonLoads := fun _ => .value (.obj [("action", .str "ota_update"), ("value", .str "http://x/y.bin")]) }
    .command
    { user := { username := "bob", role := some .resident }
      post := [("command", "\x7b\"action\":\"ota_update\",\"value\":\"http://x/y.bin\"\x7d")] }
    "living01"

def oneDevice : World := World.empty.apply (.createDevice { deviceId := "living01", createdAt := 0 })

theorem typedUpdate_sent :
    ((serve oneDevice typedUpdate).published.map (fun p => (p.topic, otaUpdate p.payload))).head? =
      some ("unknown/living01/command", true) ∧
    ¬ Run.Along serve (fun w e => Sends (Legitimate w e) w (serve w e)) oneDevice [typedUpdate] := by
  refine ⟨by decide, ?_⟩
  rintro ⟨sent, -⟩
  have honest := (legitimate_iff oneDevice typedUpdate).mp sent
  have forged : forges oneDevice typedUpdate = true := by decide
  rw [forged] at honest
  cases honest

end SensorServer
