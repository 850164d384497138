import SensorServer.Replies

/-! The course of a sensors message: what the row, the readings and the queues hold when the
part reserved to approved devices starts, and what each stage of that part adds. -/
namespace SensorServer
open Program

def readingEvent (device : Device) (deviceType : String) (r : SensorReading) : ChannelEvent :=
  .sensorReading device.deviceId deviceType r.metric r.value r.time device.effectiveName

def overflows (env : Env) (data : Fields) : Bool :=
  data.any (fun kv => metricName kv.1 && decide (pyFloat env kv.2 = .overflow))

def collects (env : Env) (deviceId : String) (data : Fields) (sent : Nat) : Bool :=
  !overflows env data && decide (∀ n < (acceptedReadings env deviceId data).length, env.channel (sent + n) = true)

section Collect
variable {env : Env} {device : Device} {deviceType deviceId : String} {value : Json} {raw : String}
  {rest : Fields} {sent : Nat}

theorem entry_cases (env : Env) (raw : String) (value : Json) :
    (metricName raw = false ∨ pyFloat env value = .skipped) ∨
      metricName raw = true ∧ pyFloat env value = .overflow ∨
      metricName raw = true ∧ ∃ f, pyFloat env value = .value f := by
  cases metricName raw with
  | false => exact .inl (.inl rfl)
  | true =>
    cases pyFloat env value with
    | skipped => exact .inl (.inr rfl)
    | overflow => exact .inr (.inl ⟨rfl, rfl⟩)
    | value f => exact .inr (.inr ⟨rfl, f, rfl⟩)

theorem accepted_passed (passed : metricName raw = false ∨ pyFloat env value = .skipped) :
    acceptedReadings env deviceId ((raw, value) :: rest) = acceptedReadings env deviceId rest := by
  rw [acceptedReadings]
  rcases passed with h | h <;> rw [h]
  cases metricName raw <;> rfl

theorem collects_passed (passed : metricName raw = false ∨ pyFloat env value = .skipped) :
    collects env deviceId ((raw, value) :: rest) sent = collects env deviceId rest sent := by
  have same : overflows env ((raw, value) :: rest) = overflows env rest := by
    unfold overflows
    rw [List.any_cons]
    rcases passed with h | h <;> simp [h]
  unfold collects
  rw [same, accepted_passed passed]

theorem collectReadings_passed (passed : metricName raw = false ∨ pyFloat env value = .skipped) :
    collectReadings env device deviceType ((raw, value) :: rest) = collectReadings env device deviceType rest := by
  rw [collectReadings]
  rcases passed with h | h <;> rw [h]
  · rfl
  · cases metricName raw <;> rfl

theorem collectReadings_overflow (name : metricName raw = true) (overflow : pyFloat env value = .overflow) :
    collectReadings env device deviceType ((raw, value) :: rest) = fail .conversion := by
  rw [collectReadings, name, overflow]
  rfl

theorem collectReadings_value {f : PyFloat} (name : metricName raw = true)
    (converts : pyFloat env value = .value f) :
    collectReadings env device deviceType ((raw, value) :: rest) = (do
      groupSend env (readingEvent device deviceType ⟨env.now, device.deviceId, resolveAlias raw, f⟩)
      let others ← collectReadings env device deviceType rest
      pure (⟨env.now, device.deviceId, resolveAlias raw, f⟩ :: others)) := by
  rw [collectReadings, name, converts]
  rfl

theorem accepted_value {f : PyFloat} (name : metricName raw = true) (converts : pyFloat env value = .value f) :
    acceptedReadings env deviceId ((raw, value) :: rest) =
      ⟨env.now, deviceId, resolveAlias raw, f⟩ :: acceptedReadings env deviceId rest := by
  rw [acceptedReadings, name, converts]

theorem collects_overflow (name : metricName raw = true) (overflow : pyFloat env value = .overflow) :
    collects env deviceId ((raw, value) :: rest) sent = false := by
  have over_ : overflows env ((raw, value) :: rest) = true := by simp [overflows, name, overflow]
  simp [collects, over_]

theorem collects_value {f : PyFloat} (name : metricName raw = true) (converts : pyFloat env value = .value f) :
    collects env deviceId ((raw, value) :: rest) sent =
      (env.channel sent && collects env deviceId rest (sent + 1)) := by
  have same : overflows env ((raw, value) :: rest) = overflows env rest := by simp [overflows, converts]
  unfold collects
  rw [same, accepted_value name converts, List.length_cons]
  simp only [Nat.forall_lt_succ_left, Nat.add_zero, Nat.add_assoc, Nat.add_comm 1]
  cases env.channel sent <;> simp

theorem outcome_collect (data : Fields) (w : World) :
    ∃ told, told <+: (acceptedReadings env device.deviceId data).map (readingEvent device deviceType) ∧
      if collects env device.deviceId data w.broadcasts.length then
        told = (acceptedReadings env device.deviceId data).map (readingEvent device deviceType) ∧
        outcome (collectReadings env device deviceType data) w =
          (.ok (acceptedReadings env device.deviceId data), { w with broadcasts := w.broadcasts ++ told })
      else ∃ e, outcome (collectReadings env device deviceType data) w =
        (.error e, { w with broadcasts := w.broadcasts ++ told }) := by
  induction data generalizing w with
  | nil =>
    have through : collects env device.deviceId [] w.broadcasts.length = true := by
      simp [collects, overflows, acceptedReadings]
    exact ⟨[], List.nil_prefix, by rw [if_pos through]; simp [acceptedReadings, collectReadings]⟩
  | cons entry rest ih =>
    obtain ⟨raw, value⟩ := entry
    rcases entry_cases env raw value with passed | ⟨name, overflow⟩ | ⟨name, f, converts⟩
    · rw [accepted_passed passed, collects_passed passed, collectReadings_passed passed]
      exact ih w
    · refine ⟨[], List.nil_prefix, ?_⟩
      rw [collects_overflow name overflow, collectReadings_overflow name overflow]
      exact ⟨.conversion, by simp⟩
    · rw [collects_value name converts, accepted_value name converts, List.map_cons,
        collectReadings_value name converts]
      generalize readingEvent device deviceType ⟨env.now, device.deviceId, resolveAlias raw, f⟩ = e
      by_cases taken : env.channel w.broadcasts.length = true
      swap
      · have refused : outcome (groupSend env e) w = (.error .channel, w) := by
          rw [outcome_groupSend, if_neg taken]
        refine ⟨[], List.nil_prefix, ?_⟩
        rw [Bool.eq_false_iff.mpr taken, outcome_bind_error refused]
        exact ⟨.channel, by simp⟩
      have sent : outcome (groupSend env e) w = (.ok (), w.apply (.broadcast e)) := by
        rw [outcome_groupSend, if_pos taken]
      have count : (w.apply (.broadcast e)).broadcasts.length = w.broadcasts.length + 1 := by simp [World.apply]
      obtain ⟨told, prefix_, rounds⟩ := ih (w.apply (.broadcast e))
      rw [count] at rounds
      refine ⟨e :: told, List.cons_prefix_cons.mpr ⟨rfl, prefix_⟩, ?_⟩
      rw [taken, Bool.true_and, outcome_bind_ok sent]
      have state : ({ w.apply (.broadcast e) with
          broadcasts := (w.apply (.broadcast e)).broadcasts ++ told } : World) =
          { w with broadcasts := w.broadcasts ++ e :: told } := by simp [World.apply]
      rw [state] at rounds
      split
      · next through =>
        rw [if_pos through] at rounds
        exact ⟨congrArg _ rounds.1, outcome_bind_ok rounds.2⟩
      · next stopped =>
        rw [if_neg stopped] at rounds
        obtain ⟨raised, run⟩ := rounds
        exact ⟨raised, outcome_bind_error run⟩

end Collect

/-- The table holds the instance as it is, and since then no reading was stored and nothing announced. -/
structure Mirrored (device : Device) (w v : World) : Prop where
  known : v.device? device.deviceId = some device
  readings : v.db.readings = w.db.readings
  broadcasts : v.broadcasts = w.broadcasts

theorem mirrored_saved {device row : Device} {fields : List DeviceField} {w : World}
    (known : w.device? device.deviceId = some row) (whole : device.copyFields fields row = device) :
    Mirrored device w (w.apply (.saveDevice device fields)) := by
  have named : row.deviceId = device.deviceId := Table.key_get? known
  refine ⟨?_, rfl, rfl⟩
  rw [device?_saved known named.symm, whole]

def Device.withRequest (d : Device) (at_ : Option Time) : Device := { d with capabilitiesRequestedAt := at_ }

def Unheard (w v : World) : Prop := v.db.readings = w.db.readings ∧ v.broadcasts = w.broadcasts

theorem unheard_closed : Closed Unheard :=
  ⟨fun _ => ⟨rfl, rfl⟩, fun h k => ⟨k.1.trans h.1, k.2.trans h.2⟩⟩

theorem serviced_unheard : Serviced Unheard (fun _ _ => True) (fun _ _ => True) :=
  Serviced.of_marks unheard_closed (fun _ _ _ _ => ⟨rfl, rfl⟩) (fun _ _ _ => ⟨rfl, rfl⟩)
    (fun _ _ _ _ _ _ => ⟨rfl, rfl⟩)

section Stages
variable {env : Env} {device : Device} {w : World}

theorem outcome_requestBare (env : Env) (device : Device) (name : String) (w : World) :
    outcome (requestBare env device name) w = (.ok (), w.apply
      (.publish ⟨commandTopic device, bareCommand name, false, 1, env.broker w.published.length⟩)) :=
  outcome_bind_ok (outcome_attempt_publish _ _ _ _ _ w)

theorem mirrored_requestCapabilities (known : w.device? device.deviceId = some device) :
    ∃ at_ v request, outcome (requestCapabilities env device none false) w =
        (.ok (device.withRequest at_), v) ∧
      Mirrored (device.withRequest at_) w v ∧ v.published = w.published ++ [request] := by
  generalize asked : (⟨commandTopic device, bareCommand "request_capabilities", false, 1,
    env.broker w.published.length⟩ : Publication) = request
  have sent := outcome_attempt_publish env (commandTopic device) (bareCommand "request_capabilities") false 1 w
  rw [asked] at sent
  unfold requestCapabilities
  cases taken : env.broker w.published.length with
  | false =>
    rw [taken] at sent
    exact ⟨device.capabilitiesRequestedAt, _, request, outcome_bind_ok sent, ⟨known, rfl, rfl⟩, rfl⟩
  | true =>
    rw [taken] at sent
    have saved : outcome (saveDevice (device.withRequest (some env.now)) [.capabilitiesRequestedAt])
        (w.apply (.publish request)) = (.ok (), (w.apply (.publish request)).apply
          (.saveDevice (device.withRequest (some env.now)) [.capabilitiesRequestedAt])) := rfl
    have logged : outcome (attempt (do
        saveDevice (device.withRequest (some env.now)) [.capabilitiesRequestedAt]
        when false (createCommandLog env (device.withRequest (some env.now))
          (bareCommand "request_capabilities") none))) (w.apply (.publish request)) =
        (.ok true, (w.apply (.publish request)).apply
          (.saveDevice (device.withRequest (some env.now)) [.capabilitiesRequestedAt])) := by
      rw [outcome_attempt, outcome_bind_ok saved]
      rfl
    have stage : Mirrored (device.withRequest (some env.now)) (w.apply (.publish request)) _ :=
      @mirrored_saved _ _ [.capabilitiesRequestedAt] _ known rfl
    refine ⟨some env.now, _, request, ?_, ⟨stage.known, rfl, rfl⟩, rfl⟩
    rw [outcome_bind_ok sent, if_pos rfl]
    exact outcome_bind_ok logged

theorem mirrored_wakeUp (known : w.device? device.deviceId = some device) :
    ∃ at_ v sent, outcome (wakeUp env device) w = (.ok (device.withRequest at_), v) ∧
      Mirrored (device.withRequest at_) w v ∧ v.published = w.published ++ sent ∧
      sent.getLast?.map Publication.payload ≠ some (bareCommand "get_diag") := by
  obtain ⟨v, flushed, ran, db, more, -⟩ := outcome_flush env device w
  have unheard : Unheard w (after (flushPendingCommands env device) w) :=
    upholds_flushPendingCommands serviced_unheard.toIssued (fun _ _ => trivial) w
  rw [after, ran] at unheard
  have still : v.device? device.deviceId = some device := by
    unfold World.device? at *
    rw [db]
    exact known
  obtain ⟨at_, u, request, asked, stage, again⟩ := @mirrored_requestCapabilities env device v still
  refine ⟨at_, ?_⟩
  generalize device.withRequest at_ = d at asked stage ⊢
  have commands : outcome (requestCommands env d) u = _ := outcome_requestBare env d "request_commands" u
  generalize given : (⟨commandTopic d, bareCommand "request_commands", false, 1, env.broker u.published.length⟩ :
    Publication) = second at commands
  have name : second.payload = bareCommand "request_commands" := by rw [← given]
  have stage₂ : Mirrored d w (u.apply (.publish second)) :=
    ⟨stage.known, stage.readings.trans unheard.1, stage.broadcasts.trans unheard.2⟩
  have published₂ : (u.apply (.publish second)).published = w.published ++ (flushed ++ [request] ++ [second]) := by
    simp [World.apply, again, more]
  unfold wakeUp
  rw [outcome_bind_ok ran, outcome_bind_ok asked, outcome_bind_ok commands]
  by_cases diag : d.supportsDiag = true
  · have status : outcome (requestStatus env d) (u.apply (.publish second)) = _ :=
      outcome_requestBare env d "get_status" (u.apply (.publish second))
    generalize told : (⟨commandTopic d, bareCommand "get_status", false, 1,
      env.broker (u.apply (.publish second)).published.length⟩ : Publication) = third at status
    have name₃ : third.payload = bareCommand "get_status" := by rw [← told]
    refine ⟨(u.apply (.publish second)).apply (.publish third), flushed ++ [request] ++ [second] ++ [third],
      ?_, ⟨stage₂.known, stage₂.readings, stage₂.broadcasts⟩, ?_, ?_⟩
    · rw [when, if_pos diag, outcome_bind_ok status]
      rfl
    · rw [← List.append_assoc, ← published₂]
      rfl
    · rw [List.getLast?_concat, Option.map_some, name₃]
      decide
  · refine ⟨u.apply (.publish second), flushed ++ [request] ++ [second], ?_, stage₂, published₂, ?_⟩
    · rw [when, if_neg diag]
      rfl
    · rw [List.getLast?_concat, Option.map_some, name]
      decide

theorem outcome_resolveRequests {status : CommandStatus} {message : String} (text : nulFree message = true) :
    outcome (resolveCapabilityRequests env device status message) w = (.ok (), w.apply (.markCommands
      (pendingOf device.deviceId (.str "request_capabilities")) status message env.now)) := by
  unfold resolveCapabilityRequests
  rw [varchar_pyTake, if_pos (nulFree_pyTake text)]
  rfl

theorem mirrored_checkTimeout (known : w.device? device.deviceId = some device) :
    ∃ v, outcome (checkCapabilitiesTimeout env device) w = (.ok (timedOut env.now device), v) ∧
      Mirrored (timedOut env.now device) w v ∧ v.published = w.published := by
  have alert : varchar 256 noCapabilitiesAlert = true := by decide
  have text : nulFree ("No response within " ++ toString (capabilitiesTimeout device) ++ "s") = true :=
    nulFree_append (nulFree_append (by decide) (nulFree_toString _)) (by decide)
  unfold checkCapabilitiesTimeout timedOut
  by_cases overdue : capabilitiesOverdue device env.now = true
  swap
  · rw [if_neg overdue, if_neg overdue]
    exact ⟨w, rfl, ⟨known, rfl, rfl⟩, rfl⟩
  rw [if_pos overdue, if_pos overdue]
  dsimp only
  generalize late_ : ({ device with
    alertLevel := .error, alertMessage := noCapabilitiesAlert, alertUpdatedAt := some env.now,
    capabilitiesRequestedAt := none } : Device) = late
  have said : late.alertMessage = noCapabilitiesAlert := by rw [← late_]
  have taken : (alertFields ++ [DeviceField.capabilitiesRequestedAt]).all late.accepts = true := by
    simp [alertFields, Device.accepts, said, alert]
  have saved := (outcome_saveDevice late (alertFields ++ [.capabilitiesRequestedAt]) w).trans (if_pos taken)
  have stage : Mirrored late w (w.apply (.saveDevice late (alertFields ++ [.capabilitiesRequestedAt]))) := by
    rw [← late_]
    exact mirrored_saved known rfl
  have short : varchar 256 (statusRow env late).alertMessage = true := by
    rw [show (statusRow env late).alertMessage = late.alertMessage from rfl, said]
    exact alert
  generalize ("No response within " ++ toString (capabilitiesTimeout device) ++ "s") = message at text ⊢
  have logged := fun u => outcome_addStatusLog short u
  have resolved := fun u => @outcome_resolveRequests env late u .timeout message text
  refine ⟨((w.apply (.saveDevice late (alertFields ++ [.capabilitiesRequestedAt]))).apply
    (.addStatusLog (statusRow env late))).apply
      (.markCommands (pendingOf late.deviceId (.str "request_capabilities")) .timeout message env.now),
      ?_, ?_, rfl⟩
  · rw [outcome_bind_ok saved, outcome_bind_ok (logged _), outcome_bind_ok (resolved _)]
    rfl
  · exact ⟨stage.known, rfl, rfl⟩

theorem mirrored_reconciled {row : Device} (known : w.device? row.deviceId = some row) :
    Mirrored (reconcileAlert env.now { row with lastSeen := some env.now }).1 w (w.apply
      (.saveDevice (reconcileAlert env.now { row with lastSeen := some env.now }).1
        (.lastSeen :: (reconcileAlert env.now { row with lastSeen := some env.now }).2.1))) := by
  rcases reconcileAlert_cases env.now { row with lastSeen := some env.now } with h | h | h <;> rw [h] <;>
    exact mirrored_saved known rfl

end Stages

def alerted (now : Time) (woken : Bool) (row : Device) : Device :=
  let seen := (reconcileAlert now { row with lastSeen := some now }).1
  if woken then seen else timedOut now seen

def clearings (now : Time) (row : Device) : List ChannelEvent :=
  if clearsAlert now row then [.deviceStatus row.deviceId .ok "" row.effectiveName] else []

structure Reached (env : Env) (row : Device) (woken : Bool) (w u : World) (device : Device) : Prop where
  same : ∃ at_, device = (alerted env.now woken row).withRequest at_
  known : u.device? device.deviceId = some device
  readings : u.db.readings = w.db.readings
  broadcasts : u.broadcasts = w.broadcasts ++ clearings env.now row
  published : ∃ sent, u.published = w.published ++ sent ∧
    sent.getLast?.map Publication.payload ≠ some (bareCommand "get_diag")

theorem outcome_reconciled {env : Env} {row : Device} {w : World}
    (announced : clearsAlert env.now row = true → env.channel w.broadcasts.length = true) :
    ∃ v, outcome (when (clearsAlert env.now row)
        (announceCleared env (reconcileAlert env.now { row with lastSeen := some env.now }).1)) w = (.ok (), v) ∧
      v.db.devices = w.db.devices ∧ v.db.readings = w.db.readings ∧ v.published = w.published ∧
      v.broadcasts = w.broadcasts ++ clearings env.now row := by
  unfold clearings
  cases cleared : clearsAlert env.now row with
  | false => exact ⟨w, rfl, rfl, rfl, rfl, by simp⟩
  | true =>
    rw [reconcileAlert_cleared cleared]
    exact ⟨_, outcome_announced rfl (announced cleared), rfl, rfl, rfl, rfl⟩

theorem sensorBody_reaches {env : Env} {deviceType : String} {data : Fields} {row : Device} {created : Bool}
    {w : World} (known : w.device? row.deviceId = some row)
    (announced : clearsAlert env.now row = true → env.channel w.broadcasts.length = true) :
    ∃ u device, Reached env row (created || !row.isOnline env.now) w u device ∧
      after (sensorBody env deviceType data row created) w =
        after (approvedRest env deviceType data device) u := by
  obtain ⟨v, ran, devices, readings, published, broadcasts⟩ := outcome_reconciled announced
  have still : v.device? row.deviceId = some row := by
    unfold World.device? at *
    rw [devices]
    exact known
  have stage := @mirrored_reconciled env v row still
  obtain ⟨accepts, -⟩ := reconcileAlert_accepts env.now { row with lastSeen := some env.now }
  rw [sensorBody_halves]
  unfold clearsAlert at ran
  dsimp only
  generalize woken : (created || !row.isOnline env.now) = awake
  have alerted_ : alerted env.now awake row =
      if awake then (reconcileAlert env.now { row with lastSeen := some env.now }).1
      else timedOut env.now (reconcileAlert env.now { row with lastSeen := some env.now }).1 := rfl
  generalize reconcileAlert env.now { row with lastSeen := some env.now } = reconciled at *
  obtain ⟨d, names, cleared⟩ := reconciled
  dsimp only at *
  have saved : outcome (saveDevice d (.lastSeen :: names)) v =
      (.ok (), v.apply (.saveDevice d (.lastSeen :: names))) := by
    rw [outcome_saveDevice, if_pos accepts]
  have checked := outcome_checkOtaTimeouts env d (v.apply (.saveDevice d (.lastSeen :: names)))
  generalize marked : (v.apply (.saveDevice d (.lastSeen :: names))).apply
    (.markCommands (overdueUpdate env d) .timeout
      ("No confirmation within " ++ toString (otaTimeout d) ++ "s") env.now) = t at checked
  have stage₂ : Mirrored d v t := by
    rw [← marked]
    exact ⟨stage.known, rfl, rfl⟩
  have published₂ : t.published = w.published := by
    rw [← marked]
    exact published
  rw [after_bind_ok ran, after_bind_ok saved]
  unfold savedRest
  rw [after_bind_ok checked]
  cases awake with
  | true =>
    obtain ⟨at_, u, sent, woke, stage₃, more, last⟩ := @mirrored_wakeUp env d t stage₂.known
    refine ⟨u, d.withRequest at_, ⟨⟨at_, by rw [alerted_]; rfl⟩, stage₃.known, ?_, ?_, sent, ?_, last⟩, ?_⟩
    · rw [stage₃.readings, stage₂.readings, readings]
    · rw [stage₃.broadcasts, stage₂.broadcasts, broadcasts]
    · rw [more, published₂]
    · exact after_bind_ok woke
  | false =>
    obtain ⟨u, timed, stage₃, silent⟩ := @mirrored_checkTimeout env d t stage₂.known
    refine ⟨u, timedOut env.now d, ⟨⟨(timedOut env.now d).capabilitiesRequestedAt, by rw [alerted_]; rfl⟩,
      stage₃.known, ?_, ?_, [], ?_, by simp⟩, ?_⟩
    · rw [stage₃.readings, stage₂.readings, readings]
    · rw [stage₃.broadcasts, stage₂.broadcasts, broadcasts]
    · rw [silent, published₂, List.append_nil]
    · exact after_bind_ok timed

theorem alerted_frame (now : Time) (woken : Bool) (row : Device) :
    ∃ level text since asked, alerted now woken row = { row with
      lastSeen := some now, alertLevel := level, alertMessage := text, alertUpdatedAt := since,
      capabilitiesRequestedAt := asked } := by
  unfold alerted timedOut
  rcases reconcileAlert_cases now { row with lastSeen := some now } with h | h | h <;> rw [h] <;>
    dsimp only [Device.clearAlert] <;> split_ifs <;> exact ⟨_, _, _, _, rfl⟩

theorem Reached.frame {env : Env} {row device : Device} {woken : Bool} {w u : World}
    (reached : Reached env row woken w u device) :
    ∃ level text since asked, device = { row with
      lastSeen := some env.now, alertLevel := level, alertMessage := text, alertUpdatedAt := since,
      capabilitiesRequestedAt := asked } := by
  obtain ⟨at_, same⟩ := reached.same
  obtain ⟨level, text, since, asked, framed⟩ := alerted_frame env.now woken row
  refine ⟨level, text, since, at_, ?_⟩
  rw [same, framed]
  rfl

def nudged (now : Time) (device : Device) : Device :=
  if wantsDiag device now then { device with diagRequestedAt := some now } else device

/-- The instance after the battery level of the batch. -/
def tracked (device : Device) : Option PyFloat → Device
  | none => device
  | some stored =>
    if endsLowBattery device stored then ({ device with batteryPercent := some stored } : Device).clearAlert
    else { device with batteryPercent := some stored }

def resolutions (env : Env) (device : Device) (battery : Option PyFloat) (sent : Nat) : List ChannelEvent :=
  if battery.any (endsLowBattery device) && env.channel sent then
    [.deviceStatus device.deviceId .ok "" device.effectiveName]
  else []

section Approved
variable {env : Env} {device : Device} {w : World}

theorem mirrored_maybeRequestDiag (known : w.device? device.deviceId = some device) :
    ∃ v asked, outcome (maybeRequestDiag env device) w = (.ok (nudged env.now device), v) ∧
      Mirrored (nudged env.now device) w v ∧ v.published = w.published ++ asked ∧
      asked.map Publication.content =
        if wantsDiag device env.now then [(commandTopic device, bareCommand "get_diag")] else [] := by
  unfold maybeRequestDiag nudged
  by_cases asks : wantsDiag device env.now = true
  swap
  · rw [if_neg asks, if_neg asks, if_neg asks]
    exact ⟨w, [], rfl, ⟨known, rfl, rfl⟩, by simp, rfl⟩
  rw [if_pos asks, if_pos asks, if_pos asks]
  have sent : outcome (requestDiag env device) w = _ := outcome_requestBare env device "get_diag" w
  generalize asked : (⟨commandTopic device, bareCommand "get_diag", false, 1, env.broker w.published.length⟩ :
    Publication) = request at sent
  have content : request.content = (commandTopic device, bareCommand "get_diag") := by
    rw [← asked]
    rfl
  have stage : Mirrored { device with diagRequestedAt := some env.now } (w.apply (.publish request)) _ :=
    @mirrored_saved _ _ [.diagRequestedAt] _ known rfl
  refine ⟨_, [request], ?_, ⟨stage.known, rfl, rfl⟩, rfl, by rw [List.map_singleton, content]⟩
  rw [outcome_bind_ok sent]
  rfl

theorem mirrored_batteryPercent (known : w.device? device.deviceId = some device) (stored : PyFloat) :
    ∃ v, outcome (when (batteryChanged stored device)
        (saveDevice { device with batteryPercent := some stored } [.batteryPercent])) w = (.ok (), v) ∧
      Mirrored { device with batteryPercent := some stored } w v ∧ v.published = w.published := by
  have same := tracked_battery device stored
  cases changed : batteryChanged stored device with
  | false =>
    rw [changed, if_neg Bool.false_ne_true] at same
    rw [← same]
    exact ⟨w, rfl, ⟨known, rfl, rfl⟩, rfl⟩
  | true => exact ⟨_, rfl, @mirrored_saved _ _ [.batteryPercent] _ known rfl, rfl⟩

theorem ends_trackBattery (known : w.device? device.deviceId = some device) (stored : PyFloat) :
    let v := after (trackBattery env device stored) w
    v.device? device.deviceId = some (tracked device (some stored)) ∧ v.db.readings = w.db.readings ∧
      v.published = w.published ∧
      v.broadcasts = w.broadcasts ++ resolutions env device (some stored) w.broadcasts.length := by
  obtain ⟨v, saved, stage, published⟩ := mirrored_batteryPercent known stored
  unfold trackBattery tracked resolutions endsLowBattery
  dsimp only
  rw [tracked_battery, after_bind_ok saved, Option.any_some]
  generalize battery : ({ device with batteryPercent := some stored } : Device) = level at stage ⊢
  have name : level.deviceId = device.deviceId := by rw [← battery]
  have shown : level.effectiveName = device.effectiveName := by
    rw [← battery]
    rfl
  have key := stage.known
  rw [name] at key
  by_cases resolved : lowBatteryResolved level = true
  swap
  · rw [when, if_neg resolved, if_neg resolved, Bool.eq_false_iff.mpr resolved]
    exact ⟨key, stage.readings, published, by simpa using stage.broadcasts⟩
  rw [when, if_pos resolved, if_pos resolved, resolved, Bool.true_and]
  have empty : varchar 256 "" = true := by decide
  have cleared : Mirrored level.clearAlert v _ :=
    @mirrored_saved level.clearAlert level alertFields v stage.known rfl
  have taken : alertFields.all level.clearAlert.accepts = true := by
    simp [alertFields, Device.accepts, Device.clearAlert, empty]
  have ran := (outcome_saveDevice level.clearAlert alertFields v).trans (if_pos taken)
  have logged := fun u => @outcome_addStatusLog (statusRow env level.clearAlert) empty u
  have row := cleared.known
  rw [show level.clearAlert.deviceId = device.deviceId from name] at row
  rw [after_bind_ok ran, after_bind_ok (logged _), after, outcome_groupSend]
  have count : ((v.apply (.saveDevice level.clearAlert alertFields)).apply
      (.addStatusLog (statusRow env level.clearAlert))).broadcasts = w.broadcasts := stage.broadcasts
  have event : statusEvent level.clearAlert = .deviceStatus device.deviceId .ok "" device.effectiveName := by
    rw [← name, ← shown]
    rfl
  rw [count, event]
  cases env.channel w.broadcasts.length with
  | true =>
    exact ⟨row, stage.readings, published, congrArg (· ++ _) stage.broadcasts⟩
  | false => exact ⟨row, stage.readings, published, by simpa using count⟩

theorem ends_storeReadings {deviceType : String} {data : Fields}
    (known : w.device? device.deviceId = some device) :
    let v := after (storeReadings env device deviceType data) w
    let accepted := acceptedReadings env device.deviceId data
    ∃ told, told <+: accepted.map (readingEvent device deviceType) ∧ v.published = w.published ∧
      if collects env device.deviceId data w.broadcasts.length then
        told = accepted.map (readingEvent device deviceType) ∧ v.db.readings = w.db.readings ++ accepted ∧
        v.device? device.deviceId = some (tracked device (storedBattery accepted)) ∧
        v.broadcasts = w.broadcasts ++ told ++
          resolutions env device (storedBattery accepted) (w.broadcasts ++ told).length
      else v.db.readings = w.db.readings ∧ v.device? device.deviceId = some device ∧
        v.broadcasts = w.broadcasts ++ told := by
  obtain ⟨told, prefix_, run⟩ := @outcome_collect env device deviceType data w
  refine ⟨told, prefix_, ?_⟩
  unfold storeReadings
  by_cases through : collects env device.deviceId data w.broadcasts.length = true
  swap
  · rw [if_neg through] at run ⊢
    obtain ⟨e, stopped⟩ := run
    rw [after_bind_error stopped]
    exact ⟨rfl, rfl, known, rfl⟩
  rw [if_pos through] at run ⊢
  obtain ⟨all, collected⟩ := run
  rw [after_bind_ok collected]
  refine and_left_comm.mpr ⟨all, ?_⟩
  clear all collected prefix_
  generalize acceptedReadings env device.deviceId data = accepted
  cases accepted with
  | nil => exact ⟨rfl, (List.append_nil _).symm, known, (List.append_nil _).symm⟩
  | cons first others =>
    rw [List.isEmpty_cons, Bool.not_false, when, if_pos rfl]
    generalize first :: others = accepted
    rw [after_bind_ok (outcome_emit _ _)]
    generalize batch : ({ w with broadcasts := w.broadcasts ++ told } : World).apply (.addReadings accepted) = u
    have key : u.device? device.deviceId = some device := by
      rw [← batch]
      exact known
    have readings : u.db.readings = w.db.readings ++ accepted := by
      rw [← batch]
      rfl
    have published : u.published = w.published := by
      rw [← batch]
      rfl
    have broadcasts : u.broadcasts = w.broadcasts ++ told := by
      rw [← batch]
      rfl
    cases storedBattery accepted with
    | none => exact ⟨published, readings, key, by simpa [resolutions] using broadcasts⟩
    | some stored =>
      obtain ⟨row, stored_, silent, told_⟩ := @ends_trackBattery env device u key stored
      refine ⟨silent.trans published, stored_.trans readings, row, ?_⟩
      rw [told_, broadcasts]

end Approved

def proceeds (w : World) (env : Env) (row : Device) : Bool :=
  !clearsAlert env.now row || env.channel w.broadcasts.length

def storesReadings (w : World) (env : Env) (row : Device) (data : Fields) : Bool :=
  proceeds w env row && row.isApproved &&
    collects env row.deviceId data (w.broadcasts.length + (clearings env.now row).length)

def polls (now : Time) (woken : Bool) (row : Device) : Bool :=
  row.isApproved && wantsDiag (alerted now woken row) now

def ended (env : Env) (woken stored : Bool) (data : Fields) (row : Device) : Device :=
  let asked := if row.isApproved then nudged env.now (alerted env.now woken row) else alerted env.now woken row
  if stored then tracked asked (sentBattery env row.deviceId data) else asked

section Withs
variable {device : Device} {at_ : Option Time} {now : Time}

theorem nudged_withRequest : nudged now (device.withRequest at_) = (nudged now device).withRequest at_ := by
  unfold nudged
  rw [show wantsDiag (device.withRequest at_) now = wantsDiag device now from rfl]
  split <;> rfl

theorem tracked_withRequest (battery : Option PyFloat) :
    tracked (device.withRequest at_) battery = (tracked device battery).withRequest at_ := by
  cases battery with
  | none => rfl
  | some stored =>
    have same : endsLowBattery (device.withRequest at_) stored = endsLowBattery device stored := rfl
    dsimp only [tracked]
    rw [same]
    split <;> rfl

theorem endsLowBattery_nudged (stored : PyFloat) :
    endsLowBattery (nudged now device) stored = endsLowBattery device stored := by
  unfold nudged
  split <;> rfl

theorem deviceId_nudged : (nudged now device).deviceId = device.deviceId := by
  unfold nudged
  split <;> rfl

theorem effectiveName_nudged : (nudged now device).effectiveName = device.effectiveName := by
  unfold nudged
  split <;> rfl

theorem resolutions_nudged {env : Env} (battery : Option PyFloat) (sent : Nat) :
    resolutions env (nudged now device) battery sent = resolutions env device battery sent := by
  unfold resolutions
  rw [deviceId_nudged, effectiveName_nudged]
  cases battery with
  | none => rfl
  | some stored => rw [Option.any_some, Option.any_some, endsLowBattery_nudged]

end Withs

theorem ended_approved {env : Env} {woken stored : Bool} {data : Fields} {row : Device}
    (approved : row.isApproved = true) (at_ : Option Time) :
    (ended env woken stored data row).withRequest at_ =
      if stored then tracked (nudged env.now ((alerted env.now woken row).withRequest at_))
        (sentBattery env row.deviceId data)
      else nudged env.now ((alerted env.now woken row).withRequest at_) := by
  unfold ended
  rw [approved, nudged_withRequest, tracked_withRequest]
  cases stored <;> rfl

structure Ended (env : Env) (deviceType : String) (data : Fields) (row : Device) (woken stored : Bool)
    (w v : World) : Prop where
  readings : v.db.readings = w.db.readings ++ if stored then acceptedReadings env row.deviceId data else []
  device : ∃ at_, v.device? row.deviceId = some ((ended env woken stored data row).withRequest at_)
  broadcasts : ∃ told, told <+: (acceptedReadings env row.deviceId data).map (readingEvent row deviceType) ∧
    (row.isApproved = false → told = []) ∧
    (stored = true → told = (acceptedReadings env row.deviceId data).map (readingEvent row deviceType)) ∧
    v.broadcasts = w.broadcasts ++ clearings env.now row ++ told ++
      if stored then resolutions env (alerted env.now woken row) (sentBattery env row.deviceId data)
        (w.broadcasts ++ clearings env.now row ++ told).length else []
  published : ∃ sent, v.published = w.published ++ sent ∧
    (sent.getLast?.map Publication.payload = some (bareCommand "get_diag") ↔ polls env.now woken row = true)

theorem last_asked {sent asked : List Publication} {asks : Bool} {topic : String}
    (last : sent.getLast?.map Publication.payload ≠ some (bareCommand "get_diag"))
    (contents : asked.map Publication.content = if asks then [(topic, bareCommand "get_diag")] else []) :
    (sent ++ asked).getLast?.map Publication.payload = some (bareCommand "get_diag") ↔ asks = true := by
  cases asks with
  | true =>
    obtain ⟨p, rfl, content⟩ := List.map_eq_singleton_iff.mp contents
    have payload : p.payload = bareCommand "get_diag" := congrArg Prod.snd content
    rw [List.getLast?_concat, Option.map_some, payload]
    exact iff_of_true rfl rfl
  | false =>
    rw [List.map_eq_nil_iff.mp contents, List.append_nil]
    exact iff_of_false last Bool.false_ne_true

section Reached
variable {env : Env} {deviceType : String} {data : Fields} {row device : Device} {woken : Bool} {w u : World}
  (reached : Reached env row woken w u device)
include reached

theorem Reached.polls_eq : polls env.now woken row = (row.isApproved && wantsDiag device env.now) := by
  obtain ⟨at_, same⟩ := reached.same
  rw [same]
  rfl

theorem Reached.ended_unapproved (unapproved : row.isApproved = false) :
    Ended env deviceType data row woken false w u := by
  obtain ⟨at_, same⟩ := reached.same
  obtain ⟨level, text, since, asked, framed⟩ := reached.frame
  obtain ⟨sent, published, last⟩ := reached.published
  have id : device.deviceId = row.deviceId := by rw [framed]
  have key := reached.known
  rw [id] at key
  refine ⟨by simpa using reached.readings, ⟨at_, ?_⟩,
    ⟨[], List.nil_prefix, fun _ => rfl, (fun stores => by cases stores), ?_⟩, sent, published, ?_⟩
  · rw [key, ended, unapproved]
    exact congrArg some same
  · simpa using reached.broadcasts
  · rw [reached.polls_eq, unapproved]
    simp [last]

theorem Reached.ended_approved (approved : row.isApproved = true) (goes : proceeds w env row = true) :
    Ended env deviceType data row woken (storesReadings w env row data) w
      (after (do
        let device ← maybeRequestDiag env device
        storeReadings env device deviceType data) u) := by
  obtain ⟨at_, same⟩ := reached.same
  obtain ⟨level, text, since, capabilities, framed⟩ := reached.frame
  obtain ⟨sent, published, last⟩ := reached.published
  obtain ⟨v, asked, ran, stage, more, contents⟩ := @mirrored_maybeRequestDiag env device u reached.known
  obtain ⟨told, among, silent, batch⟩ :=
    @ends_storeReadings env (nudged env.now device) v deviceType data stage.known
  have id : (nudged env.now device).deviceId = row.deviceId := by rw [deviceId_nudged, framed]
  have shown : readingEvent (nudged env.now device) deviceType = readingEvent row deviceType := by
    funext r
    unfold readingEvent
    rw [id, effectiveName_nudged, framed]
    rfl
  have quiet : resolutions env (nudged env.now device) = resolutions env (alerted env.now woken row) := by
    funext battery n
    rw [resolutions_nudged, same]
    rfl
  have before : v.broadcasts = w.broadcasts ++ clearings env.now row := stage.broadcasts.trans reached.broadcasts
  have readings : v.db.readings = w.db.readings := stage.readings.trans reached.readings
  have stored : storesReadings w env row data = collects env row.deviceId data v.broadcasts.length := by
    rw [storesReadings, goes, approved, before, List.length_append]
    rfl
  have sentAll : ∀ x : World, x.published = v.published → x.published = w.published ++ (sent ++ asked) := by
    intro x same_
    rw [same_, more, published, List.append_assoc]
  have polled : (sent ++ asked).getLast?.map Publication.payload = some (bareCommand "get_diag") ↔
      polls env.now woken row = true := by
    rw [reached.polls_eq, approved]
    exact last_asked last contents
  rw [shown, quiet, id] at batch
  rw [shown, id] at among
  rw [after_bind_ok ran, stored]
  have denied : row.isApproved = false → told = [] := fun unapproved => by simp [approved] at unapproved
  cases through : collects env row.deviceId data v.broadcasts.length with
  | true =>
    rw [through, if_pos rfl] at batch
    obtain ⟨whole, added, found, announced⟩ := batch
    refine ⟨?_, ⟨at_, ?_⟩, ⟨told, among, denied, fun _ => whole, ?_⟩, sent ++ asked, sentAll _ silent, polled⟩
    · rw [added, readings, if_pos rfl]
    · rw [found, SensorServer.ended_approved approved, ← same]
      rfl
    · rw [announced, if_pos rfl, before]
      rfl
  | false =>
    rw [through, if_neg Bool.false_ne_true] at batch
    obtain ⟨added, found, announced⟩ := batch
    refine ⟨?_, ⟨at_, ?_⟩, ⟨told, among, denied, (fun stores => by cases stores), ?_⟩, sent ++ asked,
      sentAll _ silent, polled⟩
    · rw [added, readings, if_neg Bool.false_ne_true, List.append_nil]
    · rw [found, SensorServer.ended_approved approved, ← same]
      rfl
    · rw [announced, if_neg Bool.false_ne_true, before, List.append_nil]

end Reached

theorem sensorBody_ends {env : Env} {deviceType : String} {data : Fields} {row : Device} {created : Bool}
    {w : World} (known : w.device? row.deviceId = some row) (goes : proceeds w env row = true) :
    Ended env deviceType data row (created || !row.isOnline env.now) (storesReadings w env row data) w
      (after (sensorBody env deviceType data row created) w) := by
  have announced : clearsAlert env.now row = true → env.channel w.broadcasts.length = true := by
    intro cleared
    simpa [proceeds, cleared] using goes
  obtain ⟨u, device, reached, rest⟩ := @sensorBody_reaches env deviceType data row created w known announced
  obtain ⟨level, text, since, asked, framed⟩ := reached.frame
  have approval : device.isApproved = row.isApproved := by rw [framed]
  rw [rest, approvedRest, approval]
  cases approved : row.isApproved with
  | true => exact reached.ended_approved approved goes
  | false =>
    have stored : storesReadings w env row data = false := by simp [storesReadings, approved]
    rw [stored]
    exact reached.ended_unapproved approved

section Message
variable {w : World} {d : Delivery} {data : Fields} {row : Device} (sensors : d.kind = .sensors)
  (object : d.payload.object? = some data)
include sensors object

theorem sensors_ends (known : w.device? d.deviceId = some row) (goes : proceeds w d.env row = true) :
    Ended d.env d.deviceType data row (!row.isOnline d.env.now) (storesReadings w d.env row data) w
      (deliver w d) := by
  have named : row.deviceId = d.deviceId := Table.key_get? known
  rw [deliver_sensors sensors object known]
  exact @sensorBody_ends d.env d.deviceType data row false w (named ▸ known) goes

theorem sensors_stopped (known : w.device? d.deviceId = some row) (stops : proceeds w d.env row = false) :
    deliver w d = w.apply (.addStatusLog ⟨d.env.now, row.deviceId, .ok, ""⟩) := by
  unfold proceeds at stops
  simp only [Bool.or_eq_false_iff, Bool.not_eq_false'] at stops
  rw [deliver_sensors sensors object known]
  exact sensorBody_stranded stops.1 stops.2

theorem sensors_created (unknown : w.device? d.deviceId = none) :
    deliver w d = w ∨ ∃ fresh : Device, fresh.isApproved = false ∧ fresh.deviceId = d.deviceId ∧
      fresh.alert = (.ok, "") ∧ fresh.diagRequestedAt = none ∧
      Ended d.env d.deviceType data fresh true false (w.apply (.createDevice fresh)) (deliver w d) := by
  generalize new :
    ({ deviceId := d.deviceId, deviceType := d.deviceType, createdAt := d.env.now } : Device) = fresh
  have named : fresh.deviceId = d.deviceId := by rw [← new]
  rw [deliver_new unknown sensors object new.symm]
  by_cases insertable : fresh.insertable = true
  swap
  · have refused : outcome (createDevice fresh) w = (.error .dataError, w) := by
      unfold createDevice
      rw [outcome_bind, outcome_read, named, unknown]
      dsimp only
      rw [if_neg insertable]
      rfl
    rw [after_bind_error refused]
    exact .inl rfl
  have created := outcome_createDevice_ok.mpr ⟨named ▸ unknown, insertable, rfl⟩
  have key : (w.apply (.createDevice fresh)).device? fresh.deviceId = some fresh :=
    Table.get?_insert_new (named ▸ unknown)
  have goes : proceeds (w.apply (.createDevice fresh)) d.env fresh = true := by
    rw [← new]
    rfl
  have unapproved : storesReadings (w.apply (.createDevice fresh)) d.env fresh data = false := by
    have drafted : fresh.isApproved = false := by rw [← new]
    simp [storesReadings, drafted]
  have ends := @sensorBody_ends d.env d.deviceType data fresh true _ key goes
  rw [unapproved] at ends
  rw [after_bind_ok created]
  refine .inr ⟨fresh, ?_, named, ?_, ?_, ends⟩ <;> rw [← new]
  rfl

theorem readings_sensors (known : w.device? d.deviceId = some row) :
    (deliver w d).db.readings = w.db.readings ++
      if storesReadings w d.env row data then acceptedReadings d.env d.deviceId data else [] := by
  have named : row.deviceId = d.deviceId := Table.key_get? known
  cases goes : proceeds w d.env row with
  | true => exact named ▸ (sensors_ends sensors object known goes).readings
  | false =>
    have stored : storesReadings w d.env row data = false := by simp [storesReadings, goes]
    rw [sensors_stopped sensors object known goes, stored]
    exact (List.append_nil _).symm

theorem quiet_unapproved (unapproved : ∀ row, w.device? d.deviceId = some row → row.isApproved = false) :
    Quiet w (deliver w d) := by
  have cleared : ∀ now row, (clearings now row).filterMap ChannelEvent.reading? = [] := by
    intro now row
    unfold clearings
    split <;> rfl
  have ends : ∀ {row : Device} {woken : Bool} {u : World}, row.isApproved = false → Quiet w u →
      Ended d.env d.deviceType data row woken false u (deliver w d) → Quiet w (deliver w d) := by
    intro row woken u drafted first ended_
    obtain ⟨told, -, none_, -, broadcasts⟩ := ended_.broadcasts
    rw [none_ drafted] at broadcasts
    refine quiet_closed.trans first ⟨by simpa using ended_.readings, clearings d.env.now row, ?_, cleared _ _⟩
    simpa using broadcasts
  cases known : w.device? d.deviceId with
  | none =>
    rcases sensors_created sensors object known with same | ⟨fresh, drafted, -, -, -, ended_⟩
    · rw [same]
      exact quiet_closed.refl w
    · exact ends (u := w.apply (.createDevice fresh)) drafted (.of_same rfl rfl) ended_
  | some row =>
    have drafted := unapproved row known
    cases goes : proceeds w d.env row with
    | true =>
      have stored : storesReadings w d.env row data = false := by simp [storesReadings, drafted]
      exact ends drafted (quiet_closed.refl w) (stored ▸ sensors_ends sensors object known goes)
    | false =>
      rw [sensors_stopped sensors object known goes]
      exact .of_same rfl rfl

end Message

end SensorServer
