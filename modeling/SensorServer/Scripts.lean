import SensorServer.Lib.Run
import SensorServer.Columns
import SensorServer.Failure
import SensorServer.Pages

/-! What the units and parameter names that devices send can do in the scripts of the
device pages, over runs of messages and approvals. -/
namespace SensorServer
open Program JsonText

inductive Arrival where
  | message (d : Delivery)
  | approve (request : Request) (deviceId : String)

def arrive (w : World) : Arrival → World
  | .message d => deliver w d
  | .approve request deviceId => after (deviceApproveView request deviceId) w

def cleanParam : Json → Bool
  | .obj p => match Dict.get? p "n", Dict.get? p "t" with
    | some (.str name), some (.str type) =>
      !(["number", "string", "boolean"].contains type) || !closesScript name
    | _, _ => true
  | _ => true

def cleanParams (table : Fields) : Bool :=
  table.all fun kv => match kv.2 with
    | .arr params => !safeIdentifierRe kv.1 || params.all cleanParam
    | _ => true

def cleanUnits (metrics : Fields) : Bool :=
  metrics.all fun kv => match kv.2 with
    | .str unit => !safeIdentifierRe kv.1 || decide (16 < pyLen unit) || !closesScript unit
    | _ => true

def cleanObject (data : Fields) (key : String) (clean : Fields → Bool) : Bool :=
  match Dict.get? data key with
  | some (.obj fields) => clean fields
  | _ => true

def Delivery.clean (d : Delivery) (approved : Bool) (data : Fields) : Bool :=
  match d.kind with
  | .capabilities => cleanObject data "cmds" cleanParams && (!approved || cleanObject data "metrics" cleanUnits)
  | .commands => cleanObject data "command_params" cleanParams
  | _ => true

/-- Whether the handler saves the row. -/
def Delivery.kept (w : World) (d : Delivery) : Bool :=
  accepted w d || (decide (d.kind = .capabilities) &&
    (reported w d).any (fun saved => saved.2.all saved.1.accepts))

def approval (request : Request) : Option Bool :=
  if request.user.may .admin && request.isPost then
    let action := QueryDict.get request.post "action" ""
    if action = "approve" then some true else if action = "revoke" then some false else none
  else none

/-- No message that is kept brings a parameter name that closes a script, nor a unit of an
approved device, and no device is approved that has sent such a unit. -/
def Arrival.harmless (w : World) : Arrival → Bool
  | .message d => match d.payload.object?, w.device? d.deviceId with
    | some data, some row => !d.kept w || d.clean row.isApproved data
    | _, _ => true
  | .approve request deviceId => match w.device? deviceId with
    | some row => !decide (approval request = some true) ||
      (row.capabilities.units.getD []).all (fun kv => !closesScript kv.2)
    | none => true

theorem decodeParams_named {table : Fields} {kv : String × List Param} (decoded : kv ∈ decodeParams table) :
    safeIdentifierRe kv.1 = true ∧ ∀ p ∈ kv.2, p.type ∈ ["number", "string", "boolean"] := by
  obtain ⟨entry, -, taken⟩ := List.mem_filterMap.mp decoded
  obtain ⟨key, value⟩ := entry
  cases value with
  | arr params =>
    dsimp only at taken
    split at taken
    · next named =>
      cases taken
      refine ⟨named, fun p listed => ?_⟩
      obtain ⟨sent, -, valid⟩ := List.mem_filterMap.mp listed
      unfold validParam at valid
      split at valid
      · split at valid
        · split at valid
          · next typed =>
            cases valid
            simpa [or_assoc] using typed
          · cases valid
        · cases valid
      · cases valid
    · cases taken
  | _ => cases taken

theorem metricUnits_named {metrics : Fields} {kv : String × String} (listed : kv ∈ metricUnits metrics) :
    safeIdentifierRe kv.1 = true := by
  obtain ⟨entry, -, taken⟩ := List.mem_filterMap.mp listed
  obtain ⟨key, value⟩ := entry
  cases value with
  | str unit =>
    dsimp only at taken
    split at taken
    · next accepts =>
      cases taken
      simp only [Bool.and_eq_true] at accepts
      exact accepts.1.1
    · cases taken
  | _ => cases taken

theorem Device.Named.of_capabilities {row : Device} (named : row.Named) (c : Capabilities)
    (metrics : c.metrics = row.capabilities.metrics ∨ ∃ sent, c.metrics = some (metricNames sent))
    (units : c.units = row.capabilities.units ∨ ∃ sent, c.units = some (metricUnits sent))
    (params : c.commandParams = row.capabilities.commandParams ∨ c.commandParams = some [] ∨
      ∃ sent, c.commandParams = some (decodeParams sent)) {saved : Device} (same : saved.capabilities = c) :
    saved.Named := by
  refine ⟨fun m member => ?_, fun kv member => ?_, fun kv member => ?_⟩
  · rw [same] at member
    rcases metrics with old | ⟨sent, new⟩
    · exact named.metrics m (old ▸ member)
    · rw [new] at member
      exact (List.mem_filter.mp member).2
  · rw [same] at member
    rcases units with old | ⟨sent, new⟩
    · exact named.units kv (old ▸ member)
    · rw [new] at member
      exact metricUnits_named member
  · rw [same] at member
    rcases params with old | none_ | ⟨sent, new⟩
    · exact named.params kv (old ▸ member)
    · rw [none_] at member
      cases member
    · rw [new] at member
      exact decodeParams_named member

def GainsNamed (w v : World) : Prop :=
  ∀ r ∈ v.db.readings, r ∈ w.db.readings ∨ safeIdentifierRe r.metric = true

theorem gainsNamed_closed : Closed GainsNamed where
  refl _ := fun _ member => .inl member
  trans := by
    intro a b c first rest r member
    rcases rest r member with earlier | named
    · exact first r earlier
    · exact .inr named

theorem Quiet.gainsNamed {w v : World} (still : Quiet w v) : GainsNamed w v :=
  fun _ member => .inl (still.readings ▸ member)

theorem resolveAlias_named {raw : String} (named : safeIdentifierRe raw = true) :
    safeIdentifierRe (resolveAlias raw) = true := by
  unfold resolveAlias
  cases found : metricAliases.lookup raw with
  | none => exact named
  | some metric =>
    have aliases : ∀ e ∈ metricAliases, safeIdentifierRe e.2 = true := by decide
    exact aliases (raw, metric) (mem_of_lookup found)

theorem acceptedReadings_named {env : Env} {deviceId : String} {data : Fields} :
    ∀ r ∈ acceptedReadings env deviceId data, safeIdentifierRe r.metric = true := by
  induction data with
  | nil => exact fun r member => absurd member List.not_mem_nil
  | cons entry rest ih =>
    obtain ⟨raw, value⟩ := entry
    unfold acceptedReadings
    split
    · next taken value =>
      unfold metricName at taken
      rw [Bool.and_eq_true] at taken
      intro r member
      rcases List.mem_cons.mp member with rfl | later
      · exact resolveAlias_named taken.2
      · exact ih r later
    · exact ih

theorem gainsNamed_storeReadings {env : Env} {device : Device} {deviceType : String} {data : Fields} :
    Upholds GainsNamed (storeReadings env device deviceType data) := by
  have closed := gainsNamed_closed
  have collects : Upholds GainsNamed (collectReadings env device deviceType data) := by
    intro w r member
    rw [(outcome_collectReadings data w).1] at member
    exact .inl member
  refine Upholds.bind_returning closed collects (returns_collectReadings data) ?_
  rintro _ rfl
  refine Upholds.when closed (fun _ => Upholds.bind closed (upholds_emit (fun w r member => ?_)) (fun _ => ?_))
  · rcases List.mem_append.mp member with old | new
    · exact .inl old
    · exact .inr (acceptedReadings_named r new)
  · split
    · exact Upholds.pure closed _
    · exact Upholds.mono (fun _ _ => Quiet.gainsNamed) quiet_trackBattery

theorem gainsNamed_sensorBody {env : Env} {device : Device} {deviceType : String} {data : Fields}
    {created : Bool} :
    Upholds GainsNamed (sensorBody env deviceType data device created) := by
  have closed := gainsNamed_closed
  have quiet : ∀ {α : Type} {m : Act α}, Upholds Quiet m → Upholds GainsNamed m :=
    fun valid => Upholds.mono (fun _ _ => Quiet.gainsNamed) valid
  rw [sensorBody_halves]
  refine Upholds.bind closed (quiet (Upholds.when quiet_closed (fun _ => quiet_announceCleared))) (fun _ =>
    Upholds.bind closed (quiet (serviced_quiet.saveDevice trivial)) (fun _ =>
    Upholds.bind closed (quiet (serviced_quiet.checkOtaTimeouts _ _)) (fun _ =>
    Upholds.bind closed (quiet ?_) (fun _ => Upholds.when closed (fun _ => Upholds.bind closed (quiet
      (upholds_maybeRequestDiag serviced_quiet.toIssued trivial trivial)) (fun _ => gainsNamed_storeReadings))))))
  split
  · exact quiet_wakeUp
  · exact quiet_checkCapabilitiesTimeout

theorem gainsNamed_deliver (w : World) (d : Delivery) : GainsNamed w (deliver w d) := by
  by_cases kind : d.kind = .sensors
  · unfold deliver handleMessage
    rw [kind]
    exact upholds_handleSensorMessage_body gainsNamed_closed (fun _ _ member => .inl member)
      (fun _ _ _ _ => gainsNamed_sensorBody) w
  · exact (quiet_deliver kind).gainsNamed

/-- What the message makes of the capabilities it finds. -/
def Delivery.capabilities (d : Delivery) (data : Fields) (c : Capabilities) : Capabilities :=
  match d.kind with
  | .capabilities => applyCmds data (applyMetrics data c)
  | .commands => { c with commands := some (commandNames data), commandParams := some (commandTable data) }
  | _ => c

theorem capabilities_applyCapabilities {known : String → Bool} {data : Fields} {device : Device} :
    (applyCapabilities known data device).capabilities =
      applyCmds data (applyMetrics data device.capabilities) := by
  unfold applyCapabilities
  cases hadTimeoutAlert device <;> rfl

theorem saveReport_rows {w v : World} {saved row : Device} {fields : List DeviceField} {id : String}
    (left : v.db.devices = (saveReport w (some (saved, fields))).db.devices) (known : w.device? id = some row)
    (own : saved.deviceId = id) (writes : .capabilities ∈ fields) (spares : .isApproved ∉ fields) :
    (∀ other, other ≠ id → v.device? other = w.device? other) ∧ ∃ new, v.device? id = some new ∧
      new.isApproved = row.isApproved ∧
      new.capabilities = if fields.all saved.accepts then saved.capabilities else row.capabilities := by
  have same : ∀ other, v.device? other = (saveReport w (some (saved, fields))).device? other := by
    intro other
    unfold World.device?
    rw [left]
  rw [saveReport_some] at same
  by_cases taken : fields.all saved.accepts = true
  · simp only [taken, if_true, device?_saveDevice] at same ⊢
    constructor
    · intro other apart
      rw [same]
      cases found : w.device? other with
      | none => rfl
      | some r =>
        have key := Table.key_get? found
        rw [Option.map_some, if_neg (fun equal => apart (by rw [← key, equal, own]))]
    · refine ⟨_, by rw [same, known, Option.map_some, if_pos ((Table.key_get? known).trans own.symm)], ?_, ?_⟩
      · rw [Device.isApproved_copyFields, if_neg spares]
      · rw [Device.capabilities_copyFields, if_pos writes]
  · simp only [taken, Bool.false_eq_true, if_false] at same ⊢
    exact ⟨fun other _ => same other, row, (same id).trans known, rfl, rfl⟩

section Known
variable {w : World} {d : Delivery} {data : Fields} {row : Device} (object : d.payload.object? = some data)
  (known : w.device? d.deviceId = some row)
include object known

theorem deliver_row (kind : d.kind = .capabilities ∨ d.kind = .commands) :
    (∀ other, other ≠ d.deviceId → (deliver w d).device? other = w.device? other) ∧
      ∃ new, (deliver w d).device? d.deviceId = some new ∧ new.isApproved = row.isApproved ∧
        new.capabilities = if d.kept w then d.capabilities data row.capabilities else row.capabilities := by
  rcases kind with kind | kind
  · have left := deliver_capabilities (w := w) kind
    unfold KeepsDevices at left
    have kept : d.kept w = capabilitiesFields.all
        (applyCapabilities (fun code => (w.db.hardwareCodes.get? code).isSome) data row).accepts := by
      simp [Delivery.kept, accepted, report, reported, heard, object, known, kind]
    simp only [reported, object, known] at left
    rw [kept]
    have rows := saveReport_rows left known (deviceId_applyCapabilities.trans (Table.key_get? known)) (by decide)
      (by decide)
    rw [capabilities_applyCapabilities] at rows
    simp only [Delivery.capabilities, kind]
    exact rows
  · have left := (deliver_report (w := w) (d := d) (by rw [kind]; rfl)).devices
    simp only [report, object, known, heard, kind] at left
    have own : row.deviceId = d.deviceId := Table.key_get? known
    have rows := saveReport_rows left known own (by decide) (by decide)
    simp only [Delivery.kept, accepted, report, object, known, heard, kind, Delivery.capabilities]
    simpa using rows

end Known

theorem after_approve (w : World) (request : Request) (id : String) :
    after (deviceApproveView request id) w = match w.device? id, approval request with
      | some row, some approved => w.apply (.saveDevice { row with isApproved := approved } [.isApproved])
      | _, _ => w := by
  unfold deviceApproveView approval
  rw [roleRequired_eq]
  cases request.user.may .admin with
  | false =>
    dsimp only [Bool.false_and]
    cases w.device? id <;> rfl
  | true =>
    dsimp only [Bool.true_and]
    unfold getDeviceOr404
    rw [if_pos rfl, after_read_bind]
    cases w.device? id with
    | none => rfl
    | some row =>
      dsimp only
      unfold postOnly
      cases request.isPost with
      | false => rfl
      | true =>
        generalize QueryDict.get request.post "action" "" = action
        by_cases approves : action = "approve"
        · subst approves
          rfl
        · by_cases revokes : action = "revoke"
          · subst revokes
            rfl
          · simp [approves, revokes, Program.when]

theorem all_validParam (params : List Json) :
    (params.filterMap validParam).all (fun p => !closesScript p.name) = params.all cleanParam := by
  rw [List.all_filterMap]
  congr 1
  funext p
  unfold validParam cleanParam
  cases p with
  | obj fields =>
    dsimp only
    generalize Dict.get? fields "n" = name
    generalize Dict.get? fields "t" = type
    have typed : ∀ t : String, ["number", "string", "boolean"].contains t =
        (decide (t = "number") || decide (t = "string") || decide (t = "boolean")) := by
      intro t
      simp [List.contains_eq_mem, Bool.or_assoc]
    cases name with
    | none => rfl
    | some name => cases name with
      | str name => cases type with
        | none => rfl
        | some type => cases type with
          | str type =>
            dsimp only
            rw [typed]
            generalize (decide (type = "number") || decide (type = "string") || decide (type = "boolean")) = known
            cases known <;> rfl
          | _ => rfl
      | _ => rfl
  | _ => rfl

theorem all_decodeParams (table : Fields) :
    (decodeParams table).all (fun kv => kv.2.all (fun p => !closesScript p.name)) = cleanParams table := by
  unfold decodeParams cleanParams
  rw [List.all_filterMap]
  congr 1
  funext kv
  cases kv.2 with
  | arr params =>
    dsimp only
    cases safeIdentifierRe kv.1 with
    | false => rfl
    | true => exact all_validParam params
  | _ => rfl

theorem all_metricUnits (metrics : Fields) :
    (metricUnits metrics).all (fun kv => !closesScript kv.2) = cleanUnits metrics := by
  unfold metricUnits cleanUnits
  rw [List.all_filterMap]
  congr 1
  funext kv
  cases kv.2 with
  | str unit =>
    dsimp only
    have empty : closesScript "" = false := by decide
    by_cases none_ : unit = ""
    · subst none_
      simp [empty]
    · by_cases long : pyLen unit ≤ 16
      · cases safeIdentifierRe kv.1 <;> simp [none_, long, Nat.not_lt.mpr long]
      · simp [long, Nat.not_le.mp long]
  | _ => rfl

theorem harmless_sent {d : Delivery} {data : Fields} {row new : Device} (harmless : row.harmless = true)
    (kind : d.kind = .capabilities ∨ d.kind = .commands) (approved : new.isApproved = row.isApproved)
    (sent : new.capabilities = d.capabilities data row.capabilities) :
    new.harmless = d.clean row.isApproved data := by
  unfold Device.harmless at harmless ⊢
  rw [Bool.and_eq_true] at harmless
  obtain ⟨params, units⟩ := harmless
  rw [sent, approved]
  unfold Delivery.capabilities Delivery.clean cleanObject
  rcases kind with kind | kind
  · rw [kind]
    dsimp only
    congr 1
    · have kept : (((applyMetrics data row.capabilities).commandParams.getD []).all
          fun kv => kv.2.all fun p => !closesScript p.name) = true := by
        unfold applyMetrics
        split <;> exact params
      unfold applyCmds
      cases Dict.get? data "cmds" with
      | none => exact kept
      | some value => cases value with
        | obj cmds => exact all_decodeParams cmds
        | _ => exact kept
    · have kept : (applyCmds data (applyMetrics data row.capabilities)).units =
          (applyMetrics data row.capabilities).units := by
        unfold applyCmds
        split <;> rfl
      rw [kept]
      unfold applyMetrics
      have dropped : (!row.isApproved || true) = true := Bool.or_true _
      cases Dict.get? data "metrics" with
      | none => exact units.trans dropped.symm
      | some value => cases value with
        | obj metrics => exact congrArg (!row.isApproved || ·) (all_metricUnits metrics)
        | _ => exact units.trans dropped.symm
  · rw [kind]
    dsimp only
    rw [units, Bool.and_true]
    unfold commandTable
    cases found : Dict.get? data "command_params" with
    | none => rfl
    | some value => cases value with
      | obj table => exact all_decodeParams table
      | _ => rfl

theorem named_sent {d : Delivery} {data : Fields} {row new : Device} (named : row.Named)
    (sent : new.capabilities = d.capabilities data row.capabilities) : new.Named := by
  unfold Delivery.capabilities at sent
  cases kind : d.kind with
  | capabilities =>
    rw [kind] at sent
    dsimp only at sent
    refine named.of_capabilities _ ?_ ?_ ?_ sent
    all_goals
      unfold applyCmds applyMetrics
      split <;> split
    all_goals first | exact .inl rfl | exact .inr ⟨_, rfl⟩ | exact .inr (.inr ⟨_, rfl⟩)
  | commands =>
    rw [kind] at sent
    dsimp only at sent
    have params : commandTable data = [] ∨ ∃ table, commandTable data = decodeParams table := by
      unfold commandTable
      split
      · exact .inr ⟨_, rfl⟩
      · exact .inl rfl
    refine named.of_capabilities { row.capabilities with
      commands := some (commandNames data), commandParams := some (commandTable data) }
      (.inl rfl) (.inl rfl) ?_ sent
    rcases params with none_ | ⟨table, decoded⟩
    · exact .inr (.inl (congrArg some none_))
    · exact .inr (.inr ⟨table, congrArg some decoded⟩)
  | _ =>
    rw [kind] at sent
    exact named.of_capabilities _ (.inl rfl) (.inl rfl) (.inl rfl) sent

theorem deliver_plain {w : World} {d : Delivery}
    (plain : ∀ data row, d.payload.object? = some data → w.device? d.deviceId = some row →
      ¬ (d.kind = .capabilities ∨ d.kind = .commands)) :
    StemsFrom (fun r => (r.capabilities, r.isApproved)) ({}, false) w (deliver w d) := by
  by_cases kind : d.kind = .capabilities ∨ d.kind = .commands
  · have same : deliver w d = w := by
      cases object : d.payload.object? with
      | none => exact deliver_unread object
      | some data =>
        cases known : w.device? d.deviceId with
        | none => exact deliver_unknown known (by rcases kind with kind | kind <;> rw [kind] <;> decide)
        | some row => exact absurd kind (plain data row object known)
    rw [same]
    exact stemsFrom_closed.refl w
  · refine stemsFrom_deliver (fun _ _ _ => rfl) (fun saved fields among row => ?_) w
    have spared : ∀ f ∈ d.kind.fields, f ≠ .capabilities ∧ f ≠ .isApproved := by
      cases case : d.kind with
      | capabilities => exact absurd (.inl case) kind
      | commands => exact absurd (.inr case) kind
      | _ => decide
    rw [Device.capabilities_copyFields, if_neg (fun f => (spared _ (among _ f)).1 rfl),
      Device.isApproved_copyFields, if_neg (fun f => (spared _ (among _ f)).2 rfl)]

section Stemming
variable {w v : World} (stems : StemsFrom (fun r : Device => (r.capabilities, r.isApproved)) ({}, false) w v)
include stems

theorem StemsFrom.named (named : ∀ id row, w.device? id = some row → row.Named) (id : String) (row : Device)
    (known : v.device? id = some row) : row.Named := by
  rcases stems id row known with ⟨old, found, same⟩ | new
  · have caps : row.capabilities = old.capabilities := congrArg Prod.fst same
    exact (named id old found).of_capabilities _ (.inl rfl) (.inl rfl) (.inl rfl) caps
  · have caps : row.capabilities = {} := congrArg Prod.fst new
    constructor <;> rw [caps] <;> exact fun _ member => absurd member List.not_mem_nil

theorem StemsFrom.harmless (harmless : ∀ id row, w.device? id = some row → row.harmless = true) (id : String)
    (row : Device) (known : v.device? id = some row) : row.harmless = true := by
  rcases stems id row known with ⟨old, found, same⟩ | new
  · have before := harmless id old found
    have caps : row.capabilities = old.capabilities := congrArg Prod.fst same
    have approved : row.isApproved = old.isApproved := congrArg Prod.snd same
    unfold Device.harmless at before ⊢
    rw [caps, approved]
    exact before
  · have caps : row.capabilities = {} := congrArg Prod.fst new
    unfold Device.harmless
    rw [caps]
    simp

end Stemming

theorem approve_idle {w : World} {request : Request} {deviceId : String}
    (idle : w.device? deviceId = none ∨ approval request = none) : arrive w (.approve request deviceId) = w := by
  rw [arrive, after_approve]
  rcases idle with unknown | silent
  · rw [unknown]
  · rw [silent]
    cases w.device? deviceId <;> rfl

theorem approve_rows {w : World} {request : Request} {deviceId : String} {row : Device} {approved : Bool}
    (known : w.device? deviceId = some row) (asked : approval request = some approved) :
    (∀ other, other ≠ deviceId → (arrive w (.approve request deviceId)).device? other = w.device? other) ∧
      ∃ new, (arrive w (.approve request deviceId)).device? deviceId = some new ∧ new.isApproved = approved ∧
        new.capabilities = row.capabilities := by
  have left : arrive w (.approve request deviceId) =
      w.apply (.saveDevice { row with isApproved := approved } [.isApproved]) := by
    rw [arrive, after_approve, known, asked]
  have own : row.deviceId = deviceId := Table.key_get? known
  rw [left]
  constructor
  · intro other apart
    rw [device?_saveDevice]
    cases found : w.device? other with
    | none => rfl
    | some r =>
      rw [Option.map_some, if_neg (fun same => apart ((Table.key_get? found).symm.trans (same.trans own)))]
  · refine ⟨_, by rw [device?_saveDevice, known, Option.map_some, if_pos rfl], ?_, ?_⟩
    · rw [Device.isApproved_copyFields, if_pos List.mem_cons_self]
    · rw [Device.capabilities_copyFields, if_neg (by decide)]

theorem harmless_of_row {w v : World} {id : String} {new : Device}
    (rest : ∀ other, other ≠ id → v.device? other = w.device? other) (known : v.device? id = some new)
    (harmless : ∀ id row, w.device? id = some row → row.harmless = true) :
    (∀ id row, v.device? id = some row → row.harmless = true) ↔ new.harmless = true := by
  constructor
  · exact fun all => all id new known
  · intro one other row found
    by_cases same : other = id
    · subst same
      rw [known] at found
      cases found
      exact one
    · exact harmless other row ((rest other same).symm.trans found)

theorem named_arrive {w : World} (named : Named w) (e : Arrival) : Named (arrive w e) := by
  cases e with
  | message d =>
    refine ⟨?_, fun r member => (gainsNamed_deliver w d r member).elim (named.readings r) id⟩
    by_cases written : ∃ data row, d.payload.object? = some data ∧ w.device? d.deviceId = some row ∧
        (d.kind = .capabilities ∨ d.kind = .commands)
    · obtain ⟨data, row, object, known, kind⟩ := written
      obtain ⟨rest, new, found, -, sent⟩ := deliver_row object known kind
      intro id other there
      by_cases same : id = d.deviceId
      · subst same
        rw [arrive, found] at there
        cases there
        have before := named.devices _ row known
        split at sent
        · exact named_sent before sent
        · exact before.of_capabilities _ (.inl rfl) (.inl rfl) (.inl rfl) sent
      · exact named.devices id other ((rest id same).symm.trans there)
    · exact StemsFrom.named (deliver_plain (fun data row object known kind =>
        written ⟨data, row, object, known, kind⟩)) named.devices
  | approve request deviceId =>
    cases known : w.device? deviceId with
    | none =>
      rw [approve_idle (.inl known)]
      exact named
    | some row =>
      cases asked : approval request with
      | none =>
        rw [approve_idle (.inr asked)]
        exact named
      | some approved =>
        obtain ⟨rest, new, found, -, sent⟩ := approve_rows known asked
        refine ⟨fun id other there => ?_, ?_⟩
        · by_cases same : id = deviceId
          · subst same
            rw [found] at there
            cases there
            exact (named.devices _ row known).of_capabilities _ (.inl rfl) (.inl rfl) (.inl rfl) sent
          · exact named.devices id other ((rest id same).symm.trans there)
        · rw [arrive, after_approve, known, asked]
          exact named.readings

theorem harmless_arrive_iff {w : World} (harmless : ∀ id row, w.device? id = some row → row.harmless = true)
    (e : Arrival) :
    (∀ id row, (arrive w e).device? id = some row → row.harmless = true) ↔ e.harmless w = true := by
  cases e with
  | message d =>
    unfold Arrival.harmless
    dsimp only
    by_cases written : ∃ data row, d.payload.object? = some data ∧ w.device? d.deviceId = some row ∧
        (d.kind = .capabilities ∨ d.kind = .commands)
    · obtain ⟨data, row, object, known, kind⟩ := written
      obtain ⟨rest, new, found, approved, sent⟩ := deliver_row object known kind
      have before := harmless _ row known
      rw [arrive, harmless_of_row rest found harmless]
      simp only [object, known]
      cases kept : d.kept w with
      | true =>
        rw [kept, if_pos rfl] at sent
        rw [harmless_sent before kind approved sent]
        rfl
      | false =>
        rw [kept] at sent
        refine iff_of_true ?_ rfl
        unfold Device.harmless at before ⊢
        rw [sent, approved]
        exact before
    · have plain := fun data row object known kind => written ⟨data, row, object, known, kind⟩
      refine iff_of_true (StemsFrom.harmless (deliver_plain plain) harmless) ?_
      split
      · next data row object known =>
        have other : d.clean row.isApproved data = true := by
          unfold Delivery.clean
          cases kind : d.kind with
          | capabilities => exact absurd (.inl kind) (plain data row object known)
          | commands => exact absurd (.inr kind) (plain data row object known)
          | _ => rfl
        rw [other, Bool.or_true]
      · rfl
  | approve request deviceId =>
    unfold Arrival.harmless
    dsimp only
    cases known : w.device? deviceId with
    | none =>
      rw [approve_idle (.inl known)]
      exact iff_of_true harmless rfl
    | some row =>
      have before := harmless_iff.mp (harmless _ row known)
      dsimp only
      cases asked : approval request with
      | none =>
        rw [approve_idle (.inr asked)]
        exact iff_of_true harmless (by simp)
      | some approved =>
        obtain ⟨rest, new, found, given, sent⟩ := approve_rows known asked
        rw [harmless_of_row rest found harmless, harmless_iff, given, sent, and_iff_right before.1]
        cases approved <;> simp

theorem contained_arrive_iff {w : World} (named : Named w) (contained : Contained w) (e : Arrival) :
    Contained (arrive w e) ↔ e.harmless w = true :=
  (contained_iff (named_arrive named e)).trans (harmless_arrive_iff ((contained_iff named).mp contained) e)

/-- No page of any state of a run ends its script early exactly if every arrival is harmless. -/
theorem scripts_contained_iff {w : World} (named : Named w) (contained : Contained w) (es : List Arrival) :
    Run.Along arrive (fun w e => Contained (arrive w e)) w es ↔
      Run.Along arrive (fun w e => e.harmless w = true) w es :=
  Run.along_iff (fun w e (both : Named w ∧ Contained w) => contained_arrive_iff both.1 both.2 e)
    (fun _ e both safe => ⟨named_arrive both.1 e, (contained_arrive_iff both.1 both.2 e).mpr safe⟩)
    ⟨named, contained⟩

theorem named_empty : Named World.empty :=
  ⟨(fun _ _ known => by cases known), fun _ member => absurd member List.not_mem_nil⟩

theorem contained_empty : Contained World.empty :=
  (contained_iff named_empty).mpr (fun _ _ known => by cases known)

def cabinMessage (kind : MessageKind) (at_ : Time) (data : Fields) : Arrival :=
  .message ⟨{ now := at_ }, kind, "thermo", "cabin01", ⟨100, .value (.obj data)⟩⟩

/-- A message in which the command "blink" has one parameter. -/
def cabinParams (at_ : Time) (name : String) : Arrival :=
  cabinMessage .commands at_ [("command_params", .obj [("blink", .arr [.obj [("n", .str name), ("t", .str "string")]])])]

def cabinAdmin : User := { username := "ann", role := some .admin }

/-- The device is heard, names a parameter, is approved and names a unit. -/
def cabinArrivals : List Arrival :=
  [cabinMessage .sensors (seconds 1) [], cabinParams (seconds 2) "times",
   .approve { user := cabinAdmin, post := [("action", "approve")] } "cabin01",
   cabinMessage .capabilities (seconds 3) [("metrics", .obj [("temp", .str "°C")])]]

theorem cabinArrivals_contained :
    Run.Along arrive (fun w e => Contained (arrive w e)) World.empty cabinArrivals :=
  (scripts_contained_iff named_empty contained_empty cabinArrivals).mpr (by decide +kernel)

/-- A parameter name that ends the script of the admin page; the device need not be approved. -/
theorem cabinParams_escape :
    let w := Run.run arrive World.empty
      [cabinMessage .sensors (seconds 1) [], cabinParams (seconds 2) "</script><script>alert(1)//"]
    embedded w (.admin "cabin01") { user := cabinAdmin } =
        ["\x7b\"blink\": [\x7b\"name\": \"</script><script>alert(1)//\", \"type\": \"string\"\x7d]\x7d"] ∧
      ¬ Contained w := by
  have text : embedded (Run.run arrive World.empty
      [cabinMessage .sensors (seconds 1) [], cabinParams (seconds 2) "</script><script>alert(1)//"])
      (.admin "cabin01") { user := cabinAdmin } =
        ["\x7b\"blink\": [\x7b\"name\": \"</script><script>alert(1)//\", \"type\": \"string\"\x7d]\x7d"] := by
    decide +kernel
  refine ⟨text, fun contained => ?_⟩
  have safe := contained (.admin "cabin01") { user := cabinAdmin } _ (text ▸ List.mem_cons_self)
  exact absurd safe (by decide)

end SensorServer
