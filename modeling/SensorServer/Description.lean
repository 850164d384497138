import SensorServer.Tolerance
import SensorServer.Outcomes
import SensorServer.WakeUp

/-! The two halves of a device's description: what a capabilities message and a commands
message, in either order, leave of a row and of the command log. -/
namespace SensorServer
open Program

/-- The delivery is of the device and carries the object. -/
structure Carries (d : Delivery) (kind : MessageKind) (id : String) (data : Fields) : Prop where
  kind : d.kind = kind
  deviceId : d.deviceId = id
  object : d.payload.object? = some data

/-- The lists of a commands message. -/
def listed (list : Fields) (c : Capabilities) : Capabilities :=
  { c with commands := some (commandNames list), commandParams := some (commandTable list) }

def listedDevice (now : Time) (list : Fields) (row : Device) : Device :=
  { row with capabilities := listed list row.capabilities, lastSeen := some now }

/-- The revision fits its column, and no id or unit holds a NUL. -/
def reportFits (report : Fields) : Bool :=
  (reportedId report).all nulFree && (reportedRev report).all (fun r => decide (r ≤ Device.smallintMax)) &&
    unitsFit report

/-- No name of a parameter holds a NUL. -/
def listFits (list : Fields) : Bool :=
  (commandTable list).all (fun kv => kv.2.all (fun p => nulFree p.name))

section Message
variable {w : World} {d : Delivery} {id : String} {data : Fields} {row : Device}

theorem nulFree_commandNames (list : Fields) : (commandNames list).all nulFree = true := by
  rw [List.all_eq_true]
  intro name member
  unfold commandNames at member
  split at member
  · obtain ⟨c, -, kept⟩ := List.mem_filterMap.mp member
    split at kept
    · split at kept
      · next safe =>
        cases kept
        exact nulFree_safeIdentifier safe
      · cases kept
    · cases kept
  · cases member

theorem storable_commandTable (list : Fields) :
    (commandTable list).all (fun kv => nulFree kv.1 && Device.paramsStorable kv.2) = listFits list := by
  unfold listFits commandTable
  split
  · exact storable_decodeParams _
  · rfl

theorem storable_listed {list : Fields} {c : Capabilities} (stored : Device.capabilitiesStorable c = true) :
    Device.capabilitiesStorable (listed list c) = listFits list := by
  unfold Device.capabilitiesStorable at stored ⊢
  simp only [Bool.and_eq_true] at stored
  simp only [listed, Option.all_some, stored.1.1.1, stored.1.1.2, nulFree_commandNames, storable_commandTable,
    Bool.true_and]

theorem accepts_listed {list : Fields} {now : Time}
    (stored : Device.capabilitiesStorable row.capabilities = true) :
    [DeviceField.capabilities, .lastSeen].all (listedDevice now list row).accepts = listFits list := by
  simp only [List.all_cons, List.all_nil, Device.accepts, listedDevice, storable_listed stored, Bool.and_true]

theorem copyFields_listed {list : Fields} {now : Time} :
    (listedDevice now list row).copyFields [.capabilities, .lastSeen] row = listedDevice now list row := by
  simp only [Device.copyFields, List.foldl_cons, List.foldl_nil, Device.copyField, listedDevice]

theorem deliver_listed (carries : Carries d .commands id data) (known : w.device? id = some row) :
    deliver w d = if [DeviceField.capabilities, .lastSeen].all (listedDevice d.env.now data row).accepts then
      w.apply (.saveDevice (listedDevice d.env.now data row) [.capabilities, .lastSeen]) else w := by
  obtain ⟨kind, rfl, object⟩ := carries
  unfold deliver handleMessage
  rw [kind]
  dsimp only [handleCommandsMessage]
  rw [after_handler object known]
  change (outcome (saveDevice (listedDevice d.env.now data row) [.capabilities, .lastSeen]) w).2 = _
  rw [outcome_saveDevice]
  split <;> rfl

theorem device?_listed (carries : Carries d .commands id data) (known : w.device? id = some row) :
    (deliver w d).device? id =
      some (if [DeviceField.capabilities, .lastSeen].all (listedDevice d.env.now data row).accepts then
        listedDevice d.env.now data row else row) := by
  rw [deliver_listed carries known]
  have own : (listedDevice d.env.now data row).deviceId = row.deviceId := rfl
  split
  · rw [device?_saved known own, copyFields_listed]
  · exact known

theorem deliver_commands (carries : Carries d .commands id data) (known : w.device? id = some row)
    (stored : Device.capabilitiesStorable row.capabilities = true) :
    deliver w d = if listFits data then
      w.apply (.saveDevice (listedDevice d.env.now data row) [.capabilities, .lastSeen]) else w := by
  rw [deliver_listed carries known, accepts_listed stored]

theorem device?_commands (carries : Carries d .commands id data) (known : w.device? id = some row)
    (stored : Device.capabilitiesStorable row.capabilities = true) :
    (deliver w d).device? id = some (if listFits data then listedDevice d.env.now data row else row) := by
  rw [device?_listed carries known, accepts_listed stored]

theorem commands_elsewhere (carries : Carries d .commands id data) (known : w.device? id = some row)
    (stored : Device.capabilitiesStorable row.capabilities = true) :
    (deliver w d).db.commandLogs = w.db.commandLogs ∧ (deliver w d).db.hardwareCodes = w.db.hardwareCodes := by
  rw [deliver_commands carries known stored]
  split <;> exact ⟨rfl, rfl⟩

theorem accepts_report (stored : capabilitiesFields.all row.accepts = true) :
    capabilitiesFields.all (reportedDevice w data row).accepts = (reportFits data && paramsFit data) :=
  accepts_reported stored

theorem device?_reported (carries : Carries d .capabilities id data) (known : w.device? id = some row) :
    (deliver w d).device? id = some (if capabilitiesFields.all (reportedDevice w data row).accepts then
      reportedDevice w data row else row) := by
  obtain ⟨kind, rfl, object⟩ := carries
  have saved := deliver_capabilities (w := w) kind
  rw [show reported w d = some (reportedDevice w data row, capabilitiesFields) by
    simp only [reported, object, known, reportedDevice], saveReport_some] at saved
  refine (congrArg (fun t => t.get? d.deviceId) saved).trans ?_
  split
  · exact (device?_saved known deviceId_applyCapabilities _).trans (congrArg some copyFields_reported)
  · exact known

theorem device?_capabilities (carries : Carries d .capabilities id data) (known : w.device? id = some row)
    (stored : capabilitiesFields.all row.accepts = true) :
    (deliver w d).device? id = some (if reportFits data &&
      paramsFit data then reportedDevice w data row else row) := by
  rw [device?_reported carries known, accepts_report stored]

/-- What the message makes of a row of the log: an answered request, or a confirmed update. -/
def answeredRow (device : Device) (now : Time) (r : CommandLog) : CommandLog :=
  let r := if decide (r.device = device.deviceId) && decide (r.status = .pending) &&
    hasAction (.str "request_capabilities") r.command then r.mark .success "" now else r
  if confirmedUpdate device r then r.mark .success ("Running " ++ device.fwVersion) now else r

theorem rows_capabilitiesRest {env : Env} {saved : Device} {repush : Bool} (text : nulFree saved.fwVersion = true)
    (w : World) :
    (after (capabilitiesRest env saved repush) w).db.commandLogs.rows =
      w.db.commandLogs.rows.map (answeredRow saved env.now) := by
  have requests : outcome (resolveCapabilityRequests env saved .success "") w = (.ok (), w.apply (.markCommands
      (fun r => decide (r.device = saved.deviceId) && decide (r.status = .pending) &&
        hasAction (.str "request_capabilities") r.command) .success "" env.now)) := by
    have empty : varchar 256 (pyTake 256 "") = true := by decide
    unfold resolveCapabilityRequests
    rw [if_pos empty]
    rfl
  have pushed : ∀ v, (after (when repush (repushCalibration env saved)) v).db = v.db := by
    intro v
    cases repush with
    | false => rfl
    | true =>
      obtain ⟨t, sent, run, db, -⟩ := outcome_repush env saved v
      exact (congrArg (fun r => r.2.db) run).trans db
  unfold capabilitiesRest
  rw [after_bind_ok requests, after_bind_ok (outcome_resolveOtaUpdates text _), pushed]
  exact List.map_map.trans rfl

theorem rows_capabilities (carries : Carries d .capabilities id data) (known : w.device? id = some row)
    (stored : capabilitiesFields.all row.accepts = true) :
    (deliver w d).db.commandLogs.rows = if reportFits data && paramsFit data then
      w.db.commandLogs.rows.map (answeredRow (reportedDevice w data row) d.env.now)
      else w.db.commandLogs.rows := by
  obtain ⟨kind, rfl, object⟩ := carries
  obtain ⟨v, aside, logged⟩ := @outcome_logCleared d.env
    (fun code => (w.db.hardwareCodes.get? code).isSome) data row w
  change outcome (when (hadTimeoutAlert row)
    (addStatusLog (statusRow d.env (reportedDevice w data row)))) w = (.ok (), v) at logged
  have run := outcome_capabilities object known
  have fits := @accepts_report w data row stored
  generalize reportedDevice w data row = saved at *
  have kept := outcome_saveDevice saved capabilitiesFields v
  unfold deliver handleMessage after
  rw [kind]
  dsimp only
  rw [run, ← fits]
  change (after (do
    when (hadTimeoutAlert row) (addStatusLog (statusRow d.env saved))
    saveDevice saved capabilitiesFields
    capabilitiesRest d.env saved (storeEmpty data && !saved.calibration.isEmpty)) w).db.commandLogs.rows = _
  rw [after_bind_ok logged]
  split
  · next taken =>
    have text : varchar 32 saved.fwVersion = true := List.all_eq_true.mp taken .fwVersion (by decide)
    rw [varchar, Bool.and_eq_true] at text
    rw [if_pos taken] at kept
    rw [after_bind_ok kept, rows_capabilitiesRest text.1, ← aside.commandLogs]
    rfl
  · next refused =>
    rw [if_neg refused] at kept
    rw [after_bind_error kept, aside.commandLogs]

end Message

def Device.unheard (row : Device) : Device := { row with lastSeen := none }

def CommandLog.undated (r : CommandLog) : CommandLog := { r with ackedAt := none }

/-- The same row up to last_seen, the same command log up to its timestamps. -/
structure SameDescription (id : String) (w v : World) : Prop where
  row : (w.device? id).map Device.unheard = (v.device? id).map Device.unheard
  log : w.db.commandLogs.rows.map CommandLog.undated = v.db.commandLogs.rows.map CommandLog.undated

/-- The lists are those of the commands message, metrics and units those of the report. -/
def LeavesBoth (id : String) (report list : Fields) (before : Device) (w : World) : Prop :=
  (w.device? id).map Device.capabilities = some (listed list (applyMetrics report before.capabilities))

theorem undated_answeredRow (device : Device) (t now : Time) (r : CommandLog) :
    (answeredRow device t r).undated = (answeredRow device now r).undated := by
  unfold answeredRow
  dsimp only
  split
  · have stays : ∀ at_, confirmedUpdate device (r.mark .success "" at_) = false := by
      intro at_
      simp [confirmedUpdate, pendingOf]
    rw [stays, stays]
    rfl
  · split <;> rfl

section Both
variable {w : World} {a b a' b' : Delivery} {id : String} {report list : Fields} {row : Device}

theorem listed_applyMetrics (c : Capabilities) :
    listed list (applyMetrics report c) = applyMetrics report (listed list c) := by
  unfold applyMetrics
  split <;> rfl

theorem applyMetrics_eq_self {c : Capabilities} (same : listed list c = listed list (applyMetrics report c)) :
    applyMetrics report c = c := by
  unfold applyMetrics at same ⊢
  split
  · next metrics found =>
    rw [found] at same
    obtain ⟨names, units, commands, params⟩ := c
    simp only [listed, Capabilities.mk.injEq, and_true] at same
    simp [same]
  · rfl

theorem applyCmds_none (bare : ∀ cmds, Dict.get? report "cmds" ≠ some (.obj cmds)) (c : Capabilities) :
    applyCmds report c = c := by
  unfold applyCmds
  split
  · next cmds found => exact absurd found (bare cmds)
  · rfl

theorem paramsFit_none (bare : ∀ cmds, Dict.get? report "cmds" ≠ some (.obj cmds)) : paramsFit report = true := by
  unfold paramsFit
  split
  · next cmds found => exact absurd found (bare cmds)
  · rfl

theorem applyCapabilities_listed (bare : ∀ cmds, Dict.get? report "cmds" ≠ some (.obj cmds))
    (known : String → Bool) (now : Time) :
    (applyCapabilities known report (listedDevice now list row)) =
      listedDevice now list (applyCapabilities known report row) := by
  have timeout : hadTimeoutAlert (listedDevice now list row) = hadTimeoutAlert row := rfl
  unfold applyCapabilities
  rw [timeout]
  dsimp only
  cases hadTimeoutAlert row <;>
    simp [listedDevice, applyCmds_none bare, listed_applyMetrics, Device.clearAlert]

theorem capabilities_reportedDevice (bare : ∀ cmds, Dict.get? report "cmds" ≠ some (.obj cmds)) :
    (reportedDevice w report row).capabilities = applyMetrics report row.capabilities := by
  rw [reportedDevice, capabilities_applyCapabilities, applyCmds_none bare]

def afterReport (w : World) (report : Fields) (row : Device) : Device :=
  if reportFits report then reportedDevice w report row else row

def afterList (now : Time) (list : Fields) (row : Device) : Device :=
  if listFits list then listedDevice now list row else row

theorem stored_afterReport (stored : capabilitiesFields.all row.accepts = true)
    (bare : ∀ cmds, Dict.get? report "cmds" ≠ some (.obj cmds)) :
    capabilitiesFields.all (afterReport w report row).accepts = true := by
  unfold afterReport
  split
  · next fits => rw [accepts_report stored, fits, paramsFit_none bare, Bool.and_self]
  · exact stored

theorem stored_afterList {now : Time} (stored : capabilitiesFields.all row.accepts = true) :
    capabilitiesFields.all (afterList now list row).accepts = true := by
  unfold afterList
  split
  · next fits =>
    obtain ⟨id, rev, version, interval, lists, message⟩ := stored_columns stored
    have taken : Device.capabilitiesStorable (listed list row.capabilities) = true :=
      (storable_listed lists).trans fits
    simp only [capabilitiesFields, List.all_cons, List.all_nil, Device.accepts, listedDevice, id, rev, version,
      decide_eq_true interval, taken, message, Bool.and_self]
  · exact stored

theorem afterReport_afterList (bare : ∀ cmds, Dict.get? report "cmds" ≠ some (.obj cmds)) (now t : Time) :
    (afterReport w report (afterList now list row)).unheard =
      (afterList t list (afterReport w report row)).unheard := by
  unfold afterReport afterList
  split
  · split
    · rw [reportedDevice, applyCapabilities_listed bare]
      rfl
    · rfl
  · split <;> rfl

theorem left_iff (stored : capabilitiesFields.all row.accepts = true)
    (bare : ∀ cmds, Dict.get? report "cmds" ≠ some (.obj cmds)) (now : Time) :
    (afterList now list (afterReport w report row)).capabilities =
        listed list (applyMetrics report row.capabilities) ↔
      listFits list = true ∧ (reportFits report = true ∨ applyMetrics report row.capabilities =
        row.capabilities) := by
  have kept := stored_columns (@stored_afterReport w report row stored bare)
  have column : (afterReport w report row).capabilities =
      if reportFits report then applyMetrics report row.capabilities else row.capabilities := by
    unfold afterReport
    split
    · exact capabilities_reportedDevice bare
    · rfl
  unfold afterList
  split
  · next fits =>
    rw [and_iff_right fits]
    change listed list (afterReport w report row).capabilities = _ ↔ _
    rw [column]
    split
    · next taken => exact iff_of_true rfl (.inl taken)
    · next refused =>
      constructor
      · exact fun same => .inr (applyMetrics_eq_self same)
      · rintro (taken | same)
        · exact absurd taken refused
        · rw [same]
  · next refused =>
    refine iff_of_false (fun same => refused ?_) (fun both => refused both.1)
    have lists := kept.2.2.2.2.1
    rw [same] at lists
    unfold Device.capabilitiesStorable at lists
    simp only [listed, Option.all_some, Bool.and_eq_true] at lists
    rw [← storable_commandTable]
    exact lists.2

variable (known : w.device? id = some row) (stored : capabilitiesFields.all row.accepts = true)
  (bare : ∀ cmds, Dict.get? report "cmds" ≠ some (.obj cmds))
include known stored bare

theorem device?_afterReport (first : Carries a .capabilities id report) :
    (deliver w a).device? id = some (afterReport w report row) := by
  rw [device?_capabilities first known stored, paramsFit_none bare, Bool.and_true]
  rfl

theorem device?_report_list (first : Carries a .capabilities id report) (second : Carries b .commands id list) :
    (deliver (deliver w a) b).device? id = some (afterList b.env.now list (afterReport w report row)) :=
  device?_commands second (device?_afterReport known stored bare first)
    (stored_columns (stored_afterReport stored bare)).2.2.2.2.1

theorem device?_list_report (first : Carries a .capabilities id report) (second : Carries b .commands id list) :
    (deliver (deliver w b) a).device? id = some (afterReport w report (afterList b.env.now list row)) := by
  have lists := (stored_columns stored).2.2.2.2.1
  have found : (deliver w b).device? id = some (afterList b.env.now list row) :=
    device?_commands second known lists
  have codes := (commands_elsewhere second known lists).2
  rw [device?_afterReport found (stored_afterList stored) bare first]
  unfold afterReport reportedDevice
  rw [codes]

/-- The log is what the report leaves of it, before or after the list. -/
theorem log_either_order (first : Carries a .capabilities id report) (second : Carries b .commands id list)
    (first' : Carries a' .capabilities id report) (second' : Carries b' .commands id list) :
    (deliver (deliver w a) b).db.commandLogs.rows.map CommandLog.undated =
      (deliver (deliver w b') a').db.commandLogs.rows.map CommandLog.undated := by
  have lists := (stored_columns stored).2.2.2.2.1
  have found : (deliver w b').device? id = some (afterList b'.env.now list row) :=
    device?_commands second' known lists
  obtain ⟨logs, codes⟩ := commands_elsewhere second' known lists
  have reported_ := device?_afterReport known stored bare first
  rw [(commands_elsewhere second reported_ (stored_columns (stored_afterReport stored bare)).2.2.2.2.1).1,
    rows_capabilities first known stored, rows_capabilities first' found (stored_afterList stored), logs]
  split
  · rw [List.map_map, List.map_map]
    refine List.map_congr_left (fun r _ => ?_)
    have same : answeredRow (reportedDevice (deliver w b') report (afterList b'.env.now list row)) a'.env.now r =
        answeredRow (reportedDevice w report row) a'.env.now r := by
      unfold reportedDevice afterList
      rw [codes]
      split
      · rw [applyCapabilities_listed bare]
        rfl
      · rfl
    simp only [Function.comp_apply, same]
    exact undated_answeredRow _ _ _ r
  · rfl

/-- The halves commute, and each order leaves both exactly if both are stored. -/
theorem description_commutes_iff (first : Carries a .capabilities id report) (second : Carries b .commands id list)
    (first' : Carries a' .capabilities id report) (second' : Carries b' .commands id list) :
    SameDescription id (deliver (deliver w a) b) (deliver (deliver w b') a') ∧
      ((LeavesBoth id report list row (deliver (deliver w a) b) ∧
          LeavesBoth id report list row (deliver (deliver w b') a')) ↔
        listFits list = true ∧
          (reportFits report = true ∨ applyMetrics report row.capabilities = row.capabilities)) := by
  have one := device?_report_list known stored bare first second
  have other := device?_list_report known stored bare first' second'
  have same := @afterReport_afterList w report list row bare b'.env.now b.env.now
  have capabilities := congrArg Device.capabilities same
  have exact_ := @left_iff w report list row stored bare b.env.now
  refine ⟨⟨?_, log_either_order known stored bare first second first' second'⟩, ?_⟩
  · rw [one, other, Option.map_some, Option.map_some, same]
  · unfold LeavesBoth
    rw [one, other, Option.map_some, Option.map_some, Option.some.injEq, Option.some.injEq, ← exact_]
    refine ⟨And.left, fun left => ⟨left, ?_⟩⟩
    exact Eq.trans capabilities left

end Both

def warmReport (rev : Int) : Fields := [("metrics", .obj [("temp", .str "C")]), ("hwrev", .int rev)]

def beepList : Fields :=
  [("commands", .arr [.str "beep"]),
    ("command_params", .obj [("beep", .arr [.obj [("n", .str "count"), ("t", .str "number")]])])]

theorem terrace_commutes :
    SameDescription "terrace01"
        (deliver (deliver terrace (terraceMessage .capabilities (warmReport 3))) (terraceMessage .commands beepList))
        (deliver (deliver terrace (terraceMessage .commands beepList)) (terraceMessage .capabilities (warmReport 3))) ∧
      LeavesBoth "terrace01" (warmReport 3) beepList terraceDevice
        (deliver (deliver terrace (terraceMessage .capabilities (warmReport 3))) (terraceMessage .commands beepList)) ∧
      LeavesBoth "terrace01" (warmReport 3) beepList terraceDevice
        (deliver (deliver terrace (terraceMessage .commands beepList)) (terraceMessage .capabilities (warmReport 3))) := by
  have bare : ∀ cmds, Dict.get? (warmReport 3) "cmds" ≠ some (.obj cmds) := by
    rintro cmds ⟨⟩
  have report : Carries (terraceMessage .capabilities (warmReport 3)) .capabilities "terrace01" (warmReport 3) :=
    ⟨rfl, rfl, by decide⟩
  have list : Carries (terraceMessage .commands beepList) .commands "terrace01" beepList := ⟨rfl, rfl, by decide⟩
  have known : terrace.device? "terrace01" = some terraceDevice := by decide
  obtain ⟨same, both⟩ := description_commutes_iff known (by decide) bare report list report list
  exact ⟨same, both.mpr ⟨by decide, .inl (by decide)⟩⟩

/-- A revision past its column refuses the save of the whole report. -/
theorem terrace_half_lost :
    Carries (terraceMessage .capabilities (warmReport 40000)) .capabilities "terrace01" (warmReport 40000) ∧
    Carries (terraceMessage .commands beepList) .commands "terrace01" beepList ∧
    terrace.device? "terrace01" = some terraceDevice ∧ capabilitiesFields.all terraceDevice.accepts = true ∧
    ¬ LeavesBoth "terrace01" (warmReport 40000) beepList terraceDevice (deliver (deliver terrace
        (terraceMessage .capabilities (warmReport 40000))) (terraceMessage .commands beepList)) ∧
    ¬ LeavesBoth "terrace01" (warmReport 40000) beepList terraceDevice (deliver (deliver terrace
        (terraceMessage .commands beepList)) (terraceMessage .capabilities (warmReport 40000))) := by
  refine ⟨⟨rfl, rfl, by decide⟩, ⟨rfl, rfl, by decide⟩, by decide, by decide, ?_, ?_⟩
  · unfold LeavesBoth
    decide +kernel
  · unfold LeavesBoth
    decide +kernel

/-- No name of a parameter of the table holds a NUL. -/
def tableFits (table : Fields) : Bool :=
  (decodeParams table).all (fun kv => kv.2.all (fun p => nulFree p.name))

/-- The parameters are of commands that are listed. -/
def ParamsListed (c : Capabilities) : Prop := ∀ kv ∈ c.commandParams.getD [], kv.1 ∈ c.commands.getD []

/-- What a table of commands stands for. -/
def tabled (table : Fields) (c : Capabilities) : Capabilities :=
  { c with commands := some ((Dict.keys table).filter safeIdentifierRe), commandParams := some (decodeParams table) }

section Table
variable {w : World} {a b : Delivery} {id : String} {report list table : Fields} {row : Device}

theorem paramsListed_tabled (c : Capabilities) : ParamsListed (tabled table c) := by
  intro kv member
  obtain ⟨entry, among, kept⟩ := List.mem_filterMap.mp member
  split at kept
  · split at kept
    · next safe =>
      cases kept
      exact List.mem_filter.mpr ⟨List.mem_map_of_mem among, safe⟩
    · cases kept
  · cases kept

theorem listed_table (commands : Dict.get? list "commands" = some (.arr ((Dict.keys table).map .str)))
    (params : Dict.get? list "command_params" = some (.obj table)) (c : Capabilities) :
    listed list c = tabled table c := by
  have names : commandNames list = (Dict.keys table).filter safeIdentifierRe := by
    unfold commandNames
    rw [commands]
    dsimp only
    rw [List.filterMap_map, ← List.filterMap_eq_filter]
    refine List.filterMap_congr (fun name _ => ?_)
    simp only [Function.comp_apply, Option.guard_apply]
  unfold listed commandTable
  rw [names, params]
  rfl

theorem applyCmds_table (cmds : Dict.get? report "cmds" = some (.obj table)) (c : Capabilities) :
    applyCmds report c = tabled table c := by
  unfold applyCmds
  rw [cmds]
  rfl

/-- As the cmds of a report or in a commands message of its own a table is stored alike. -/
theorem encodings_agree (known : w.device? id = some row) (stored : capabilitiesFields.all row.accepts = true)
    (cmds : Dict.get? report "cmds" = some (.obj table)) (fits : reportFits report = true)
    (commands : Dict.get? list "commands" = some (.arr ((Dict.keys table).map .str)))
    (params : Dict.get? list "command_params" = some (.obj table))
    (first : Carries a .capabilities id report) (second : Carries b .commands id list) :
    ∃ one other, (deliver w a).device? id = some one ∧ (deliver w b).device? id = some other ∧
      one.capabilities.commands = other.capabilities.commands ∧
      one.capabilities.commandParams = other.capabilities.commandParams ∧
      (tableFits table = true → other.capabilities = tabled table row.capabilities) ∧
      (tableFits table = true ∨ ParamsListed row.capabilities →
        ParamsListed one.capabilities ∧ ParamsListed other.capabilities) := by
  have lists := (stored_columns stored).2.2.2.2.1
  have one := device?_capabilities first known stored
  have other := device?_commands second known lists
  have fitsReport : paramsFit report = tableFits table := by
    unfold paramsFit
    rw [cmds]
    rfl
  have fitsList : listFits list = tableFits table := by
    unfold listFits commandTable
    rw [params]
    rfl
  rw [fits, Bool.true_and, fitsReport] at one
  rw [fitsList] at other
  have told : (reportedDevice w report row).capabilities =
      tabled table (applyMetrics report row.capabilities) := by
    rw [reportedDevice, capabilities_applyCapabilities, applyCmds_table cmds]
  have taken : (listedDevice b.env.now list row).capabilities = tabled table row.capabilities :=
    listed_table commands params row.capabilities
  refine ⟨_, _, one, other, ?_⟩
  split
  · next clean =>
    rw [told, taken]
    exact ⟨rfl, rfl, fun _ => rfl, fun _ => ⟨paramsListed_tabled _, paramsListed_tabled _⟩⟩
  · next spoilt =>
    refine ⟨rfl, rfl, fun clean => absurd clean spoilt, ?_⟩
    rintro (clean | before)
    · exact absurd clean spoilt
    · exact ⟨before, before⟩

end Table

/-- A command with a parameter, a malformed name, and a value that is no list. -/
def signalTable : Fields :=
  [("beep", .arr [.obj [("n", .str "count"), ("t", .str "number")], .str "loud"]), ("two words", .arr []),
    ("nap", .int 3)]

example : tabled signalTable {} =
    { commands := some ["beep", "nap"], commandParams := some [("beep", [⟨"count", "number"⟩])] } := by decide

theorem terrace_encodings_agree :
    ∃ one other,
      (deliver terrace (terraceMessage .capabilities [("cmds", .obj signalTable)])).device? "terrace01" = some one ∧
      (deliver terrace (terraceMessage .commands
          [("commands", .arr [.str "beep", .str "two words", .str "nap"]),
            ("command_params", .obj signalTable)])).device? "terrace01" = some other ∧
      one.capabilities.commands = other.capabilities.commands ∧
      one.capabilities.commandParams = other.capabilities.commandParams ∧
      (tableFits signalTable = true → other.capabilities = tabled signalTable terraceDevice.capabilities) ∧
      (tableFits signalTable = true ∨ ParamsListed terraceDevice.capabilities →
        ParamsListed one.capabilities ∧ ParamsListed other.capabilities) :=
  @encodings_agree terrace _ _ "terrace01" [("cmds", .obj signalTable)] _ signalTable terraceDevice (by decide)
    (by decide) rfl (by decide) rfl rfl ⟨rfl, rfl, rfl⟩ ⟨rfl, rfl, rfl⟩

end SensorServer
