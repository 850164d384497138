import SensorServer.Batches
import SensorServer.Scripts

/-! What is left of a calibration, a diagnostics and a capabilities message when one of its
fields is no value of its column. -/
namespace SensorServer
open Program

theorem nulFree_of_class {inClass : Char → Bool} (excludes : inClass '\x00' = false) {low : Nat}
    {high : Option Nat} {s : String} (valid : matchesClass inClass low high s = true) : nulFree s = true := by
  rw [nulFree, List.all_eq_true]
  intro c member
  rw [decide_eq_true_eq]
  rintro rfl
  exact not_mem_of_matchesClass valid excludes (by decide) member

theorem nulFree_safeIdentifier {s : String} (safe : safeIdentifierRe s = true) : nulFree s = true :=
  nulFree_of_class (by decide) safe

def mirrorEntry (entry : String × Json) : Option (String × Json) :=
  if strictName entry.1 then
    match entry.2.asFloat with
    | some (.finite q) => some (entry.1, .float ((PyFloat.finite q).round 4))
    | _ => none
  else none

def takenEntry (entry : String × Json) : Option (String × Json) :=
  if metricName entry.1 then entry.2.asFloat.map (fun f => (entry.1, .float (f.round 4))) else none

/-- The handler leaves the entry out, or it has a valid name and a finite value. -/
def fitsMirror (entry : String × Json) : Bool :=
  !(metricName entry.1 && entry.2.isNumber) ||
    !trailingNewline entry.1 && entry.2.asFloat.any PyFloat.isFinite

/-- The handler completes and the mirror is the report's, entry by entry. -/
structure MirrorsEntries (w : World) (d : Delivery) (data : Fields) : Prop where
  completes : (outcome (handleMessage d.env d.kind d.deviceType d.deviceId d.payload) w).1.isOk = true
  mirror : ∃ device, (deliver w d).device? d.deviceId = some device ∧
    device.calibration = data.filterMap mirrorEntry

theorem isNumber_of_asFloat {value : Json} {f : PyFloat} (converts : value.asFloat = some f) :
    value.isNumber = true := by
  cases value <;> first | rfl | cases converts

theorem takenEntry_of_mirror {entry kept : String × Json} (mirrors : mirrorEntry entry = some kept) :
    takenEntry entry = some kept := by
  unfold mirrorEntry at mirrors
  split at mirrors
  · next strict =>
    split at mirrors
    · next q finite =>
      rw [takenEntry, if_pos (strictName_iff.mp strict).1, finite]
      exact mirrors
    · cases mirrors
  · cases mirrors

theorem calibrationMirror_eq (data : Fields) :
    calibrationMirror data =
      if data.all (fun entry => !(metricName entry.1 && entry.2.isNumber) || entry.2.asFloat.isSome) then
        some (data.filterMap takenEntry)
      else none := by
  induction data with
  | nil => rfl
  | cons entry rest ih =>
    obtain ⟨key, value⟩ := entry
    rw [calibrationMirror, ih, List.all_cons, List.filterMap_cons, takenEntry]
    cases metricName key with
    | false => rfl
    | true =>
      cases number : value.isNumber with
      | false =>
        have unconverted : value.asFloat = none := by
          cases converts : value.asFloat with
          | none => rfl
          | some f => rw [isNumber_of_asFloat converts] at number; cases number
        rw [unconverted]
        rfl
      | true =>
        cases value.asFloat with
        | none => rfl
        | some f =>
          simp only [Bool.and_true, Bool.not_true, Bool.false_or, Option.isSome_some, Bool.true_and, if_true,
            Option.map_some]
          cases rest.all fun entry => !(metricName entry.1 && entry.2.isNumber) || entry.2.asFloat.isSome <;> rfl

theorem storableFields_iff {fields : Fields} :
    storableFields fields = true ↔ ∀ kv ∈ fields, nulFree kv.1 = true ∧ kv.2.storable = true := by
  induction fields with
  | nil => simp [storableFields]
  | cons kv rest ih =>
    obtain ⟨key, value⟩ := kv
    simp [storableFields, ih, and_assoc]

theorem fitsMirror_iff {entry : String × Json} :
    fitsMirror entry = true ↔
      (!(metricName entry.1 && entry.2.isNumber) || entry.2.asFloat.isSome) = true ∧
        mirrorEntry entry = takenEntry entry := by
  have strict : strictName entry.1 = (metricName entry.1 && !trailingNewline entry.1) := by
    rw [Bool.eq_iff_iff, strictName_iff, Bool.and_eq_true, Bool.not_eq_true']
  unfold fitsMirror mirrorEntry takenEntry
  rw [strict]
  cases metricName entry.1 with
  | false => simp
  | true =>
    cases converts : entry.2.asFloat with
    | none => cases entry.2.isNumber <;> simp
    | some f =>
      rw [isNumber_of_asFloat converts]
      cases trailingNewline entry.1 <;> cases f <;> simp [PyFloat.isFinite]

theorem storable_mirror (data : Fields) : storableFields (data.filterMap mirrorEntry) = true := by
  rw [storableFields_iff]
  intro kept member
  obtain ⟨entry, -, mirrors⟩ := List.mem_filterMap.mp member
  unfold mirrorEntry at mirrors
  split at mirrors
  · next strict =>
    split at mirrors
    · cases mirrors
      have name := (strictName_iff.mp strict).1
      rw [metricName, Bool.and_eq_true] at name
      exact ⟨nulFree_safeIdentifier name.2, rfl⟩
    · cases mirrors
  · cases mirrors

theorem outcome_calibration {w : World} {d : Delivery} {data : Fields} {device : Device}
    (calibration : d.kind = .calibration) (object : d.payload.object? = some data)
    (known : w.device? d.deviceId = some device) :
    outcome (handleMessage d.env d.kind d.deviceType d.deviceId d.payload) w =
      match calibrationMirror data with
      | none => (.error .conversion, w)
      | some mirror =>
        if storableFields mirror then
          (.ok (), w.apply (.saveDevice { device with calibration := mirror, lastSeen := some d.env.now }
            [.calibration, .lastSeen]))
        else (.error .dataError, w) := by
  rw [calibration]
  refine (outcome_handler object known _).trans ?_
  cases calibrationMirror data with
  | none => rfl
  | some mirror =>
    refine (outcome_saveDevice _ _ w).trans ?_
    simp [Device.accepts]

/-- The report is mirrored entry by entry exactly if each of its entries fits. -/
theorem mirrors_entries_iff {w : World} {d : Delivery} {data : Fields} {device : Device}
    (calibration : d.kind = .calibration) (object : d.payload.object? = some data)
    (known : w.device? d.deviceId = some device) :
    MirrorsEntries w d data ↔ data.all fitsMirror = true := by
  have ran := outcome_calibration calibration object known
  have fits : data.all fitsMirror = true ↔
      data.all (fun entry => !(metricName entry.1 && entry.2.isNumber) || entry.2.asFloat.isSome) = true ∧
        data.filterMap mirrorEntry = data.filterMap takenEntry := by
    rw [filterMap_eq_iff (fun _ _ => takenEntry_of_mirror) data, List.all_eq_true, List.all_eq_true,
      ← forall₂_and]
    exact forall₂_congr fun entry _ => fitsMirror_iff
  rw [fits]
  rw [calibrationMirror_eq] at ran
  cases converts : data.all (fun entry => !(metricName entry.1 && entry.2.isNumber) || entry.2.asFloat.isSome) with
  | false =>
    rw [converts, if_neg Bool.false_ne_true] at ran
    refine iff_of_false (fun mirrors => ?_) (fun both => Bool.false_ne_true both.1)
    have completes := mirrors.completes
    rw [ran] at completes
    cases completes
  | true =>
    rw [converts, if_pos rfl] at ran
    dsimp only at ran
    refine ⟨fun mirrors => ⟨rfl, ?_⟩, fun both => ?_⟩
    · have completes := mirrors.completes
      obtain ⟨saved, found, mirror⟩ := mirrors.mirror
      rw [deliver, after, ran] at found
      rw [ran] at completes
      split at completes
      · next storable =>
        rw [if_pos storable] at found
        have same := (device?_saved known (by rfl) _).symm.trans found
        rw [← mirror, ← Option.some.inj same]
        simp
      · cases completes
    · rw [← both.2, if_pos (storable_mirror data)] at ran
      refine ⟨by rw [ran]; rfl, ?_⟩
      rw [deliver, after, ran]
      exact ⟨_, device?_saved known (by rfl) _, by simp⟩

theorem terrace_mirrored : MirrorsEntries terrace (terraceMessage .calibration comfort) comfort :=
  (@mirrors_entries_iff terrace (terraceMessage .calibration comfort) comfort terraceDevice rfl (by decide)
    (by decide)).mpr (by decide)

/-- float() of the huge integer raises, and the entry before it is not mirrored either. -/
theorem terrace_unmirrored :
    (terraceMessage .calibration overflowing).payload.object? = some overflowing ∧
    terrace.device? "terrace01" = some terraceDevice ∧
    (deliver terrace (terraceMessage .calibration overflowing)).device? "terrace01" = some terraceDevice ∧
    ¬ MirrorsEntries terrace (terraceMessage .calibration overflowing) overflowing := by
  refine ⟨by decide +kernel, by decide, by decide +kernel, fun mirrors => ?_⟩
  exact absurd mirrors.completes (by decide +kernel)

/-- The fields int() is applied to. -/
def technicalKeys : List String :=
  ["rssi", "rst", "boot", "miss", "wake_ms", "seq", "pubfail", "heap", "bat", "txsent", "txok"]

/-- int() takes the field. -/
def finiteField (data : Fields) (key : String) : Bool :=
  match Dict.get? data key with
  | some (.float f) => f.isFinite
  | _ => true

def rssiFits (data : Fields) : Bool :=
  ((Dict.get? data "rssi").bind pyInt).all (fun r => decide (-2147483648 ≤ r ∧ r ≤ 2147483647))

/-- int() takes every technical field, the column the rssi and the text. -/
def fitsSnapshot (data : Fields) : Bool :=
  technicalKeys.all (finiteField data) && rssiFits data && nulFree (diagText data)

/-- One snapshot is stored, each of its fields null or in the range of its column, and the
alert is the reported one. -/
structure Reflects (w : World) (d : Delivery) (data : Fields) (level : DiagLevel) : Prop where
  snapshot : ∃ row, (deliver w d).db.diagLogs = w.db.diagLogs ++ [row] ∧ row.insertable = true ∧
    row.time = d.env.now ∧ row.device = d.deviceId ∧ row.level = level ∧ row.message = diagText data
  alert : ((deliver w d).device? d.deviceId).map Device.alert =
    some (level.alert, if level.alert.raised then diagText data else "")

theorem pyInt_isSome {value : Json} (number : value.isNumber = true) :
    (pyInt value).isSome = match value with
      | .float f => f.isFinite
      | _ => true := by
  cases value with
  | float f => cases f <;> rfl
  | int i => rfl
  | _ => cases number

theorem converted_isSome {β : Type} (data : Fields) (key : String) (convert : Int → β) (absent : β) :
    (match Dict.get? data key with
      | some value => if value.isNumber then (pyInt value).map convert else some absent
      | none => some absent).isSome = finiteField data key := by
  unfold finiteField
  cases Dict.get? data key with
  | none => rfl
  | some value =>
    dsimp only
    cases number : value.isNumber with
    | true =>
      rw [if_pos rfl, Option.isSome_map, pyInt_isSome number]
      cases value <;> rfl
    | false => cases value <;> first | rfl | cases number

theorem diagUint_isSome (data : Fields) (key : String) (maximum : Nat) :
    (diagUint (Dict.get? data key) maximum).isSome = finiteField data key :=
  converted_isSome data key (bounded maximum) none

theorem diagRssi_isSome (data : Fields) : (diagRssi data).isSome = finiteField data "rssi" :=
  converted_isSome data "rssi" some none

theorem diagUint_fits {value : Option Json} {maximum limit : Nat} {n : Option Nat} (below : maximum ≤ limit)
    (converts : diagUint value maximum = some n) : n.all (fun n => decide (n ≤ limit)) = true := by
  unfold diagUint at converts
  split at converts
  · split at converts
    · obtain ⟨i, -, same⟩ := Option.map_eq_some_iff.mp converts
      rw [← same, bounded]
      split
      · next inside =>
        rw [Option.all_some, decide_eq_true_eq]
        omega
      · rfl
    · rw [← Option.some.inj converts]
      rfl
  · rw [← Option.some.inj converts]
    rfl

theorem diagRssi_fits {data : Fields} {rssi : Option Int} (converts : diagRssi data = some rssi) :
    rssi.all (fun r => decide (-2147483648 ≤ r ∧ r ≤ 2147483647)) = rssiFits data := by
  unfold diagRssi at converts
  unfold rssiFits
  cases found : Dict.get? data "rssi" with
  | none =>
    rw [found] at converts
    rw [← Option.some.inj converts]
    rfl
  | some value =>
    rw [found] at converts
    dsimp only at converts
    rw [Option.bind_some]
    cases number : value.isNumber with
    | true =>
      rw [number, if_pos rfl] at converts
      obtain ⟨r, whole, same⟩ := Option.map_eq_some_iff.mp converts
      rw [← same, whole]
    | false =>
      rw [number, if_neg Bool.false_ne_true] at converts
      rw [← Option.some.inj converts]
      cases value <;> first | rfl | cases number

theorem any_same {α : Type} (x : Option α) (c : Bool) : x.any (fun _ => c) = (x.isSome && c) := by
  cases x <;> rfl

theorem diagSnapshot_isSome (now : Time) (id : String) (level : DiagLevel) (data : Fields) :
    (diagSnapshot now id level data).isSome = technicalKeys.all (finiteField data) := by
  simp only [diagSnapshot, Option.bind_eq_bind, Option.isSome_bind, Option.pure_def, Option.isSome_some, any_same,
    diagRssi_isSome, diagUint_isSome, technicalKeys, List.all_cons, List.all_nil]

theorem diagSnapshot_insertable {now : Time} {id : String} {level : DiagLevel} {data : Fields}
    {row : DeviceDiagLog} (converts : diagSnapshot now id level data = some row) :
    row.insertable = (rssiFits data && nulFree (diagText data)) ∧
      row.time = now ∧ row.device = id ∧ row.level = level ∧ row.message = diagText data := by
  obtain ⟨taken, time, owner, named, told⟩ := diagSnapshot_converted converts
  have counter : ∀ {value : Option Json} {n : Option Nat}, diagUint value diagMax = some n →
      n.all (fun n => decide (n ≤ Device.integerMax)) = true := diagUint_fits (by decide)
  have small : row.resetCause.all (fun n => decide (n ≤ Device.smallintMax)) = true ∧
      row.batteryPercent.all (fun n => decide (n ≤ Device.smallintMax)) = true :=
    ⟨diagUint_fits (by decide) taken.resetCause, diagUint_fits (by decide) taken.batteryPercent⟩
  have text : varchar 256 (diagText data) = nulFree (diagText data) := by
    unfold diagText
    split
    · exact varchar_pyTake 256 _
    · decide
  refine ⟨?_, time, owner, named, told⟩
  simp only [DeviceDiagLog.insertable, List.all_cons, List.all_nil, told, text, small.1, small.2,
    counter taken.boot, counter taken.miss, counter taken.wakeMs, counter taken.seq, counter taken.pubfail,
    counter taken.heap, counter taken.txsent, counter taken.txok, diagRssi_fits taken.rssi, Bool.and_true]
  exact Bool.and_comm _ _

def KeepsSnapshots (w v : World) : Prop := v.db.diagLogs = w.db.diagLogs

theorem keepsSnapshots_closed : Closed KeepsSnapshots := ⟨fun _ => rfl, fun h k => k.trans h⟩

section Diag
variable {w : World} {d : Delivery} {data : Fields} {device : Device} {level : DiagLevel} (diag : d.kind = .diag)
  (object : d.payload.object? = some data) (known : w.device? d.deviceId = some device)
  (named : diagLevel data = some level)
include diag object known named

theorem diagLogs_diag :
    (deliver w d).db.diagLogs = w.db.diagLogs ++
      (diagSnapshot d.env.now device.deviceId level data).toList.filter DeviceDiagLog.insertable := by
  have run : deliver w d = after (handleDiagMessage d.env d.deviceId d.payload) w := by
    unfold deliver handleMessage
    rw [diag]
  rw [run, handleDiagMessage, after_handler object known]
  dsimp only
  rw [named]
  dsimp only
  cases diagSnapshot d.env.now device.deviceId level data with
  | none => exact (List.append_nil _).symm
  | some row =>
    dsimp only
    rw [Option.toList_some, List.filter_cons, List.filter_nil]
    by_cases insertable : row.insertable = true
    · rw [if_pos insertable, after_bind_ok ((outcome_addDiagLog row w).trans (if_pos insertable))]
      exact Upholds.bind keepsSnapshots_closed
        (upholds_saveDevice keepsSnapshots_closed (fun _ => rfl))
        (fun _ => Upholds.when keepsSnapshots_closed (fun _ => Upholds.bind keepsSnapshots_closed
          (upholds_addStatusLog keepsSnapshots_closed (fun _ => rfl))
          (fun _ => upholds_groupSend keepsSnapshots_closed (fun _ => rfl)))) _
    · rw [if_neg insertable, after_bind_error ((outcome_addDiagLog row w).trans (if_neg insertable))]
      exact (List.append_nil _).symm

theorem reflects_iff : Reflects w d data level ↔ fitsSnapshot data = true := by
  have logs := diagLogs_diag diag object known named
  unfold fitsSnapshot
  rw [← diagSnapshot_isSome d.env.now device.deviceId level data]
  cases converts : diagSnapshot d.env.now device.deviceId level data with
  | none =>
    rw [converts] at logs
    refine iff_of_false (fun reflects => ?_) (by simp)
    obtain ⟨row, stored, -⟩ := reflects.snapshot
    rw [logs] at stored
    simp at stored
  | some row =>
    obtain ⟨fits, time, owner, levelled, text⟩ := diagSnapshot_insertable converts
    rw [converts, Option.toList_some, List.filter_cons, List.filter_nil] at logs
    rw [Option.isSome_some, Bool.true_and, ← fits]
    refine ⟨fun reflects => ?_, fun insertable => ?_⟩
    · obtain ⟨stored, grown, -⟩ := reflects.snapshot
      rw [logs] at grown
      by_contra refused
      rw [if_neg refused] at grown
      simp at grown
    · rw [if_pos insertable] at logs
      refine ⟨⟨row, logs, insertable, time, owner.trans (Table.key_get? known), levelled, text⟩, ?_⟩
      have short : varchar 256 (diagText data) = true := by
        rw [← text]
        simp only [DeviceDiagLog.insertable, Bool.and_eq_true] at insertable
        exact insertable.1.1.1
      have told : report w d =
          some (applyDiag d.env.now level (diagText data) device, alertFields ++ [.lastSeen]) := by
        simp only [report, object, known, heard, diag, named, converts, insertable, if_true]
      have saved := deliver_report (w := w) (d := d) (by rw [diag]; rfl)
      rw [told, saveReport_some, if_pos (accepts_applyDiag short)] at saved
      have same : (deliver w d).device? d.deviceId = _ :=
        (congrArg (fun t => t.get? d.deviceId) saved.devices).trans (device?_saved known (by rfl) _)
      rw [same]
      simp [Device.alert, applyDiag, alertFields]

end Diag

def lowHeap (heap : PyFloat) : Fields :=
  [("level", .str "warning"), ("message", .str "low heap"), ("rst", .str "brownout"), ("heap", .float heap)]

theorem terrace_reflected :
    Reflects terrace (terraceMessage .diag (lowHeap (.finite (-1)))) (lowHeap (.finite (-1))) .warning :=
  (@reflects_iff terrace (terraceMessage .diag (lowHeap (.finite (-1)))) (lowHeap (.finite (-1))) terraceDevice
    .warning rfl (by decide) (by decide) (by decide)).mpr (by decide)

/-- 1e400 under heap: no snapshot and no alert. -/
theorem terrace_unreflected :
    (terraceMessage .diag (lowHeap (.inf false))).payload.object? = some (lowHeap (.inf false)) ∧
    diagLevel (lowHeap (.inf false)) = some .warning ∧
    deliver terrace (terraceMessage .diag (lowHeap (.inf false))) = terrace ∧
    ¬ Reflects terrace (terraceMessage .diag (lowHeap (.inf false))) (lowHeap (.inf false)) .warning := by
  have dropped : deliver terrace (terraceMessage .diag (lowHeap (.inf false))) = terrace := by rfl
  refine ⟨by decide, by decide, dropped, fun reflects => ?_⟩
  have alert := reflects.alert
  rw [dropped] at alert
  exact absurd alert (by decide)

def fittingId (data : Fields) : Option String :=
  match (Dict.get? data "id").getD (.str "") with
  | .str s => if varchar 256 s then some s else none
  | _ => none

def fittingRev (data : Fields) : Option Nat :=
  match Dict.get? data "hwrev" with
  | some (.int i) => if 0 ≤ i ∧ i ≤ Device.smallintMax then some i.toNat else none
  | _ => none

def fittingInterval (data : Fields) : Option Nat :=
  match Dict.get? data "intrvl" with
  | some (.bool true) => some 1
  | some (.int i) => if 1 ≤ i ∧ i ≤ 86400 then some i.toNat else none
  | some (.float (.finite q)) => if 1 ≤ q ∧ q ≤ 86400 then some q.floor.toNat else none
  | _ => none

/-- The row the report stands for: what it gives within the columns, the rest as before. -/
def fittingReport (w : World) (data : Fields) (device : Device) : Device :=
  { reportedDevice w data device with
    hardwareId := (fittingId data).getD device.hardwareId
    hwRev := (fittingRev data).or device.hwRev
    publishInterval := (fittingInterval data).getD device.publishInterval }

structure WithinColumns (device row : Device) : Prop where
  interval : row.publishInterval = device.publishInterval ∨
    1 ≤ row.publishInterval ∧ row.publishInterval ≤ 86400
  revision : row.hwRev = device.hwRev ∨ ∃ r, row.hwRev = some r ∧ r ≤ Device.smallintMax
  id : varchar 256 row.hardwareId = true
  version : varchar 32 row.fwVersion = true

/-- The handler completes, and each field is stored or ignored by itself. -/
structure StoresWithin (w : World) (d : Delivery) (data : Fields) (device : Device) : Prop where
  completes : (outcome (handleMessage d.env d.kind d.deviceType d.deviceId d.payload) w).1.isOk = true
  row : ∃ row, (deliver w d).device? d.deviceId = some row ∧ WithinColumns device row ∧
    row = fittingReport w data device

def fractional (data : Fields) : Bool :=
  match Dict.get? data "intrvl" with
  | some (.float (.finite q)) => decide (0 < q ∧ q < 1)
  | _ => false

def unitsFit (data : Fields) : Bool :=
  match Dict.get? data "metrics" with
  | some (.obj metrics) => (metricUnits metrics).all (fun kv => nulFree kv.2)
  | _ => true

def paramsFit (data : Fields) : Bool :=
  match Dict.get? data "cmds" with
  | some (.obj cmds) => (decodeParams cmds).all (fun kv => kv.2.all (fun p => nulFree p.name))
  | _ => true

/-- The revision fits its column, no text holds a NUL and no fraction replaces an interval. -/
def fitsColumns (data : Fields) (device : Device) : Bool :=
  (reportedId data).all nulFree && (reportedRev data).all (fun r => decide (r ≤ Device.smallintMax)) &&
    unitsFit data && paramsFit data && (!fractional data || decide (device.publishInterval = 0))

theorem fittingId_eq (data : Fields) : fittingId data = (reportedId data).filter nulFree := by
  unfold fittingId reportedId
  cases (Dict.get? data "id").getD (.str "") with
  | str s =>
    dsimp only
    unfold varchar pyLen
    by_cases short : s.toList.length ≤ 256
    · rw [if_pos short, Option.filter_some, decide_eq_true short, Bool.and_true]
    · rw [if_neg short, decide_eq_false short, Bool.and_false]
      rfl
  | _ => rfl

theorem varchar_reportedId {data : Fields} {s : String} (given : reportedId data = some s) :
    varchar 256 s = nulFree s := by
  unfold reportedId at given
  split at given
  · split at given
    · next short =>
      cases given
      rw [varchar, decide_eq_true (show s.toList.length ≤ 256 from short), Bool.and_true]
    · cases given
  · cases given

theorem fittingRev_eq (data : Fields) :
    fittingRev data = (reportedRev data).filter (fun r => decide (r ≤ Device.smallintMax)) := by
  unfold fittingRev reportedRev Device.smallintMax
  cases Dict.get? data "hwrev" with
  | none => rfl
  | some value =>
    cases value with
    | int i =>
      dsimp only
      by_cases inside : 0 ≤ i ∧ i ≤ 65535
      · rw [if_pos inside, Option.filter_some]
        by_cases small : i.toNat ≤ 32767
        · rw [if_pos (by omega), if_pos (by simpa using small)]
        · rw [if_neg (by omega), if_neg (by simpa using small)]
      · rw [if_neg inside, if_neg (by omega)]
        rfl
    | _ => rfl

theorem reportedInterval_eq (data : Fields) :
    reportedInterval data = if fractional data then some 0 else fittingInterval data := by
  unfold reportedInterval fractional fittingInterval
  cases Dict.get? data "intrvl" with
  | none => rfl
  | some value =>
    cases value with
    | bool b => cases b <;> rfl
    | int i =>
      dsimp only
      rw [if_neg Bool.false_ne_true]
      exact if_congr (by omega) rfl rfl
    | float f =>
      cases f with
      | nan => rfl
      | inf negative => cases negative <;> rfl
      | finite q =>
        dsimp only
        rw [PyFloat.trunc, Option.map_some]
        by_cases positive : 0 < q
        · have above : PyFloat.lt (.finite 0) (.finite q) = true := decide_eq_true positive
          rw [above, Bool.true_and, if_pos positive.le]
          by_cases fraction : q < 1
          · have below : q ≤ 86400 := fraction.le.trans (by decide)
            have zero : q.floor < 1 := Rat.floor_lt_iff.mpr fraction
            rw [if_pos (PyFloat.le_finite_iff.mpr below), if_pos (decide_eq_true ⟨positive, fraction⟩),
              Int.toNat_of_nonpos (by omega)]
          · rw [if_neg (fun both : decide (0 < q ∧ q < 1) = true => fraction (of_decide_eq_true both).2)]
            exact if_congr (by rw [PyFloat.le_finite_iff, and_iff_right (not_lt.mp fraction)]) rfl rfl
        · have above : PyFloat.lt (.finite 0) (.finite q) = false := decide_eq_false positive
          rw [above, Bool.false_and, if_neg Bool.false_ne_true,
            if_neg (fun both => positive (of_decide_eq_true both).1),
            if_neg (fun both => positive (lt_of_lt_of_le one_pos both.1))]
    | _ => rfl

theorem fittingInterval_fractional {data : Fields} (fraction : fractional data = true) :
    fittingInterval data = none := by
  unfold fractional at fraction
  unfold fittingInterval
  cases found : Dict.get? data "intrvl" with
  | none => rfl
  | some value =>
    rw [found] at fraction
    cases value with
    | float f =>
      cases f with
      | finite q =>
        have below := (of_decide_eq_true fraction).2
        dsimp only
        rw [if_neg (fun both => absurd below (not_lt.mpr both.1))]
      | _ => rfl
    | _ => cases fraction

theorem filter_of_all {α : Type} {x : Option α} {p : α → Bool} (all : x.all p = true) : x.filter p = x := by
  cases x with
  | none => rfl
  | some a => exact if_pos all

theorem fittingInterval_within {data : Fields} {n : Nat} (given : fittingInterval data = some n) :
    1 ≤ n ∧ n ≤ 86400 := by
  unfold fittingInterval at given
  cases found : Dict.get? data "intrvl" with
  | none => rw [found] at given; cases given
  | some value =>
    rw [found] at given
    cases value with
    | bool b => cases b <;> cases given; decide
    | int i =>
      dsimp only at given
      split at given
      · cases given
        omega
      · cases given
    | float f =>
      cases f with
      | finite q =>
        dsimp only at given
        split at given
        · next inside =>
          cases given
          have low : 1 ≤ q.floor := Rat.le_floor_iff.mpr inside.1
          have high : q.floor < 86401 := Rat.floor_lt_iff.mpr (lt_of_le_of_lt inside.2 (by decide))
          omega
        · cases given
      | _ => cases given
    | _ => cases given

theorem nulFree_names (names : List String) : (names.filter safeIdentifierRe).all nulFree = true := by
  rw [List.all_eq_true]
  exact fun name member => nulFree_safeIdentifier (List.mem_filter.mp member).2

theorem storable_metricUnits (metrics : Fields) :
    (metricUnits metrics).all (fun kv => nulFree kv.1 && nulFree kv.2) =
      (metricUnits metrics).all (fun kv => nulFree kv.2) := by
  rw [Bool.eq_iff_iff, List.all_eq_true, List.all_eq_true]
  refine forall₂_congr fun kv member => ?_
  rw [nulFree_safeIdentifier (metricUnits_named member), Bool.true_and]

theorem storable_decodeParams (table : Fields) :
    (decodeParams table).all (fun kv => nulFree kv.1 && Device.paramsStorable kv.2) =
      (decodeParams table).all (fun kv => kv.2.all (fun p => nulFree p.name)) := by
  have types : ∀ type ∈ ["number", "string", "boolean"], nulFree type = true := by decide
  rw [Bool.eq_iff_iff, List.all_eq_true, List.all_eq_true]
  refine forall₂_congr fun kv member => ?_
  obtain ⟨name, typed⟩ := decodeParams_named member
  rw [nulFree_safeIdentifier name, Bool.true_and, Device.paramsStorable, List.all_eq_true, List.all_eq_true]
  refine forall₂_congr fun p among => ?_
  rw [types p.type (typed p among), Bool.and_true]

theorem storable_applied {data : Fields} {c : Capabilities} (stored : Device.capabilitiesStorable c = true) :
    Device.capabilitiesStorable (applyCmds data (applyMetrics data c)) = (unitsFit data && paramsFit data) := by
  unfold Device.capabilitiesStorable at stored ⊢
  simp only [Bool.and_eq_true] at stored
  have metrics : (applyMetrics data c).metrics.all (·.all nulFree) = true ∧
      (applyMetrics data c).units.all (·.all (fun kv => nulFree kv.1 && nulFree kv.2)) = unitsFit data ∧
      (applyMetrics data c).commands = c.commands ∧ (applyMetrics data c).commandParams = c.commandParams := by
    unfold applyMetrics unitsFit
    cases Dict.get? data "metrics" with
    | none => exact ⟨stored.1.1.1, stored.1.1.2, rfl, rfl⟩
    | some value =>
      cases value with
      | obj metrics => exact ⟨nulFree_names _, storable_metricUnits metrics, rfl, rfl⟩
      | _ => exact ⟨stored.1.1.1, stored.1.1.2, rfl, rfl⟩
  generalize applyMetrics data c = told at metrics
  obtain ⟨names, units, commands, params⟩ := metrics
  unfold applyCmds paramsFit
  cases Dict.get? data "cmds" with
  | none => simp only [names, units, commands, params, stored.1.2, stored.2, Bool.true_and, Bool.and_true]
  | some value =>
    cases value with
    | obj cmds =>
      simp only [Option.all_some, names, units, nulFree_names, storable_decodeParams, Bool.true_and, Bool.and_true]
    | _ => simp only [names, units, commands, params, stored.1.2, stored.2, Bool.true_and, Bool.and_true]

section Capabilities
variable {w : World} {d : Delivery} {data : Fields} {device : Device}

theorem reportedFw_fits {version : String} (given : reportedFw data = some version) :
    varchar 32 version = true := by
  unfold reportedFw at given
  split at given
  · next s _ =>
    split at given
    · next valid =>
      cases given
      rw [Bool.and_eq_true, Bool.or_eq_true, decide_eq_true_eq, decide_eq_true_eq] at valid
      rw [varchar, Bool.and_eq_true, decide_eq_true_eq]
      refine ⟨?_, valid.1⟩
      rcases valid.2 with rfl | matched
      · decide
      · exact nulFree_of_class (by decide) matched
    · cases given
  · cases given

theorem hardwareId_reported :
    (reportedDevice w data device).hardwareId = (reportedId data).getD device.hardwareId := by
  unfold reportedDevice applyCapabilities
  cases hadTimeoutAlert device <;> rfl

theorem stored_columns (stored : capabilitiesFields.all device.accepts = true) :
    varchar 256 device.hardwareId = true ∧ device.hwRev.all (fun r => decide (r ≤ Device.smallintMax)) = true ∧
      varchar 32 device.fwVersion = true ∧ device.publishInterval ≤ Device.integerMax ∧
      Device.capabilitiesStorable device.capabilities = true ∧ varchar 256 device.alertMessage = true := by
  simpa only [capabilitiesFields, List.all_cons, List.all_nil, Device.accepts, Bool.and_true, Bool.true_and,
    Bool.and_eq_true, decide_eq_true_eq] using stored

theorem fwVersion_reported (version : varchar 32 device.fwVersion = true) :
    varchar 32 (reportedDevice w data device).fwVersion = true := by
  have column : (reportedDevice w data device).fwVersion = (reportedFw data).getD device.fwVersion := by
    unfold reportedDevice applyCapabilities
    cases hadTimeoutAlert device <;> rfl
  rw [column]
  cases given : reportedFw data with
  | none => exact version
  | some s => exact reportedFw_fits given

theorem accepts_reported (stored : capabilitiesFields.all device.accepts = true) :
    capabilitiesFields.all (reportedDevice w data device).accepts =
      ((reportedId data).all nulFree && (reportedRev data).all (fun r => decide (r ≤ Device.smallintMax)) &&
        unitsFit data && paramsFit data) := by
  obtain ⟨id, rev, version, interval, lists, message⟩ := stored_columns stored
  have idFits : varchar 256 (reportedDevice w data device).hardwareId = (reportedId data).all nulFree := by
    rw [hardwareId_reported]
    cases given : reportedId data with
    | none => exact id
    | some s => exact varchar_reportedId given
  have revFits : (reportedDevice w data device).hwRev.all (fun r => decide (r ≤ Device.smallintMax)) =
      (reportedRev data).all (fun r => decide (r ≤ Device.smallintMax)) := by
    rw [reportedDevice, hwRev_applyCapabilities]
    cases reportedRev data with
    | none => exact rev
    | some r => rfl
  have intervalFits : (reportedDevice w data device).publishInterval ≤ Device.integerMax := by
    rw [reportedDevice, publishInterval_applyCapabilities, reportedInterval_eq]
    split
    · exact Nat.zero_le _
    · cases given : fittingInterval data with
      | none => exact interval
      | some n =>
        refine (fittingInterval_within given).2.trans ?_
        decide
  have listsFit : Device.capabilitiesStorable (reportedDevice w data device).capabilities =
      (unitsFit data && paramsFit data) := by
    rw [reportedDevice, capabilities_applyCapabilities, storable_applied lists]
  have messageFits : varchar 256 (reportedDevice w data device).alertMessage = true := by
    cases timeout : hadTimeoutAlert device with
    | true =>
      rw [reportedDevice, applyCapabilities_cleared timeout]
      decide
    | false =>
      rw [reportedDevice, applyCapabilities, if_neg (Bool.eq_false_iff.mp timeout)]
      exact message
  simp only [capabilitiesFields, List.all_cons, List.all_nil, Device.accepts, Bool.and_true, Bool.true_and, idFits,
    revFits, fwVersion_reported version, decide_eq_true intervalFits, listsFit, messageFits, Bool.and_assoc]

theorem copyFields_reported :
    (reportedDevice w data device).copyFields capabilitiesFields device = reportedDevice w data device := by
  have written : ∀ saved : Device, saved.copyFields capabilitiesFields device =
      { device with
        hardwareId := saved.hardwareId, hardwareCode := saved.hardwareCode, hwRev := saved.hwRev
        otaCapable := saved.otaCapable, diagCapable := saved.diagCapable, fwVersion := saved.fwVersion
        publishInterval := saved.publishInterval, capabilities := saved.capabilities
        capabilitiesRequestedAt := saved.capabilitiesRequestedAt, alertLevel := saved.alertLevel
        alertMessage := saved.alertMessage, alertUpdatedAt := saved.alertUpdatedAt } := by
    intro saved
    simp only [Device.copyFields, capabilitiesFields, List.foldl_cons, List.foldl_nil, Device.copyField]
  rw [written, reportedDevice, applyCapabilities]
  cases hadTimeoutAlert device with
  | true =>
    rw [if_pos rfl]
    rfl
  | false =>
    rw [if_neg Bool.false_ne_true]

/-- The columns of a valid row stay within their ranges whatever a report holds. -/
theorem within_fittingReport (stored : capabilitiesFields.all device.accepts = true) :
    WithinColumns device (fittingReport w data device) := by
  obtain ⟨id, -, version, -⟩ := stored_columns stored
  refine ⟨?_, ?_, ?_, fwVersion_reported version⟩
  · change (fittingInterval data).getD device.publishInterval = device.publishInterval ∨
      1 ≤ (fittingInterval data).getD device.publishInterval ∧
        (fittingInterval data).getD device.publishInterval ≤ 86400
    cases given : fittingInterval data with
    | none => exact .inl rfl
    | some n => exact .inr (fittingInterval_within given)
  · change (fittingRev data).or device.hwRev = device.hwRev ∨
      ∃ r, (fittingRev data).or device.hwRev = some r ∧ r ≤ Device.smallintMax
    rw [fittingRev_eq]
    cases given : (reportedRev data).filter (fun r => decide (r ≤ Device.smallintMax)) with
    | none => exact .inl rfl
    | some r => exact .inr ⟨r, rfl, by simpa using (Option.filter_eq_some_iff.mp given).2⟩
  · change varchar 256 ((fittingId data).getD device.hardwareId) = true
    rw [fittingId_eq]
    cases given : (reportedId data).filter nulFree with
    | none => exact id
    | some s =>
      obtain ⟨told, nul⟩ := Option.filter_eq_some_iff.mp given
      exact (varchar_reportedId told).trans nul

theorem reported_fits_iff (id : (reportedId data).all nulFree = true)
    (rev : (reportedRev data).all (fun r => decide (r ≤ Device.smallintMax)) = true) :
    reportedDevice w data device = fittingReport w data device ↔
      (!fractional data || decide (device.publishInterval = 0)) = true := by
  have sameId : (fittingId data).getD device.hardwareId = (reportedDevice w data device).hardwareId := by
    rw [hardwareId_reported, fittingId_eq, filter_of_all id]
  have sameRev : (fittingRev data).or device.hwRev = (reportedDevice w data device).hwRev := by
    rw [reportedDevice, hwRev_applyCapabilities, fittingRev_eq, filter_of_all rev]
  have interval : (reportedDevice w data device).publishInterval =
      (reportedInterval data).getD device.publishInterval :=
    publishInterval_applyCapabilities _ data device
  have byInterval : reportedDevice w data device = fittingReport w data device ↔
      (reportedInterval data).getD device.publishInterval =
        (fittingInterval data).getD device.publishInterval := by
    refine ⟨fun same => interval.symm.trans (congrArg Device.publishInterval same), fun same => ?_⟩
    rw [fittingReport, sameId, sameRev, ← same, ← interval]
  rw [byInterval, reportedInterval_eq]
  cases fraction : fractional data with
  | false => simp
  | true =>
    rw [if_pos rfl, fittingInterval_fractional fraction]
    simp [eq_comm]

/-- A report is stored within the ranges exactly if each field the handler keeps fits. -/
theorem stores_within_iff (capabilities : d.kind = .capabilities) (object : d.payload.object? = some data)
    (known : w.device? d.deviceId = some device) (stored : capabilitiesFields.all device.accepts = true) :
    StoresWithin w d data device ↔ fitsColumns data device = true := by
  have completes : (outcome (handleMessage d.env d.kind d.deviceType d.deviceId d.payload) w).1.isOk =
      capabilitiesFields.all (reportedDevice w data device).accepts := by
    rw [capabilities]
    exact completes_capabilities object known
  have fits := @accepts_reported w data device stored
  unfold fitsColumns
  cases accepted : capabilitiesFields.all (reportedDevice w data device).accepts with
  | false =>
    rw [accepted] at completes fits
    rw [← fits]
    refine iff_of_false (fun stores => ?_) (by simp)
    have done := stores.completes
    rw [completes] at done
    cases done
  | true =>
    have row : (deliver w d).device? d.deviceId = some (reportedDevice w data device) := by
      have saved := deliver_capabilities (w := w) (d := d) capabilities
      rw [show reported w d = some (reportedDevice w data device, capabilitiesFields) by
        simp only [reported, object, known, reportedDevice], saveReport_some, if_pos accepted] at saved
      refine (congrArg (fun t => t.get? d.deviceId) saved).trans ?_
      exact (device?_saved known deviceId_applyCapabilities _).trans (congrArg some copyFields_reported)
    rw [accepted] at completes fits
    rw [← fits, Bool.true_and]
    simp only [eq_comm (a := true), Bool.and_eq_true] at fits
    rw [← reported_fits_iff (w := w) fits.1.1.1 fits.1.1.2]
    refine ⟨fun stores => ?_, fun same => ⟨completes, _, row, same ▸ within_fittingReport stored, same⟩⟩
    obtain ⟨r, found, -, fitting⟩ := stores.row
    rw [row] at found
    exact (Option.some.inj found).trans fitting

end Capabilities

def revisionReport (rev : Int) : Fields :=
  [("id", .str "0xA1"), ("hwrev", .int rev), ("fw", .str "1.2.0"), ("intrvl", .int 600)]

theorem terrace_stored :
    StoresWithin terrace (terraceMessage .capabilities (revisionReport 3)) (revisionReport 3) terraceDevice :=
  (@stores_within_iff terrace (terraceMessage .capabilities (revisionReport 3)) (revisionReport 3) terraceDevice
    rfl (by decide) (by decide) (by decide)).mpr (by decide)

/-- The range tested is the one of an unsigned word, the one of the column is not. -/
theorem terrace_unstored :
    (terraceMessage .capabilities (revisionReport 40000)).payload.object? = some (revisionReport 40000) ∧
    terrace.device? "terrace01" = some terraceDevice ∧
    capabilitiesFields.all terraceDevice.accepts = true ∧
    (deliver terrace (terraceMessage .capabilities (revisionReport 40000))).device? "terrace01" =
      some terraceDevice ∧
    ¬ StoresWithin terrace (terraceMessage .capabilities (revisionReport 40000)) (revisionReport 40000)
      terraceDevice := by
  refine ⟨by decide, by decide, by decide, by decide +kernel, fun stores => ?_⟩
  exact absurd stores.completes (by decide +kernel)

end SensorServer
