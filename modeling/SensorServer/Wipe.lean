import SensorServer.Columns
import SensorServer.Replies

/-! A calibration store that was wiped: the capabilities message that says so has the
mirror sent again, and the report of the empty store replaces the mirror. -/
namespace SensorServer
open Program

structure NamesEmpty (id : String) (d : Delivery) (data : Fields) : Prop where
  kind : d.kind = .capabilities
  own : d.deviceId = id
  object : d.payload.object? = some data
  empty : storeEmpty data = true

structure ReportsEmpty (id : String) (d : Delivery) : Prop where
  kind : d.kind = .calibration
  own : d.deviceId = id
  object : d.payload.object? = some []

def Bystander (d : Delivery) : Prop := d.kind = .sensors ∨ d.kind = .status ∨ d.kind = .diag

/-- The two messages of a wiped store in either order, and any bystanders around them. -/
structure Wiped (id : String) (before : List Delivery) (reset : Delivery) (data : Fields)
    (rest : List Delivery) : Prop where
  reset : NamesEmpty id reset data
  others : ∀ d ∈ before ++ rest, ReportsEmpty id d ∨ Bystander d
  reported : ∃ d ∈ before ++ rest, ReportsEmpty id d

/-- What handling a message publishes. -/
def replies (w : World) (d : Delivery) : List (String × Json) :=
  ((deliver w d).published.drop w.published.length).map Publication.content

def mirror (w : World) (id : String) : Option Fields := (w.device? id).map Device.calibration

def Repushed (w : World) (d : Delivery) (device : Device) : Prop :=
  ∀ kv ∈ device.calibration, (commandTopic device, repushCommand kv.1 kv.2) ∈ replies w d

/-- Every entry is sent again, and the mirror is what it was. -/
def Survives (w : World) (before : List Delivery) (reset : Delivery) (rest : List Delivery)
    (device : Device) : Prop :=
  Repushed (Run.run deliver w before) reset device ∧
    mirror (Run.run deliver w (before ++ reset :: rest)) device.deviceId = some device.calibration

section Steps
variable {id : String} {w : World} {d : Delivery}

theorem calibration_spared (kind : d.kind = .sensors ∨ d.kind = .status ∨ d.kind = .diag ∨ d.kind = .capabilities)
    (saved : Device) (fields : List DeviceField) (among : ∀ f ∈ fields, f ∈ d.kind.fields) (row : Device) :
    (saved.copyFields fields row).calibration = row.calibration := by
  have absent : DeviceField.calibration ∉ fields := by
    intro named
    have listed := among _ named
    rcases kind with kind | kind | kind | kind <;> rw [kind] at listed <;> revert listed <;> decide
  rw [Device.calibration_copyFields, if_neg absent]

theorem mirror_kept {row : Device} (known : w.device? id = some row)
    (kind : d.kind = .sensors ∨ d.kind = .status ∨ d.kind = .diag ∨ d.kind = .capabilities) :
    mirror (deliver w d) id = some row.calibration := by
  have kept := @keepsColumn_deliver _ Device.calibration id d (fun _ => calibration_spared kind) w
  obtain ⟨new, found, same⟩ := kept row known
  rw [mirror, found, Option.map_some, same]

/-- A report of an empty store empties the mirror. -/
theorem mirror_emptied (empty : ReportsEmpty id d) (known : (w.device? id).isSome = true) :
    mirror (deliver w d) id = some [] := by
  obtain ⟨row, found⟩ := Option.isSome_iff_exists.mp known
  have saved := @deliver_report w d (by rw [empty.kind]; rfl)
  have asks : report w d = some ({ row with calibration := [], lastSeen := some d.env.now },
      [.calibration, .lastSeen]) := by
    rw [report, empty.object, empty.own, found]
    simp [heard, empty.kind, calibrationMirror]
  rw [asks, saveReport_some] at saved
  have taken : [DeviceField.calibration, .lastSeen].all
      ({ row with calibration := [], lastSeen := some d.env.now } : Device).accepts = true := rfl
  rw [if_pos taken] at saved
  rw [mirror, World.device?, saved.devices]
  have key : row.deviceId = id := Table.key_get? found
  have stored := device?_saveDevice w { row with calibration := [], lastSeen := some d.env.now }
    [.calibration, .lastSeen] id
  rw [found, Option.map_some, if_pos rfl] at stored
  exact congrArg (Option.map Device.calibration) stored

end Steps

section Runs
variable {id : String} {w : World} {device : Device}

theorem mirror_run {ds : List Delivery} {m : Fields} (each : ∀ d ∈ ds, ReportsEmpty id d ∨ Bystander d)
    (start : mirror w id = some m) :
    (∀ d ∈ ds, ¬ ReportsEmpty id d) ∧ mirror (Run.run deliver w ds) id = some m ∨
      (∃ d ∈ ds, ReportsEmpty id d) ∧ mirror (Run.run deliver w ds) id = some [] := by
  induction ds generalizing w m with
  | nil => exact .inl ⟨fun _ member => absurd member List.not_mem_nil, start⟩
  | cons d ds ih =>
    have later : ∀ e ∈ ds, ReportsEmpty id e ∨ Bystander e :=
      fun e member => each e (List.mem_cons_of_mem _ member)
    obtain ⟨row, known, same⟩ := Option.map_eq_some_iff.mp start
    by_cases empty : ReportsEmpty id d
    · have emptied := mirror_emptied empty (by rw [known]; rfl)
      refine .inr ⟨⟨d, List.mem_cons_self, empty⟩, ?_⟩
      rcases ih later emptied with ⟨-, ends⟩ | ⟨-, ends⟩ <;> exact ends
    · have quiet := (each d List.mem_cons_self).resolve_left empty
      have kept : mirror (deliver w d) id = some m := by
        rw [← same]
        exact mirror_kept known (by rcases quiet with k | k | k <;> simp [k])
      rcases ih later kept with ⟨none_, ends⟩ | ⟨⟨e, member, report⟩, ends⟩
      · refine .inl ⟨fun e member => ?_, ends⟩
        rcases List.mem_cons.mp member with rfl | inside
        · exact empty
        · exact none_ e inside
      · exact .inr ⟨⟨e, List.mem_cons_of_mem _ member, report⟩, ends⟩

theorem topic_run {ds : List Delivery} (known : w.device? id = some device) :
    ∃ row, (Run.run deliver w ds).device? id = some row ∧ commandTopic row = commandTopic device :=
  @keepsColumn_run _ commandTopic id w ds
    (fun _ _ saved fields _ row => by simp [commandTopic]) device known

/-- Whether the capabilities message passes the save of the row. -/
def resetStored (w : World) (d : Delivery) (data : Fields) : Bool :=
  match w.device? d.deviceId with
  | some row => capabilitiesFields.all (reportedDevice w data row).accepts
  | none => false

theorem replies_reset {d : Delivery} {data : Fields} (reset : NamesEmpty id d data) {row : Device}
    (known : w.device? id = some row) :
    replies w d = if resetStored w d data then repushes row else [] := by
  obtain ⟨sent, published, contents⟩ := deliver_capabilities_sends reset.kind reset.object (reset.own ▸ known)
  have same : repushes (reportedDevice w data row) = repushes row := by
    unfold repushes commandTopic reportedDevice
    rw [calibration_applyCapabilities, deviceType_applyCapabilities, deviceId_applyCapabilities]
  rw [replies, published, List.drop_left, contents, reset.empty, Bool.and_true, same, resetStored,
    reset.own, known]

/-- The wiped device loses its mirror, and gets it back only if it is told so before the report is read. -/
theorem wiped_mirror_lost {before rest : List Delivery} {reset : Delivery} {data : Fields}
    (wiped : Wiped id before reset data rest) (known : w.device? id = some device)
    (some_ : device.calibration ≠ []) (numeric : ∀ kv ∈ device.calibration, kv.2.isNumber = true) :
    mirror (Run.run deliver w (before ++ reset :: rest)) id = some [] ∧
    (Repushed (Run.run deliver w before) reset device ↔
      (∀ d ∈ before, ¬ ReportsEmpty id d) ∧ resetStored (Run.run deliver w before) reset data = true) ∧
    ¬ Survives w before reset rest device := by
  have own : device.deviceId = id := Table.key_get? known
  obtain ⟨row, found, topic⟩ := @topic_run id w device before known
  have first := mirror_run (fun d member => wiped.others d (List.mem_append_left _ member))
    (show mirror w id = some device.calibration by rw [mirror, known]; rfl)
  have held : mirror (Run.run deliver w before) id = some row.calibration := by rw [mirror, found]; rfl
  rw [held, Option.some.injEq, Option.some.injEq] at first
  have last := mirror_run (fun d member => wiped.others d (List.mem_append_right _ member))
    (show mirror (deliver (Run.run deliver w before) reset) id = some row.calibration from
      mirror_kept found (by simp [wiped.reset.kind]))
  have emptied : mirror (Run.run deliver w (before ++ reset :: rest)) id = some [] := by
    rw [Run.run_append, Run.run_cons]
    rcases last with ⟨noneAfter, ends⟩ | ⟨-, ends⟩
    · rcases first with ⟨noneBefore, -⟩ | ⟨-, empty⟩
      · obtain ⟨d, member, report⟩ := wiped.reported
        rcases List.mem_append.mp member with inside | inside
        · exact absurd report (noneBefore d inside)
        · exact absurd report (noneAfter d inside)
      · rw [ends, empty]
    · exact ends
  refine ⟨emptied, ?_, ?_⟩
  · unfold Repushed
    rw [replies_reset wiped.reset found]
    constructor
    · intro all
      obtain ⟨kv, member⟩ := List.exists_mem_of_ne_nil _ some_
      have sent := all kv member
      split at sent
      · next taken =>
        rcases first with ⟨noneBefore, -⟩ | ⟨-, empty⟩
        · exact ⟨noneBefore, taken⟩
        · simp [repushes, empty] at sent
      · exact absurd sent List.not_mem_nil
    · rintro ⟨noneBefore, taken⟩ kv member
      rw [if_pos taken]
      rcases first with ⟨-, same⟩ | ⟨⟨d, inside, report⟩, -⟩
      · refine List.mem_map.mpr ⟨kv, List.mem_filter.mpr ⟨same ▸ member, numeric kv member⟩, ?_⟩
        rw [topic]
      · exact absurd report (noneBefore d inside)
  · rintro ⟨-, survived⟩
    rw [own, emptied] at survived
    exact some_ (Option.some.inj survived).symm

end Runs

/-- A tuned device with the offset of its thermometer. -/
def tuned : Device := { deviceId := "living01", createdAt := 0, calibration := [("cal_temp", .float (.finite 1))] }

def tunedWorld : World := World.empty.apply (.createDevice tuned)

def emptyReport : Delivery := ⟨{ now := seconds 20 }, .calibration, "thermo", "living01", ⟨2, .value (.obj [])⟩⟩

def resetReport : Delivery :=
  ⟨{ now := seconds 21 }, .capabilities, "thermo", "living01", ⟨9, .value (.obj [("cal", .int 0)])⟩⟩

theorem tuned_wiped : Wiped "living01" [emptyReport] resetReport [("cal", .int 0)] [] where
  reset := ⟨rfl, rfl, rfl, rfl⟩
  others := by
    intro d member
    rw [List.append_nil, List.mem_singleton] at member
    subst member
    exact .inl ⟨rfl, rfl, rfl⟩
  reported := ⟨emptyReport, List.mem_singleton.mpr rfl, ⟨rfl, rfl, rfl⟩⟩

theorem tuned_lost :
    mirror (Run.run deliver tunedWorld [emptyReport, resetReport]) "living01" = some [] :=
  (wiped_mirror_lost tuned_wiped (show tunedWorld.device? "living01" = some tuned from rfl)
    (by decide) (by decide)).1

theorem tuned_not_restored :
    ¬ Survives tunedWorld [emptyReport] resetReport [] tuned ∧
      replies (Run.run deliver tunedWorld [emptyReport]) resetReport = [] := by
  have emptied : mirror (Run.run deliver tunedWorld ([emptyReport] ++ [resetReport])) tuned.deviceId =
      some [] := by decide +kernel
  refine ⟨?_, by decide +kernel⟩
  rintro ⟨-, survived⟩
  rw [emptied] at survived
  cases survived

end SensorServer
