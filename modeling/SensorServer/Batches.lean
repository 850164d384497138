import SensorServer.Course

/-! The batch of readings a sensors message stores, entry by entry. -/
namespace SensorServer
open Program

section Selections
variable {α β : Type} {f g : α → Option β} (looser : ∀ a b, f a = some b → g a = some b)
include looser

theorem length_filterMap_le (l : List α) : (l.filterMap f).length ≤ (l.filterMap g).length := by
  induction l with
  | nil => exact le_rfl
  | cons a l ih =>
    cases first : f a with
    | some b =>
      rw [List.filterMap_cons_some first, List.filterMap_cons_some (looser a b first)]
      exact Nat.succ_le_succ ih
    | none =>
      rw [List.filterMap_cons_none first]
      refine ih.trans ?_
      rw [List.filterMap_cons]
      split <;> simp

theorem filterMap_eq_iff (l : List α) : l.filterMap f = l.filterMap g ↔ ∀ a ∈ l, f a = g a := by
  refine ⟨fun same => ?_, List.filterMap_congr⟩
  induction l with
  | nil => exact fun a member => absurd member List.not_mem_nil
  | cons a l ih =>
    have head : f a = g a ∧ l.filterMap f = l.filterMap g := by
      cases first : f a with
      | some b =>
        rw [List.filterMap_cons_some first, List.filterMap_cons_some (looser a b first)] at same
        exact ⟨(looser a b first).symm, List.tail_eq_of_cons_eq same⟩
      | none =>
        rw [List.filterMap_cons_none first] at same
        cases second : g a with
        | none => exact ⟨rfl, same.trans (List.filterMap_cons_none second)⟩
        | some b =>
          -- the looser selection has one element more
          have fewer := length_filterMap_le looser l
          rw [same, List.filterMap_cons_some second, List.length_cons] at fewer
          omega
    exact List.forall_mem_cons.mpr ⟨head.1, ih head.2⟩

end Selections

/-- `[A-Za-z0-9_-]{1,64}`, nothing before or after it. -/
def strictName (name : String) : Bool :=
  decide (1 ≤ pyLen name) && decide (pyLen name ≤ maxMetricNameLen) && name.toList.all identifierChar

/-- A final newline, which `$` allows. -/
def trailingNewline (name : String) : Bool := decide (name.toList.getLast? = some '\n')

theorem trailingNewline_strict {name : String} (strict : strictName name = true) :
    trailingNewline name = false := by
  simp only [strictName, Bool.and_eq_true] at strict
  rw [trailingNewline, decide_eq_false_iff_not]
  intro last
  have allowed := List.all_eq_true.mp strict.2 '\n' (List.mem_of_getLast? last)
  exact absurd allowed (by decide)

theorem strictName_iff {name : String} :
    strictName name = true ↔ metricName name = true ∧ trailingNewline name = false := by
  have plain : trailingNewline name = false → strictName name = metricName name := by
    intro ends
    rw [trailingNewline, decide_eq_false_iff_not] at ends
    unfold strictName metricName safeIdentifierRe matchesClass lineBody pyLen
    rw [if_neg ends, Bool.eq_iff_iff]
    simp only [Bool.and_eq_true, decide_eq_true_eq, Option.all_none, and_true]
    exact ⟨fun h => ⟨h.1.2, h.1.1, h.2⟩, fun h => ⟨⟨h.2.1, h.1⟩, h.2.2⟩⟩
  refine ⟨fun strict => ?_, fun h => (plain h.2).trans h.1⟩
  have ends := trailingNewline_strict strict
  exact ⟨(plain ends).symm.trans strict, ends⟩

def entryReading (env : Env) (deviceId : String) (entry : String × Json) : Option SensorReading :=
  if strictName entry.1 then
    match pyFloat env entry.2 with
    | .value f => some ⟨env.now, deviceId, resolveAlias entry.1, f⟩
    | .skipped | .overflow => none
  else none

def takenReading (env : Env) (deviceId : String) (entry : String × Json) : Option SensorReading :=
  if metricName entry.1 then
    match pyFloat env entry.2 with
    | .value f => some ⟨env.now, deviceId, resolveAlias entry.1, f⟩
    | .skipped | .overflow => none
  else none

theorem acceptedReadings_eq (env : Env) (deviceId : String) (data : Fields) :
    acceptedReadings env deviceId data = data.filterMap (takenReading env deviceId) := by
  induction data with
  | nil => rfl
  | cons entry rest ih =>
    obtain ⟨raw, value⟩ := entry
    unfold acceptedReadings
    rw [List.filterMap_cons, takenReading, ih]
    cases metricName raw with
    | false => rfl
    | true => cases pyFloat env value <;> rfl

theorem takenReading_of_entry {env : Env} {deviceId : String} {entry : String × Json} {r : SensorReading}
    (reading : entryReading env deviceId entry = some r) : takenReading env deviceId entry = some r := by
  unfold entryReading at reading
  split at reading
  · next strict =>
    rw [takenReading, if_pos (strictName_iff.mp strict).1]
    exact reading
  · cases reading

def takes (env : Env) (entry : String × Json) : Bool :=
  metricName entry.1 && match pyFloat env entry.2 with
    | .value _ => true
    | .skipped | .overflow => false

def stray (env : Env) (entry : String × Json) : Bool := takes env entry && trailingNewline entry.1

theorem entryReading_eq_iff {env : Env} {deviceId : String} {entry : String × Json} :
    entryReading env deviceId entry = takenReading env deviceId entry ↔ stray env entry = false := by
  unfold entryReading takenReading stray takes
  cases strict : strictName entry.1 with
  | true =>
    obtain ⟨name, ends⟩ := strictName_iff.mp strict
    rw [name, ends, Bool.and_false]
    exact iff_of_true rfl rfl
  | false =>
    cases name : metricName entry.1 with
    | false => exact iff_of_true rfl rfl
    | true =>
      have ends : trailingNewline entry.1 = true := by
        by_contra plain
        rw [strictName_iff.mpr ⟨name, Bool.eq_false_iff.mpr plain⟩] at strict
        cases strict
      rw [ends]
      cases pyFloat env entry.2 <;> simp

/-- Of an approved device the entries with a valid name and a convertible value are stored, in
their order, of any other device none. -/
structure EntryByEntry (w : World) (d : Delivery) (data : Fields) : Prop where
  approved : ∀ row, w.device? d.deviceId = some row → row.isApproved = true →
    (deliver w d).db.readings = w.db.readings ++ data.filterMap (entryReading d.env d.deviceId)
  unapproved : (∀ row, w.device? d.deviceId = some row → row.isApproved = false) → Quiet w (deliver w d)

/-- When the batch goes through no entry is a stray one, else none is valid. -/
def takesEntries (w : World) (d : Delivery) (data : Fields) : Bool :=
  match w.device? d.deviceId with
  | none => true
  | some row => !row.isApproved ||
    if storesReadings w d.env row data then data.all (fun entry => !stray d.env entry)
    else data.all (fun entry => (entryReading d.env d.deviceId entry).isNone)

theorem entry_by_entry_iff {w : World} {d : Delivery} {data : Fields} (sensors : d.kind = .sensors)
    (object : d.payload.object? = some data) :
    EntryByEntry w d data ↔ takesEntries w d data = true := by
  have others := fun unapproved => @quiet_unapproved w d data sensors object unapproved
  unfold takesEntries
  cases known : w.device? d.deviceId with
  | none =>
    refine iff_of_true ⟨fun row found => ?_, others⟩ rfl
    rw [known] at found
    cases found
  | some row =>
    have only : ∀ r, w.device? d.deviceId = some r → r = row := fun r found => by
      rw [known] at found
      exact (Option.some.inj found).symm
    dsimp only
    cases approved : row.isApproved with
    | false =>
      refine iff_of_true ⟨fun r found ok => ?_, others⟩ rfl
      rw [only r found, approved] at ok
      cases ok
    | true =>
      have stored := readings_sensors sensors object known
      have byEntry : EntryByEntry w d data ↔
          (deliver w d).db.readings = w.db.readings ++ data.filterMap (entryReading d.env d.deviceId) := by
        refine ⟨fun h => h.approved row known approved, fun h => ⟨fun _ _ _ => h, fun drafted => ?_⟩⟩
        have drafted_ := drafted row known
        rw [approved] at drafted_
        cases drafted_
      rw [byEntry, stored, List.append_cancel_left_eq, Bool.not_true, Bool.false_or]
      cases storesReadings w d.env row data with
      | true =>
        rw [if_pos rfl, if_pos rfl, acceptedReadings_eq, eq_comm,
          filterMap_eq_iff (fun _ _ => takenReading_of_entry) data, List.all_eq_true]
        simp only [entryReading_eq_iff, Bool.not_eq_true']
      | false =>
        rw [if_neg Bool.false_ne_true, if_neg Bool.false_ne_true, eq_comm, List.filterMap_eq_nil_iff,
          List.all_eq_true]
        simp only [Option.isNone_iff_eq_none]

def terraceDevice : Device :=
  { deviceId := "terrace01", deviceType := "thermo", createdAt := 0, lastSeen := some 0, isApproved := true }

def terrace : World := World.empty.apply (.createDevice terraceDevice)

def terraceMessage (kind : MessageKind) (data : Fields) : Delivery where
  env := { now := seconds 30 }
  kind := kind
  deviceType := "thermo"
  deviceId := "terrace01"
  payload := ⟨500, .value (.obj data)⟩

def comfort : Fields := [("temp", .float (.finite 21)), ("humi", .float (.finite 55))]

def overflowing : Fields := [("temp", .float (.finite 21)), ("humi", .int (10 ^ 400))]

theorem terrace_by_entry : EntryByEntry terrace (terraceMessage .sensors comfort) comfort :=
  (@entry_by_entry_iff terrace (terraceMessage .sensors comfort) comfort rfl (by decide)).mpr (by decide)

/-- An integer of 401 digits takes the temperature before it along. -/
theorem terrace_overflow :
    (terraceMessage .sensors overflowing).payload.object? = some overflowing ∧
    (deliver terrace (terraceMessage .sensors overflowing)).db.readings = [] ∧
    ¬ EntryByEntry terrace (terraceMessage .sensors overflowing) overflowing := by
  have lost : (deliver terrace (terraceMessage .sensors overflowing)).db.readings = [] := by decide +kernel
  refine ⟨by decide +kernel, lost, fun byEntry => ?_⟩
  have stored := byEntry.approved terraceDevice (by decide) rfl
  rw [lost] at stored
  exact absurd stored (by decide +kernel)

/-- The readings the message adds differ in time, device or metric. -/
def DistinctBatch (w : World) (d : Delivery) : Prop :=
  ∃ batch, (deliver w d).db.readings = w.db.readings ++ batch ∧
    (batch.map (fun r => (r.time, r.deviceId, r.metric))).Nodup

/-- No two entries taken are synonyms. -/
def Unambiguous (env : Env) (data : Fields) : Prop :=
  (data.filter (takes env)).Pairwise (fun a b => resolveAlias a.1 ≠ resolveAlias b.1)

instance (env : Env) (data : Fields) : Decidable (Unambiguous env data) :=
  inferInstanceAs (Decidable (List.Pairwise _ _))

theorem keys_acceptedReadings (env : Env) (deviceId : String) (data : Fields) :
    (acceptedReadings env deviceId data).map (fun r => (r.time, r.deviceId, r.metric)) =
      (data.filter (takes env)).map (fun entry => (env.now, deviceId, resolveAlias entry.1)) := by
  induction data with
  | nil => rfl
  | cons entry rest ih =>
    obtain ⟨raw, value⟩ := entry
    unfold acceptedReadings
    rw [List.filter_cons]
    unfold takes
    cases metricName raw with
    | false => exact ih
    | true =>
      cases pyFloat env value with
      | skipped | overflow => exact ih
      | value f => exact congrArg (_ :: ·) ih

theorem nodup_acceptedReadings_iff {env : Env} {deviceId : String} {data : Fields} :
    ((acceptedReadings env deviceId data).map (fun r => (r.time, r.deviceId, r.metric))).Nodup ↔
      Unambiguous env data := by
  rw [keys_acceptedReadings, List.Nodup, List.pairwise_map]
  simp [Unambiguous]

/-- A message stores one reading a metric exactly if its batch is refused or has no synonyms. -/
theorem distinct_batch_iff {w : World} {d : Delivery} {data : Fields} (sensors : d.kind = .sensors)
    (object : d.payload.object? = some data) :
    DistinctBatch w d ↔ ∀ row, w.device? d.deviceId = some row →
      storesReadings w d.env row data = true → Unambiguous d.env data := by
  cases known : w.device? d.deviceId with
  | none =>
    have quiet := quiet_unapproved sensors object (fun row found => by rw [known] at found; cases found)
    exact iff_of_true ⟨[], by simpa using quiet.readings, List.nodup_nil⟩ (fun row found => by cases found)
  | some row =>
    have stored := readings_sensors sensors object known
    unfold DistinctBatch
    simp only [stored, List.append_cancel_left_eq, exists_eq_left', Option.some.injEq, forall_eq']
    cases storesReadings w d.env row data with
    | false => simp
    | true => simpa using nodup_acceptedReadings_iff

theorem terrace_distinct : DistinctBatch terrace (terraceMessage .sensors comfort) :=
  (@distinct_batch_iff terrace (terraceMessage .sensors comfort) comfort rfl (by decide)).mpr
    (fun _ _ _ => by decide)

def synonymous : Fields := [("temp", .float (.finite 21)), ("temperature", .float (.finite 22))]

theorem terrace_synonyms :
    (deliver terrace (terraceMessage .sensors synonymous)).db.readings =
      [⟨seconds 30, "terrace01", "temperature", .finite 21⟩, ⟨seconds 30, "terrace01", "temperature", .finite 22⟩] ∧
    ¬ DistinctBatch terrace (terraceMessage .sensors synonymous) := by
  have stored : (deliver terrace (terraceMessage .sensors synonymous)).db.readings =
      [⟨seconds 30, "terrace01", "temperature", .finite 21⟩,
        ⟨seconds 30, "terrace01", "temperature", .finite 22⟩] := by
    decide
  refine ⟨stored, ?_⟩
  rintro ⟨batch, added, distinct⟩
  rw [stored] at added
  have all : batch = _ := added.symm
  rw [all] at distinct
  exact absurd distinct (by decide)

end SensorServer
