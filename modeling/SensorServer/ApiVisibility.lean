import SensorServer.ReadApi

/-! Two databases that differ only in devices that are not approved and in their rows:
no request to the read API tells them apart. -/
namespace SensorServer

section Same
variable {ρ : Type}

def approvedRows (db : Db) (owner : ρ → String) (table : List ρ) : List ρ :=
  table.filter (fun r => (approvedDeviceIds db).contains (owner r))

/-- The databases differ only in unapproved devices and in rows of devices that are not approved. -/
structure SameApproved (s t : Db) : Prop where
  devices : s.devices.rows.filter Device.isApproved = t.devices.rows.filter Device.isApproved
  readings : approvedRows s SensorReading.deviceId s.readings = approvedRows t SensorReading.deviceId t.readings
  rollups : ∀ view, approvedRows s RollupRow.deviceId (rollupRows s view) =
    approvedRows t RollupRow.deviceId (rollupRows t view)

variable {s t : Db}

theorem SameApproved.ids (alike : SameApproved s t) : approvedDeviceIds s = approvedDeviceIds t :=
  congrArg (List.map Device.deviceId) alike.devices

theorem any_get?_iff (db : Db) (deviceId : String) :
    (db.devices.get? deviceId).any Device.isApproved = (approvedDeviceIds db).contains deviceId := by
  rw [Bool.eq_iff_iff]
  simp only [Option.any_eq_true, List.contains_iff_mem, approvedDeviceIds, List.mem_map, List.mem_filter]
  constructor
  · rintro ⟨d, found, approved⟩
    obtain ⟨member, key⟩ := Table.get?_eq_some.mp found
    exact ⟨d, ⟨member, approved⟩, key⟩
  · rintro ⟨d, ⟨member, approved⟩, key⟩
    exact ⟨d, Table.get?_eq_some.mpr ⟨member, key⟩, approved⟩

theorem SameApproved.resolved (alike : SameApproved s t) (query : QueryDict) :
    resolveDevices s query = resolveDevices t query := by
  unfold resolveDevices
  dsimp only
  rw [any_get?_iff, any_get?_iff, alike.ids]

theorem resolveDevices_approved {query : QueryDict} {deviceIds : List String}
    (resolved : resolveDevices s query = .ok (some deviceIds)) :
    ∀ id ∈ deviceIds, id ∈ approvedDeviceIds s := by
  unfold resolveDevices at resolved
  dsimp only at resolved
  split at resolved
  · cases resolved
    exact fun _ member => member
  · split at resolved
    · cases resolved
    · split at resolved
      · next approved =>
        cases resolved
        intro id member
        rw [List.mem_singleton.mp member]
        rw [any_get?_iff] at approved
        exact List.contains_iff_mem.mp approved
      · cases resolved

theorem select_approved (columns : Columns ρ) (table : List ρ) {deviceIds : List String}
    (approved : ∀ id ∈ deviceIds, id ∈ approvedDeviceIds s) (metric : String) (start stop : Time) :
    columns.select (approvedRows s columns.deviceId table) deviceIds metric start stop =
      columns.select table deviceIds metric start stop := by
  unfold Columns.select approvedRows
  rw [List.filter_filter]
  refine congrArg _ (List.filter_congr (fun r _ => ?_))
  unfold Columns.wanted
  cases listed : deviceIds.contains (columns.deviceId r) with
  | false => rfl
  | true =>
    have inside := approved _ (List.contains_iff_mem.mp listed)
    rw [List.contains_iff_mem.mpr inside, Bool.and_true]

theorem SameApproved.listed {columns : Columns ρ} {left right : List ρ} (alike : SameApproved s t)
    (same : approvedRows s columns.deviceId left = approvedRows t columns.deviceId right)
    (element : ρ → ListedRow) (reply : Page → ReadReply) (env : Env) (query : QueryDict) :
    listView columns left element reply env s query = listView columns right element reply env t query := by
  unfold listView
  cases parseRange env query with
  | error e => rfl
  | ok parsed =>
    cases parsed with
    | error detail => rfl
    | ok window =>
      obtain ⟨start, stop⟩ := window
      dsimp only [bind, Except.bind]
      rw [← alike.resolved query]
      cases resolved : resolveDevices s query with
      | error e => rfl
      | ok found =>
        cases found with
        | none => rfl
        | some deviceIds =>
          have inside := resolveDevices_approved resolved
          have rows : ∀ metric first last, columns.select left deviceIds metric first last =
              columns.select right deviceIds metric first last := by
            intro metric first last
            rw [← select_approved columns left inside, same, select_approved columns right (alike.ids ▸ inside)]
          dsimp only
          rw [rows]

end Same

/-- Whatever a client asks, unapproved devices and their rows change nothing in the answer. -/
theorem unapproved_invisible {s t : Db} (alike : SameApproved s t) (env : ReadEnv) (apiKeys : List ApiKey)
    (request : ReadRequest) :
    devicesView env s apiKeys request = devicesView env t apiKeys request ∧
    readingsView env s apiKeys request = readingsView env t apiKeys request ∧
    aggregatesView env s apiKeys request = aggregatesView env t apiKeys request := by
  refine ⟨?_, ?_, ?_⟩
  · unfold devicesView
    rw [alike.devices]
  · unfold readingsView
    rw [alike.listed alike.readings]
  · unfold aggregatesView
    dsimp only
    cases aggregateTables.lookup (QueryDict.get request.query "resolution" "hourly") with
    | none => rfl
    | some table => exact congrArg _ (alike.listed (alike.rollups table) _ _ _ _)

/-- A device nobody has approved, and its reading. -/
def cellarDb : Db :=
  { Db.empty with
    devices := (Table.empty Device.deviceId).insert { deviceId := "cellar01", createdAt := 0 }
    readings := [⟨seconds 10, "cellar01", "temperature", .finite 12⟩] }

def cellarEnv : ReadEnv where
  now := seconds 100000
  hashToken := id
  isoformat := fun _ => "t"

def cellarRequest : ReadRequest where
  authorization := "Bearer key"
  query := [("device_id", "cellar01")]

theorem cellar_approved : SameApproved cellarDb Db.empty :=
  ⟨by decide, by decide, fun view => by cases view <;> decide⟩

theorem cellar_invisible :
    readingsView cellarEnv cellarDb [⟨"key", true⟩] cellarRequest =
      readingsView cellarEnv Db.empty [⟨"key", true⟩] cellarRequest ∧
    readingsView cellarEnv cellarDb [⟨"key", true⟩] cellarRequest =
      .ok (readNotFound "Unknown or unapproved device.") :=
  ⟨(unapproved_invisible cellar_approved cellarEnv [⟨"key", true⟩] cellarRequest).2.1, by decide⟩

end SensorServer
