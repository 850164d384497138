import SensorServer.ReadingViews
import SensorServer.Lib.Paging
import Mathlib.Data.Prod.Lex

/-! The read API (api/auth.py, api/views.py): the window of a request, the rows it
lists, and the client loop of docs/read-api.md over its pages. -/
namespace SensorServer

structure ApiKey where
  keyHash : String
  isActive : Bool
  deriving DecidableEq

/-- hashToken is SHA-256; isoformat writes an instant in UTC. -/
structure ReadEnv extends Env where
  hashToken : String → String
  isoformat : Time → String

structure ReadRequest where
  authorization : String := ""
  query : QueryDict := []

/-- One element of `readings` or `aggregates`. -/
inductive ListedRow where
  | reading (time deviceId metric : String) (value : PyFloat)
  | bucket (bucket deviceId metric : String) (avg min max : PyFloat) (samples : Nat)
  deriving DecidableEq

def ListedRow.timestamp : ListedRow → String
  | .reading written .. => written
  | .bucket written .. => written

structure Page where
  count : Nat
  hasMore : Bool
  rows : List ListedRow
  deriving DecidableEq

/-- One element of `devices`. -/
structure ListedDevice where
  deviceId : String
  deviceType : String
  displayName : String
  location : String
  locationType : String
  isOnline : Bool
  lastSeen : Option String
  publishInterval : Nat
  hardwareId : String
  hwCode : String
  hwRev : Option Nat
  otaCapable : Bool
  fwVersion : String
  batteryPercent : Option PyFloat
  batteryStatus : Option BatteryStatus
  needsFirmwareUpdate : Bool
  isLegacyFirmware : Bool
  metrics : List String
  units : List (String × String)
  deriving DecidableEq

inductive ReadReply where
  | error (status : Nat) (kind detail : String)
  | devices (count : Nat) (list : List ListedDevice)
  | readings (page : Page)
  | aggregates (resolution : String) (page : Page)
  deriving DecidableEq

def readBadRequest (detail : String) : ReadReply := .error 400 "bad_request" detail
def readNotFound (detail : String) : ReadReply := .error 404 "not_found" detail
def readUnauthorized (detail : String) : ReadReply := .error 401 "unauthorized" detail

/-- _extract_bearer_token -/
def extractBearerToken (request : ReadRequest) : String :=
  if pyStartsWith request.authorization "Bearer " then pyStrip (pyDrop 7 request.authorization) else ""

def apiKeyRequired (env : ReadEnv) (apiKeys : List ApiKey) (request : ReadRequest)
    (view : Except Raised ReadReply) : Except Raised ReadReply :=
  let token := extractBearerToken request
  if token = "" then pure (readUnauthorized "Missing Bearer token.")
  else if apiKeys.any (fun key => decide (key.keyHash = env.hashToken token) && key.isActive) then view
  else pure (readUnauthorized "Invalid or inactive API key.")

def defaultLimit : Nat := 1000
def maxLimit : Nat := 10000
def defaultRange : Time := seconds 86400
def maxRange : Time := seconds (366 * 86400)

/-- datetime.min -/
def calendarStart : Time := -62135596800000000

def parseLimit (env : Env) (query : QueryDict) : Nat :=
  match QueryDict.get? query "limit" with
  | none => defaultLimit
  | some raw => match env.intOfStr raw with
    | none => defaultLimit
    | some limit => (max 1 (min limit maxLimit)).toNat

/-- `parse_datetime(raw) if raw else default`; none is None. -/
def parseBound (env : Env) (raw : String) (default : Except Raised Stamp) : Except Raised (Option Stamp) :=
  if raw = "" then default.map some
  else match env.parseDatetime raw with
  | .stamp s => .ok (some s)
  | .unparsed => .ok none
  | .invalid => .error .valueError

/-- `end - DEFAULT_RANGE`, on the wall clock. -/
def Stamp.dayBefore (stop : Stamp) : Except Raised Stamp :=
  if stop.clock - defaultRange < calendarStart then .error .overflow
  else .ok ⟨stop.clock - defaultRange, stop.offset⟩

/-- `end - start` once both are aware: two times in the server's zone are compared by
their wall clocks. -/
def Stamp.distance (env : Env) (start stop : Stamp) : Time :=
  if start.offset = none ∧ stop.offset = none then stop.clock - start.clock
  else stop.ormInstant env - start.ormInstant env

/-- _parse_range: the window, or the text of the error. -/
def parseRange (env : Env) (query : QueryDict) : Except Raised (Except String (Stamp × Stamp)) := do
  match ← parseBound env (QueryDict.get query "end" "") (.ok ⟨env.now, some 0⟩) with
  | none => pure (.error "Invalid 'end' timestamp (expected ISO 8601).")
  | some stop =>
    match ← parseBound env (QueryDict.get query "start" "") stop.dayBefore with
    | none => pure (.error "Invalid 'start' timestamp (expected ISO 8601).")
    | some start =>
      if start.distance env stop ≤ 0 then pure (.error "'start' must be strictly before 'end'.")
      else if maxRange < start.distance env stop then
        pure (.error "Time range exceeds the maximum of 366 days.")
      else pure (.ok (start, stop))

def approvedDeviceIds (db : Db) : List String :=
  (db.devices.rows.filter Device.isApproved).map Device.deviceId

/-- _resolve_devices; none is the 404. -/
def resolveDevices (db : Db) (query : QueryDict) : Except Raised (Option (List String)) :=
  let deviceId := QueryDict.get query "device_id" ""
  if deviceId = "" then .ok (some (approvedDeviceIds db))
  else if !nulFree deviceId then .error .dataError
  else if (db.devices.get? deviceId).any Device.isApproved then .ok (some [deviceId])
  else .ok none

def Device.element (env : ReadEnv) (d : Device) : ListedDevice where
  deviceId := d.deviceId
  deviceType := d.deviceType
  displayName := d.effectiveName
  location := d.location
  locationType := d.locationType
  isOnline := d.isOnline env.now
  lastSeen := d.lastSeen.map env.isoformat
  publishInterval := d.publishInterval
  hardwareId := d.hardwareId
  hwCode := d.hardwareCode.getD ""
  hwRev := d.hwRev
  otaCapable := d.otaCapable
  fwVersion := d.fwVersion
  batteryPercent := d.batteryPercent
  batteryStatus := d.batteryStatus
  needsFirmwareUpdate := d.needsFirmwareUpdate
  isLegacyFirmware := d.isLegacyFirmware
  metrics := d.capabilities.metrics.getD []
  units := d.capabilities.units.getD []

def devicesView (env : ReadEnv) (db : Db) (apiKeys : List ApiKey) (request : ReadRequest) :
    Except Raised ReadReply :=
  apiKeyRequired env apiKeys request <|
  let devices := OrderBy.lexicographic Device.deviceId (db.devices.rows.filter Device.isApproved)
  pure (.devices devices.length (devices.map (Device.element env)))

structure Columns (ρ : Type) where
  time : ρ → Time
  deviceId : ρ → String
  metric : ρ → String

def SensorReading.columns : Columns SensorReading :=
  ⟨SensorReading.time, SensorReading.deviceId, SensorReading.metric⟩

def RollupRow.columns : Columns RollupRow := ⟨RollupRow.bucket, RollupRow.deviceId, RollupRow.metric⟩

namespace Columns
variable {ρ : Type} (columns : Columns ρ)

def order (r : ρ) : Time ×ₗ String ×ₗ String :=
  toLex (columns.time r, toLex (columns.deviceId r, columns.metric r))

def wanted (deviceIds : List String) (metric : String) (start stop : Time) (r : ρ) : Bool :=
  deviceIds.contains (columns.deviceId r) && decide (start ≤ columns.time r) &&
  decide (columns.time r ≤ stop) && (decide (metric = "") || decide (columns.metric r = metric))

def select (table : List ρ) (deviceIds : List String) (metric : String) (start stop : Time) : List ρ :=
  OrderBy.lexicographic columns.order (table.filter (columns.wanted deviceIds metric start stop))

end Columns

/-- What readings_view and aggregates_view do alike. No statement runs without devices. -/
def listView {ρ : Type} (columns : Columns ρ) (table : List ρ) (element : ρ → ListedRow)
    (reply : Page → ReadReply) (env : Env) (db : Db) (query : QueryDict) : Except Raised ReadReply := do
  match ← parseRange env query with
  | .error detail => pure (readBadRequest detail)
  | .ok (start, stop) =>
    match ← resolveDevices db query with
    | none => pure (readNotFound "Unknown or unapproved device.")
    | some deviceIds =>
      let metric := QueryDict.get query "metric" ""
      if !deviceIds.isEmpty && !nulFree metric then .error .dataError
      else
        let limit := parseLimit env query
        let rows := (columns.select table deviceIds metric (start.ormInstant env)
          (stop.ormInstant env)).take (limit + 1)
        let hasMore := decide (limit < rows.length)
        let rows := rows.take limit
        pure (reply ⟨rows.length, hasMore, rows.map element⟩)

def SensorReading.element (env : ReadEnv) (r : SensorReading) : ListedRow :=
  .reading (env.isoformat r.time) r.deviceId r.metric r.value

def RollupRow.element (env : ReadEnv) (r : RollupRow) : ListedRow :=
  .bucket (env.isoformat r.bucket) r.deviceId r.metric (r.avgValue.round 4) (r.minValue.round 4)
    (r.maxValue.round 4) r.sampleCount

/-- AGGREGATE_TABLES -/
def aggregateTables : List (String × Rollup) := [("hourly", .hourly), ("daily", .daily)]

def readingsView (env : ReadEnv) (db : Db) (apiKeys : List ApiKey) (request : ReadRequest) :
    Except Raised ReadReply :=
  apiKeyRequired env apiKeys request <|
  listView SensorReading.columns db.readings (SensorReading.element env) .readings env.toEnv db
    request.query

def aggregatesView (env : ReadEnv) (db : Db) (apiKeys : List ApiKey) (request : ReadRequest) :
    Except Raised ReadReply :=
  apiKeyRequired env apiKeys request <|
  let resolution := QueryDict.get request.query "resolution" "hourly"
  match aggregateTables.lookup resolution with
  | none => pure (readBadRequest "'resolution' must be 'hourly' or 'daily'.")
  | some table =>
    listView RollupRow.columns (rollupRows db table) (RollupRow.element env) (.aggregates resolution)
      env.toEnv db request.query

/-- `params[key] = value` -/
def QueryDict.set (q : QueryDict) (key value : String) : QueryDict :=
  q.filter (fun kv => kv.1 ≠ key) ++ [(key, value)]

def ReadReply.page? : ReadReply → Option Page
  | .error _ _ _ => none
  | .devices _ _ => none
  | .readings page => some page
  | .aggregates _ page => some page

/-- The last returned timestamp, while has_more is true. -/
def Page.cursor (page : Page) : Option String :=
  if page.hasMore then page.rows.getLast?.map ListedRow.timestamp else none

structure Visit where
  query : QueryDict
  page : Page

def crawl (ask : QueryDict → Except Raised ReadReply) : Nat → QueryDict → Option (List Visit)
  | 0, _ => none
  | fuel + 1, query => match ask query with
    | .error _ => none
    | .ok reply => match reply.page? with
      | none => none
      | some page => match page.cursor with
        | none => some [⟨query, page⟩]
        | some last => (crawl ask fuel (query.set "start" last)).map (⟨query, page⟩ :: ·)

def windowStart (env : Env) (query : QueryDict) : Time :=
  match parseRange env query with
  | .ok (.ok (start, _)) => start.ormInstant env
  | _ => 0

/-- The rows that match the filters and the window of a request, however many, in order. -/
def matching {ρ : Type} (columns : Columns ρ) (table : List ρ) (env : Env) (db : Db) (query : QueryDict) :
    List ρ :=
  match parseRange env query, resolveDevices db query with
  | .ok (.ok (start, stop)), .ok (some deviceIds) =>
    columns.select table deviceIds (QueryDict.get query "metric" "") (start.ormInstant env)
      (stop.ormInstant env)
  | _, _ => []

/-- Whether a further request of the client, from an instant on, is inside its window. -/
def reenters (env : Env) (query : QueryDict) (from_ : Time) : Bool :=
  match parseRange env query with
  | .ok (.ok (_, stop)) => decide (from_ < stop.ormInstant env) && decide (stop.ormInstant env - from_ ≤ maxRange)
  | _ => false

/-- parse_datetime reads back the instant that isoformat wrote. -/
structure Written (env : ReadEnv) (t : Time) : Prop where
  nonempty : env.isoformat t ≠ ""
  parsed : env.parseDatetime (env.isoformat t) = .stamp ⟨t, some 0⟩

instance (env : ReadEnv) (t : Time) : Decidable (Written env t) :=
  decidable_of_iff (env.isoformat t ≠ "" ∧ env.parseDatetime (env.isoformat t) = .stamp ⟨t, some 0⟩)
    ⟨fun h => ⟨h.1, h.2⟩, fun h => ⟨h.nonempty, h.parsed⟩⟩

section Set
variable {q : QueryDict} {key value : String}

theorem QueryDict.get_set_self (default : String) : QueryDict.get (q.set key value) key default = value := by
  simp [QueryDict.get, QueryDict.get?, QueryDict.set]

theorem QueryDict.get?_set_of_ne {other : String} (distinct : other ≠ key) :
    QueryDict.get? (q.set key value) other = QueryDict.get? q other := by
  unfold QueryDict.get? QueryDict.set
  rw [List.reverse_append, List.reverse_singleton, List.singleton_append, List.lookup_cons,
    beq_false_of_ne distinct, ← List.filter_reverse]
  exact (lookup_filter_ne _ key other).trans (if_neg distinct)

theorem QueryDict.get_set_of_ne {other : String} (distinct : other ≠ key) (default : String) :
    QueryDict.get (q.set key value) other default = QueryDict.get q other default := by
  unfold QueryDict.get
  rw [QueryDict.get?_set_of_ne distinct]

theorem QueryDict.set_set (again : String) : (q.set key value).set key again = q.set key again := by
  simp [QueryDict.set, List.filter_append]

end Set

theorem parseRange_of_bounds {env : Env} {query : QueryDict} {start stop : Stamp}
    (ends : parseBound env (QueryDict.get query "end" "") (.ok ⟨env.now, some 0⟩) = .ok (some stop))
    (starts : parseBound env (QueryDict.get query "start" "") stop.dayBefore = .ok (some start)) :
    parseRange env query = .ok (
      if start.distance env stop ≤ 0 then .error "'start' must be strictly before 'end'."
      else if maxRange < start.distance env stop then .error "Time range exceeds the maximum of 366 days."
      else .ok (start, stop)) := by
  unfold parseRange
  rw [ends]
  dsimp only [bind, Except.bind]
  rw [starts]
  dsimp only
  split
  · rfl
  · split <;> rfl

theorem parseRange_eq_ok {env : Env} {query : QueryDict} {start stop : Stamp}
    (window : parseRange env query = .ok (.ok (start, stop))) :
    parseBound env (QueryDict.get query "end" "") (.ok ⟨env.now, some 0⟩) = .ok (some stop) ∧
      parseBound env (QueryDict.get query "start" "") stop.dayBefore = .ok (some start) ∧
      0 < start.distance env stop ∧ start.distance env stop ≤ maxRange := by
  cases ends : parseBound env (QueryDict.get query "end" "") (.ok ⟨env.now, some 0⟩) with
  | error e => simp [parseRange, ends, bind, Except.bind] at window
  | ok parsed =>
    cases parsed with
    | none => simp [parseRange, ends, bind, Except.bind, pure, Except.pure] at window
    | some last =>
      cases starts : parseBound env (QueryDict.get query "start" "") last.dayBefore with
      | error e => simp [parseRange, ends, starts, bind, Except.bind] at window
      | ok parsed =>
        cases parsed with
        | none => simp [parseRange, ends, starts, bind, Except.bind, pure, Except.pure] at window
        | some first =>
          rw [parseRange_of_bounds ends starts] at window
          split at window
          · cases window
          · split at window
            · cases window
            · next positive bounded =>
              cases window
              exact ⟨rfl, starts, not_le.mp positive, not_lt.mp bounded⟩

theorem parseRange_set {env : ReadEnv} {query : QueryDict} {start stop : Stamp} {t : Time}
    (window : parseRange env.toEnv query = .ok (.ok (start, stop))) (written : Written env t) :
    parseRange env.toEnv (query.set "start" (env.isoformat t)) = .ok (
      if stop.ormInstant env.toEnv - t ≤ 0 then .error "'start' must be strictly before 'end'."
      else if maxRange < stop.ormInstant env.toEnv - t then
        .error "Time range exceeds the maximum of 366 days."
      else .ok (⟨t, some 0⟩, stop)) := by
  have ends := (parseRange_eq_ok window).1
  have instant : Stamp.ormInstant env.toEnv ⟨t, some 0⟩ = t := sub_zero t
  have distance : Stamp.distance env.toEnv ⟨t, some 0⟩ stop = stop.ormInstant env.toEnv - t := by
    unfold Stamp.distance
    rw [if_neg (by simp), instant]
  rw [← distance]
  refine parseRange_of_bounds ?_ ?_
  · rw [QueryDict.get_set_of_ne (by decide)]
    exact ends
  · rw [QueryDict.get_set_self]
    unfold parseBound
    rw [if_neg written.nonempty, written.parsed]

def pageOf {ρ : Type} (element : ρ → ListedRow) (limit : Nat) (rows : List ρ) : Page :=
  ⟨(rows.take limit).length, decide (limit < rows.length), (rows.take limit).map element⟩

/-- A request within its window, from known devices, for a metric that can be sent to the database. -/
structure Queried (env : Env) (db : Db) (query : QueryDict) (start stop : Stamp) (deviceIds : List String) :
    Prop where
  window : parseRange env query = .ok (.ok (start, stop))
  devices : resolveDevices db query = .ok (some deviceIds)
  storable : (!deviceIds.isEmpty && !nulFree (QueryDict.get query "metric" "")) = false

section Listing
variable {ρ : Type} {columns : Columns ρ} {table : List ρ} {element : ρ → ListedRow}
  {reply : Page → ReadReply} {db : Db} {query : QueryDict} {start stop : Stamp} {deviceIds : List String}

theorem matching_answered {env : Env} (answered : Queried env db query start stop deviceIds) :
    matching columns table env db query = columns.select table deviceIds (QueryDict.get query "metric" "")
      (start.ormInstant env) (stop.ormInstant env) := by
  unfold matching
  rw [answered.window, answered.devices]

theorem windowStart_answered {env : Env} (answered : Queried env db query start stop deviceIds) :
    windowStart env query = start.ormInstant env := by
  unfold windowStart
  rw [answered.window]

theorem more_of_one (limit : Nat) (rows : List ρ) :
    decide (limit < (rows.take (limit + 1)).length) = decide (limit < rows.length) := by
  rw [List.length_take]
  exact decide_eq_decide.mpr (by omega)

theorem listView_answered {env : Env} (answered : Queried env db query start stop deviceIds) :
    listView columns table element reply env db query =
      .ok (reply (pageOf element (parseLimit env query) (matching columns table env db query))) := by
  rw [matching_answered answered]
  unfold listView
  rw [answered.window]
  dsimp only [bind, Except.bind]
  rw [answered.devices]
  dsimp only
  rw [if_neg (by simp [answered.storable])]
  dsimp only [pure, Except.pure, pageOf]
  rw [List.take_take, Nat.min_eq_left (Nat.le_succ _), more_of_one]

theorem answered_of_page {env : Env} {page : Page} {given : ReadReply}
    (ok : listView columns table element reply env db query = .ok given) (shown : given.page? = some page) :
    ∃ start stop deviceIds, Queried env db query start stop deviceIds := by
  unfold listView at ok
  cases window : parseRange env query with
  | error e => simp [window, bind, Except.bind] at ok
  | ok parsed =>
    rw [window] at ok
    cases parsed with
    | error detail =>
      cases ok
      cases shown
    | ok bounds =>
      obtain ⟨start, stop⟩ := bounds
      cases devices : resolveDevices db query with
      | error e => simp [devices, bind, Except.bind] at ok
      | ok found =>
        cases found with
        | none =>
          simp only [devices, bind, Except.bind, pure, Except.pure, Except.ok.injEq] at ok
          cases ok
          cases shown
        | some deviceIds =>
          by_cases refused : (!deviceIds.isEmpty && !nulFree (QueryDict.get query "metric" "")) = true
          · simp [devices, bind, Except.bind, refused] at ok
          · exact ⟨start, stop, deviceIds, window, devices, by simpa using refused⟩

theorem mem_matching_window {env : Env} (answered : Queried env db query start stop deviceIds) {r : ρ}
    (member : r ∈ matching columns table env db query) :
    start.ormInstant env ≤ columns.time r ∧ columns.time r ≤ stop.ormInstant env := by
  rw [matching_answered answered, Columns.select, OrderBy.mem_lexicographic, List.mem_filter] at member
  have wanted := member.2
  simp only [Columns.wanted, Bool.and_eq_true, decide_eq_true_eq] at wanted
  exact ⟨wanted.1.1.2, wanted.1.2⟩

theorem since_windowStart {env : Env} (answered : Queried env db query start stop deviceIds) :
    Paging.since columns.time (matching columns table env db query) (windowStart env query) =
      matching columns table env db query := by
  rw [windowStart_answered answered]
  exact List.filter_eq_self.mpr (fun r member => decide_eq_true (mem_matching_window answered member).1)

theorem sorted_matching {env : Env} (answered : Queried env db query start stop deviceIds) :
    (matching columns table env db query).Pairwise (fun a b => columns.time a ≤ columns.time b) := by
  rw [matching_answered answered]
  refine (OrderBy.pairwise_lexicographic columns.order _).imp (fun {a b} before => ?_)
  rcases Prod.Lex.le_iff.mp before with earlier | ⟨same, -⟩
  · exact le_of_lt earlier
  · exact le_of_eq same

theorem parseLimit_pos (env : Env) (query : QueryDict) : 0 < parseLimit env query := by
  unfold parseLimit
  split
  · decide
  · split
    · decide
    · omega

variable {env : ReadEnv} {t : Time}

theorem answered_set (answered : Queried env.toEnv db query start stop deviceIds) (written : Written env t)
    (inside : reenters env.toEnv query t = true) :
    Queried env.toEnv db (query.set "start" (env.isoformat t)) ⟨t, some 0⟩ stop deviceIds := by
  simp only [reenters, answered.window, Bool.and_eq_true, decide_eq_true_eq] at inside
  refine ⟨?_, ?_, ?_⟩
  · rw [parseRange_set answered.window written, if_neg (not_le.mpr (sub_pos.mpr inside.1)),
      if_neg (not_lt.mpr inside.2)]
  · unfold resolveDevices
    rw [QueryDict.get_set_of_ne (by decide)]
    exact answered.devices
  · rw [QueryDict.get_set_of_ne (by decide)]
    exact answered.storable

theorem refused_set (answered : Queried env.toEnv db query start stop deviceIds) (written : Written env t)
    (outside : reenters env.toEnv query t = false) :
    ∃ detail, listView columns table element reply env.toEnv db (query.set "start" (env.isoformat t)) =
      .ok (readBadRequest detail) := by
  have window := parseRange_set answered.window written
  simp only [reenters, answered.window, Bool.and_eq_false_iff, decide_eq_false_iff_not] at outside
  unfold listView
  rw [window]
  split
  · exact ⟨_, rfl⟩
  · next positive =>
    have beyond := outside.resolve_left (not_not.mpr (sub_pos.mp (not_le.mp positive)))
    rw [if_pos (not_le.mp beyond)]
    exact ⟨_, rfl⟩

theorem matching_set (answered : Queried env.toEnv db query start stop deviceIds) (written : Written env t)
    (inside : reenters env.toEnv query t = true) (later : start.ormInstant env.toEnv ≤ t) :
    matching columns table env.toEnv db (query.set "start" (env.isoformat t)) =
      Paging.since columns.time (matching columns table env.toEnv db query) t := by
  rw [matching_answered (answered_set answered written inside), matching_answered answered,
    QueryDict.get_set_of_ne (by decide)]
  unfold Columns.select Paging.since
  rw [← OrderBy.lexicographic_filter, List.filter_filter]
  congr 1
  refine List.filter_congr (fun r _ => ?_)
  have instant : Stamp.ormInstant env.toEnv ⟨t, some 0⟩ = t := sub_zero t
  rw [instant]
  by_cases after : t ≤ columns.time r
  · simp [Columns.wanted, after, later.trans after]
  · simp [Columns.wanted, after]

theorem cursor_pageOf (limit : Nat) (rows : List ρ) (c : Time)
    (times : ∀ r, (element r).timestamp = env.isoformat (columns.time r)) :
    (pageOf element limit (Paging.since columns.time rows c)).cursor =
      (Paging.turn columns.time limit rows c).map (fun r => env.isoformat (columns.time r)) := by
  unfold Page.cursor Paging.turn pageOf Paging.page
  dsimp only
  simp only [decide_eq_true_eq]
  split
  · rw [List.getLast?_map, Option.map_map]
    exact congrArg (Option.map · _) (funext times)
  · rfl

/-- The client's view of one page: where it begins, what it shows, all it could show. -/
def Visit.observe (columns : Columns ρ) (table : List ρ) (element : ρ → ListedRow) (env : Env) (db : Db)
    (v : Visit) : Time × Page × List ListedRow :=
  (windowStart env v.query, v.page, (matching columns table env db v.query).map element)

/-- A request of the client's loop that began with `query`, at the cursor `c`. -/
structure Asking (columns : Columns ρ) (table : List ρ) (env : Env) (db : Db) (query : QueryDict)
    (stop : Stamp) (deviceIds : List String) (c : Time) (q : QueryDict) : Prop where
  answered : ∃ start, Queried env db q start stop deviceIds ∧ start.ormInstant env = c
  rows : matching columns table env db q = Paging.since columns.time (matching columns table env db query) c
  limit : parseLimit env q = parseLimit env query

theorem Asking.next {c : Time} {q : QueryDict} {r : ρ}
    (asking : Asking columns table env.toEnv db query stop deviceIds c q)
    (turned : Paging.turn columns.time (parseLimit env.toEnv query) (matching columns table env.toEnv db query)
      c = some r) (written : Written env (columns.time r))
    (inside : reenters env.toEnv q (columns.time r) = true) :
    Asking columns table env.toEnv db query stop deviceIds (columns.time r)
      (q.set "start" (env.isoformat (columns.time r))) := by
  obtain ⟨start, answered, rfl⟩ := asking.answered
  have later := (Paging.mem_of_turn turned).2
  refine ⟨⟨_, answered_set answered written inside, sub_zero _⟩, ?_, ?_⟩
  · rw [matching_set answered written inside later, asking.rows, Paging.since_since later]
  · rw [← asking.limit]
    unfold parseLimit
    rw [QueryDict.get?_set_of_ne (by decide)]

theorem crawl_refused {ask : QueryDict → Except Raised ReadReply} {q : QueryDict} {detail : String}
    (refused : ask q = .ok (readBadRequest detail)) (n : Nat) : crawl ask n q = none := by
  cases n with
  | zero => rfl
  | succ n =>
    unfold crawl
    rw [refused]
    rfl

theorem map_cons_map {α β : Type} (f : α → β) (a : α) (o : Option (List α)) :
    (o.map (a :: ·)).map (List.map f) = (o.map (List.map f)).map (f a :: ·) := by
  cases o <;> rfl

variable (columns table element) in
def seenAt (env : Env) (db : Db) (query : QueryDict) (c : Time) : Time × Page × List ListedRow :=
  let rows := Paging.since columns.time (matching columns table env db query) c
  (c, pageOf element (parseLimit env query) rows, rows.map element)

theorem crawl_walk {ask : QueryDict → Except Raised ReadReply} (paged : ∀ page, (reply page).page? = some page)
    (times : ∀ r, (element r).timestamp = env.isoformat (columns.time r))
    (written : ∀ r ∈ matching columns table env.toEnv db query, Written env (columns.time r))
    (first : Queried env.toEnv db query start stop deviceIds)
    (asks : ∀ t, ask (query.set "start" t) =
      listView columns table element reply env.toEnv db (query.set "start" t))
    (n : Nat) (c : Time) (q : QueryDict) (asking : Asking columns table env.toEnv db query stop deviceIds c q)
    (here : ask q = listView columns table element reply env.toEnv db q)
    (resets : ∀ t, q.set "start" t = query.set "start" t) :
    (crawl ask n q).map (List.map (Visit.observe columns table element env.toEnv db)) =
      (Paging.walk columns.time (parseLimit env.toEnv query) (matching columns table env.toEnv db query)
        (reenters env.toEnv query) n c).map (List.map (seenAt columns table element env.toEnv db query)) := by
  induction n generalizing c q with
  | zero => rfl
  | succ n ih =>
    obtain ⟨begin_, answered, began⟩ := asking.answered
    have observed : ∀ page, Visit.observe columns table element env.toEnv db ⟨q, page⟩ =
        (c, page, (Paging.since columns.time (matching columns table env.toEnv db query) c).map element) := by
      intro page
      unfold Visit.observe
      rw [windowStart_answered answered, began, asking.rows]
    have same : ∀ t, reenters env.toEnv q t = reenters env.toEnv query t := by
      intro t
      unfold reenters
      rw [answered.window, first.window]
    unfold crawl Paging.walk
    rw [here, listView_answered answered, asking.rows, asking.limit]
    dsimp only
    rw [paged]
    dsimp only
    rw [cursor_pageOf _ _ _ times]
    cases turned : Paging.turn columns.time (parseLimit env.toEnv query)
        (matching columns table env.toEnv db query) c with
    | none => simp [observed, seenAt]
    | some r =>
      have known := written r (Paging.mem_of_turn turned).1
      dsimp only [Option.map_some]
      rw [← same (columns.time r)]
      have further : ask (q.set "start" (env.isoformat (columns.time r))) =
          listView columns table element reply env.toEnv db (q.set "start" (env.isoformat (columns.time r))) := by
        rw [resets]
        exact asks _
      cases inside : reenters env.toEnv q (columns.time r) with
      | false =>
        obtain ⟨detail, refused⟩ := @refused_set _ columns table element reply db q begin_ stop deviceIds env
          (columns.time r) answered known inside
        rw [crawl_refused (further.trans refused)]
        rfl
      | true =>
        have rest := ih (columns.time r) (q.set "start" (env.isoformat (columns.time r)))
          (asking.next turned known inside) further
          (fun t => (QueryDict.set_set t).trans (resets t))
        rw [if_pos rfl, map_cons_map, map_cons_map, rest, observed]
        rfl

/-- What the pages of the loop must show: each begins later than the one before, together they
show exactly the matching rows, and has_more tells whether there are rows beyond the page. -/
structure Complete (trail : List (Time × Page × List ListedRow)) (rows : List ListedRow) : Prop where
  advances : (trail.map Prod.fst).Pairwise (· < ·)
  covers : ∀ row, (∃ seen ∈ trail, row ∈ seen.2.1.rows) ↔ row ∈ rows
  signals : ∀ seen ∈ trail, seen.2.1.hasMore = true ↔ seen.2.2.drop seen.2.1.rows.length ≠ []

theorem complete_walk {starts : List Time} {n : Nat} {env : Env}
    (answered : Queried env db query start stop deviceIds)
    (walked : Paging.walk columns.time (parseLimit env query) (matching columns table env db query)
      (reenters env query) n (windowStart env query) = some starts) :
    Complete (starts.map (seenAt columns table element env db query))
      ((matching columns table env db query).map element) := by
  have whole := @since_windowStart _ columns table db query start stop deviceIds env answered
  refine ⟨?_, fun row => ?_, ?_⟩
  · rw [List.map_map]
    have firsts : (Prod.fst ∘ seenAt columns table element env db query) = id := rfl
    rw [firsts, List.map_id]
    exact (Paging.walk_increases walked).1
  · have shown := Paging.walk_covers (parseLimit_pos env query) (sorted_matching answered) walked
    rw [whole] at shown
    constructor
    · rintro ⟨seen, member, present⟩
      obtain ⟨s, visited, rfl⟩ := List.mem_map.mp member
      obtain ⟨r, onPage, rfl⟩ := List.mem_map.mp present
      exact List.mem_map.mpr ⟨r, (shown r).mp ⟨s, visited, onPage⟩, rfl⟩
    · intro member
      obtain ⟨r, present, rfl⟩ := List.mem_map.mp member
      obtain ⟨s, visited, onPage⟩ := (shown r).mpr present
      exact ⟨_, List.mem_map.mpr ⟨s, visited, rfl⟩, List.mem_map.mpr ⟨r, onPage, rfl⟩⟩
  · intro seen member
    obtain ⟨s, -, rfl⟩ := List.mem_map.mp member
    simp only [seenAt, pageOf, decide_eq_true_eq, List.length_map, List.length_take, ne_eq,
      List.drop_eq_nil_iff]
    omega

theorem loop_iff {ask : QueryDict → Except Raised ReadReply} (paged : ∀ page, (reply page).page? = some page)
    (times : ∀ r, (element r).timestamp = env.isoformat (columns.time r))
    (written : ∀ r ∈ matching columns table env.toEnv db query, Written env (columns.time r))
    (answered : Queried env.toEnv db query start stop deviceIds)
    (asks : ∀ t, ask (query.set "start" t) =
      listView columns table element reply env.toEnv db (query.set "start" t))
    (here : ask query = listView columns table element reply env.toEnv db query) :
    (∃ fuel visits, crawl ask fuel query = some visits ∧
      Complete (visits.map (Visit.observe columns table element env.toEnv db))
        ((matching columns table env.toEnv db query).map element)) ↔
      Paging.Paced columns.time (parseLimit env.toEnv query) (matching columns table env.toEnv db query)
        (reenters env.toEnv query) (windowStart env.toEnv query) := by
  have first : Asking columns table env.toEnv db query stop deviceIds (windowStart env.toEnv query) query :=
    ⟨⟨start, answered, (windowStart_answered answered).symm⟩, (since_windowStart answered).symm, rfl⟩
  have walks := fun n => crawl_walk paged times written answered asks n _ query first here (fun _ => rfl)
  rw [← Paging.walk_iff_paced]
  constructor
  · rintro ⟨n, visits, crawled, -⟩
    have walked := walks n
    rw [crawled] at walked
    obtain ⟨starts, ended, -⟩ := Option.map_eq_some_iff.mp walked.symm
    exact ⟨n, starts, ended⟩
  · rintro ⟨n, starts, walked⟩
    have crawled := walks n
    rw [walked] at crawled
    obtain ⟨visits, ended, seen⟩ := Option.map_eq_some_iff.mp crawled
    exact ⟨n, visits, ended, seen ▸ complete_walk answered walked⟩

end Listing

inductive Endpoint where
  | readings | aggregates

namespace Endpoint

def ask (e : Endpoint) (env : ReadEnv) (db : Db) (apiKeys : List ApiKey) (authorization : String)
    (query : QueryDict) : Except Raised ReadReply :=
  match e with
  | .readings => readingsView env db apiKeys ⟨authorization, query⟩
  | .aggregates => aggregatesView env db apiKeys ⟨authorization, query⟩

def resolution (query : QueryDict) : Option Rollup :=
  aggregateTables.lookup (QueryDict.get query "resolution" "hourly")

/-- The elements a request matches, if nothing limited their number. -/
def rows (e : Endpoint) (env : ReadEnv) (db : Db) (query : QueryDict) : List ListedRow :=
  match e with
  | .readings => (matching SensorReading.columns db.readings env.toEnv db query).map (SensorReading.element env)
  | .aggregates => match resolution query with
    | none => []
    | some table =>
      (matching RollupRow.columns (rollupRows db table) env.toEnv db query).map (RollupRow.element env)

/-- Their times. -/
def times (e : Endpoint) (env : Env) (db : Db) (query : QueryDict) : List Time :=
  match e with
  | .readings => (matching SensorReading.columns db.readings env db query).map SensorReading.time
  | .aggregates => match resolution query with
    | none => []
    | some table => (matching RollupRow.columns (rollupRows db table) env db query).map RollupRow.bucket

def observe (e : Endpoint) (env : ReadEnv) (db : Db) (v : Visit) : Time × Page × List ListedRow :=
  (windowStart env.toEnv v.query, v.page, e.rows env db v.query)

/-- The loop ends without an error, and its pages are as documented. -/
def Paginated (e : Endpoint) (env : ReadEnv) (db : Db) (apiKeys : List ApiKey) (authorization : String)
    (query : QueryDict) : Prop :=
  ∃ fuel visits, crawl (e.ask env db apiKeys authorization) fuel query = some visits ∧
    Complete (visits.map (e.observe env db)) (e.rows env db query)

/-- Every page with rows behind it ends later than it begins, before the end of the window
and within the maximal range of it. -/
def Paced (e : Endpoint) (env : Env) (db : Db) (query : QueryDict) : Prop :=
  Paging.Paced id (parseLimit env query) (e.times env db query) (reenters env query) (windowStart env query)

end Endpoint

theorem apiKeyRequired_page {env : ReadEnv} {apiKeys : List ApiKey} {request : ReadRequest}
    {view : Except Raised ReadReply} {given : ReadReply} {page : Page}
    (ok : apiKeyRequired env apiKeys request view = .ok given) (shown : given.page? = some page)
    (other : ReadRequest) (same : other.authorization = request.authorization)
    (again : Except Raised ReadReply) : apiKeyRequired env apiKeys other again = again := by
  have token : extractBearerToken other = extractBearerToken request := by
    unfold extractBearerToken
    rw [same]
  unfold apiKeyRequired at ok ⊢
  rw [token]
  dsimp only at ok ⊢
  split at ok
  · cases ok
    cases shown
  · next given =>
    rw [if_neg given]
    split at ok
    · next known => rw [if_pos known]
    · cases ok
      cases shown

theorem crawl_queries {ask : QueryDict → Except Raised ReadReply} {n : Nat} {query : QueryDict}
    {visits : List Visit} (crawled : crawl ask n query = some visits) :
    ∀ v ∈ visits, v.query = query ∨ ∃ t, v.query = query.set "start" t := by
  induction n generalizing query visits with
  | zero => cases crawled
  | succ n ih =>
    unfold crawl at crawled
    cases answer : ask query with
    | error e => simp [answer] at crawled
    | ok reply =>
      rw [answer] at crawled
      dsimp only at crawled
      cases paged : reply.page? with
      | none => simp [paged] at crawled
      | some page =>
        rw [paged] at crawled
        dsimp only at crawled
        cases last : page.cursor with
        | none =>
          rw [last] at crawled
          cases crawled
          intro v member
          rw [List.mem_singleton.mp member]
          exact .inl rfl
        | some t =>
          rw [last] at crawled
          obtain ⟨rest, further, rfl⟩ := Option.map_eq_some_iff.mp crawled
          intro v member
          rcases List.mem_cons.mp member with rfl | later
          · exact .inl rfl
          · rcases ih further v later with same | ⟨u, same⟩
            · exact .inr ⟨t, same⟩
            · exact .inr ⟨u, same.trans (QueryDict.set_set u)⟩

theorem pagination_iff (e : Endpoint) {env : ReadEnv} {db : Db} {apiKeys : List ApiKey}
    {authorization : String} {query : QueryDict} {given : ReadReply} {page : Page}
    (accepted : e.ask env db apiKeys authorization query = .ok given) (shown : given.page? = some page)
    (written : ∀ t ∈ e.times env.toEnv db query, Written env t) :
    e.Paginated env db apiKeys authorization query ↔ e.Paced env.toEnv db query := by
  cases e with
  | readings =>
    have open_ := apiKeyRequired_page accepted shown
    have view : ∀ q, Endpoint.readings.ask env db apiKeys authorization q =
        listView SensorReading.columns db.readings (SensorReading.element env) .readings env.toEnv db q :=
      fun q => open_ ⟨authorization, q⟩ rfl _
    obtain ⟨start, stop, deviceIds, answered⟩ := answered_of_page ((view query).symm.trans accepted) shown
    have loop := loop_iff (fun _ => rfl) (fun _ => rfl)
      (fun r member => written _ (List.mem_map.mpr ⟨r, member, rfl⟩)) answered (fun t => view _) (view query)
    exact loop.trans Paging.paced_map.symm
  | aggregates =>
    have open_ := apiKeyRequired_page accepted shown
    have listed : (match Endpoint.resolution query with
        | none => pure (readBadRequest "'resolution' must be 'hourly' or 'daily'.")
        | some table => listView RollupRow.columns (rollupRows db table) (RollupRow.element env)
          (.aggregates (QueryDict.get query "resolution" "hourly")) env.toEnv db query) = .ok given :=
      (open_ ⟨authorization, query⟩ rfl _).symm.trans accepted
    cases known : Endpoint.resolution query with
    | none =>
      rw [known] at listed
      cases listed
      cases shown
    | some table =>
      rw [known] at listed
      have kept : ∀ t, Endpoint.resolution (query.set "start" t) = some table := by
        intro t
        unfold Endpoint.resolution
        rw [QueryDict.get_set_of_ne (by decide)]
        exact known
      have view : ∀ q, Endpoint.resolution q = some table →
          QueryDict.get q "resolution" "hourly" = QueryDict.get query "resolution" "hourly" →
          Endpoint.aggregates.ask env db apiKeys authorization q =
            listView RollupRow.columns (rollupRows db table) (RollupRow.element env)
              (.aggregates (QueryDict.get query "resolution" "hourly")) env.toEnv db q := by
        intro q same text
        refine (open_ ⟨authorization, q⟩ rfl _).trans ?_
        unfold Endpoint.resolution at same
        dsimp only
        rw [same]
        dsimp only
        rw [text]
      have times : Endpoint.aggregates.times env.toEnv db query =
          (matching RollupRow.columns (rollupRows db table) env.toEnv db query).map RollupRow.bucket := by
        unfold Endpoint.times
        rw [known]
      have rows : ∀ q, Endpoint.resolution q = some table → Endpoint.aggregates.rows env db q =
          (matching RollupRow.columns (rollupRows db table) env.toEnv db q).map (RollupRow.element env) := by
        intro q same
        unfold Endpoint.rows
        rw [same]
      obtain ⟨start, stop, deviceIds, answered⟩ := answered_of_page listed shown
      have loop := loop_iff (fun _ => rfl) (fun _ => rfl)
        (fun r member => written _ (times ▸ List.mem_map.mpr ⟨r, member, rfl⟩)) answered
        (fun t => view _ (kept t) (QueryDict.get_set_of_ne (by decide) _)) (view query known rfl)
      unfold Endpoint.Paginated Endpoint.Paced
      rw [rows query known, times, Paging.paced_map]
      refine Iff.trans ?_ loop
      refine exists_congr (fun n => exists_congr (fun visits => and_congr_right (fun crawled => ?_)))
      have observed : visits.map (Endpoint.aggregates.observe env db) =
          visits.map (Visit.observe RollupRow.columns (rollupRows db table) (RollupRow.element env)
            env.toEnv db) := by
        refine List.map_congr_left (fun v member => ?_)
        have same : Endpoint.resolution v.query = some table := by
          rcases crawl_queries crawled v member with same | ⟨t, same⟩
          · exact same ▸ known
          · exact same ▸ kept t
        unfold Endpoint.observe Visit.observe
        rw [rows v.query same]
      rw [observed]

def pageEnv : ReadEnv where
  now := 100
  intOfStr := fun s => if s = "1" then some 1 else if s = "3" then some 3 else none
  parseDatetime := fun s =>
    if s = "t00" then .stamp ⟨0, some 0⟩ else if s = "t05" then .stamp ⟨5, some 0⟩
    else if s = "t07" then .stamp ⟨7, some 0⟩ else if s = "t10" then .stamp ⟨10, some 0⟩ else .unparsed
  hashToken := id
  isoformat := fun t => if t = 5 then "t05" else if t = 7 then "t07" else "t10"

def pageDb : Db :=
  { Db.empty with
    devices := Table.put (Table.empty _)
      { deviceId := "porch01", createdAt := 0, isApproved := true, guestVisibleMetrics := [] }
    readings := [⟨5, "porch01", "temperature", .finite 20⟩, ⟨5, "porch01", "humidity", .finite 40⟩,
      ⟨7, "porch01", "temperature", .finite 21⟩, ⟨7, "porch01", "humidity", .finite 41⟩] }

def pageQuery (limit : String) : QueryDict := [("start", "t00"), ("end", "t10"), ("limit", limit)]

def pageAsk : QueryDict → Except Raised ReadReply :=
  Endpoint.readings.ask pageEnv pageDb [⟨"grafana", true⟩] "Bearer grafana"

theorem threeRows_paginated :
    Endpoint.readings.Paginated pageEnv pageDb [⟨"grafana", true⟩] "Bearer grafana" (pageQuery "3") :=
  (@pagination_iff .readings pageEnv pageDb [⟨"grafana", true⟩] "Bearer grafana" (pageQuery "3")
    (.readings ⟨3, true, [.reading "t05" "porch01" "humidity" (.finite 40),
      .reading "t05" "porch01" "temperature" (.finite 20), .reading "t07" "porch01" "humidity" (.finite 41)]⟩)
    _ (by decide +kernel) rfl (by decide +kernel)).mpr
    (Paging.walk_iff_paced.mp ⟨2, [0, 7], by decide +kernel⟩)

/-- The second page begins where it ends, and is asked for again and again. -/
theorem oneRow_repeats :
    ¬Endpoint.readings.Paginated pageEnv pageDb [⟨"grafana", true⟩] "Bearer grafana" (pageQuery "1") := by
  have page : ∀ q ∈ [pageQuery "1", (pageQuery "1").set "start" "t05"], pageAsk q =
      .ok (.readings ⟨1, true, [.reading "t05" "porch01" "humidity" (.finite 40)]⟩) := by decide +kernel
  have turned : ∀ q ∈ [pageQuery "1", (pageQuery "1").set "start" "t05"], ∀ n,
      crawl pageAsk n (q.set "start" "t05") = none → crawl pageAsk (n + 1) q = none := by
    intro q member n rest
    unfold crawl
    rw [page q member]
    exact Option.map_eq_none_iff.mpr rest
  have again : ∀ n, crawl pageAsk n ((pageQuery "1").set "start" "t05") = none := by
    intro n
    induction n with
    | zero => rfl
    | succ n ih => exact turned _ (by simp) n ((congrArg _ (QueryDict.set_set _)).trans ih)
  rintro ⟨fuel, visits, crawled, -⟩
  have never : crawl pageAsk fuel (pageQuery "1") = none := by
    cases fuel with
    | zero => rfl
    | succ n => exact turned _ (by simp) n (again n)
  exact absurd (crawled.symm.trans never) (by simp)

end SensorServer
