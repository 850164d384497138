import SensorServer.Republish

/-! The newest image of a revision over runs of publications (ota/views.py
firmware_latest_view and firmware_overview_view, ota/services.py compatible_firmwares):
three readers order by uploaded_at, which a replacement keeps. -/
namespace SensorServer
open Program

def newestImage (db : Db) (revision : String × Nat) : Option Firmware :=
  (OrderBy.descending Firmware.uploadedAt
    (db.firmwares.rows.filter (fun f => f.hardwareRevision = revision))).head?

structure AsksLatest (env : Env) (request : ApiRequest) (revision : String × Nat) : Prop where
  enabled : env.otaPublishToken ≠ ""
  bearer : request.bearer = env.otaPublishToken
  method : request.method = .get
  code : QueryDict.get request.query "hw_code" "" = revision.1
  named : revision.1 ≠ ""
  given : QueryDict.get request.query "hw_rev" "" ≠ ""
  parsed : env.intOfStr (QueryDict.get request.query "hw_rev" "") = some (revision.2 : Int)

def ListedFirst (groups : List CodeImages) (fw : Firmware) : Prop :=
  ∃ group ∈ groups, group.code.hwCode = fw.hardwareRevision.1 ∧
    ∃ images ∈ group.revisions, images.rev.key = fw.hardwareRevision ∧
      images.firmwares.head? = some fw ∧ images.latestId = some fw.id

structure ShownLatest (w : World) (fw : Firmware) : Prop where
  answered : ∀ env request, AsksLatest env request fw.hardwareRevision →
    outcome (firmwareLatestView env request) w = (.ok (.firmware fw.version fw.file fw.md5 fw.size false), w)
  compatible : ∀ device : Device, device.hardwareCode = some fw.hardwareRevision.1 →
    device.hwRev = some fw.hardwareRevision.2 → (compatibleFirmwares w.db device).head? = some fw
  listed : ∀ request : Request, request.user.may .admin = true →
    ∃ groups, outcome (firmwareOverviewView request) w = (.ok (.images groups), w) ∧ ListedFirst groups fw

theorem outcome_firmwareLatestView {env : Env} {request : ApiRequest} {revision : String × Nat}
    (asks : AsksLatest env request revision) (w : World) :
    outcome (firmwareLatestView env request) w =
      (match newestImage w.db revision with
      | none => .ok (.error 404 "not_found" "No firmware published for this (hw_code, hw_rev).")
      | some fw => .ok (.firmware fw.version fw.file fw.md5 fw.size false), w) := by
  have same : (fun f : Firmware => decide (f.hardwareRevision.1 = revision.1) &&
      decide ((f.hardwareRevision.2 : Int) = (revision.2 : Int))) =
      fun f => decide (f.hardwareRevision = revision) := by
    funext f
    simp [Prod.ext_iff]
  have given : ¬(revision.1 = "" ∨ QueryDict.get request.query "hw_rev" "" = "") := by
    simp [asks.named, asks.given]
  unfold firmwareLatestView publishTokenRequired newestImage
  rw [if_neg asks.enabled, if_neg (not_not.mpr asks.bearer), if_neg (not_not.mpr asks.method)]
  dsimp only
  rw [asks.code, if_neg given, asks.parsed]
  dsimp only
  rw [outcome_bind_ok (outcome_read _ w), same]
  cases (OrderBy.descending Firmware.uploadedAt (w.db.firmwares.rows.filter
    (fun f => decide (f.hardwareRevision = revision)))).head? <;> rfl

theorem head?_compatibleFirmwares (db : Db) {device : Device} {revision : String × Nat}
    (code : device.hardwareCode = some revision.1) (rev : device.hwRev = some revision.2) :
    (compatibleFirmwares db device).head? = newestImage db revision := by
  unfold compatibleFirmwares
  rw [code, rev]
  rfl

/-- One image a version and one a time in each revision; the codes of the revisions are there. -/
structure Dated (w : World) : Prop where
  single : SingleVersions w
  apart : ∀ f ∈ w.db.firmwares.rows, ∀ g ∈ w.db.firmwares.rows,
    f.hardwareRevision = g.hardwareRevision → f.uploadedAt = g.uploadedAt → f = g
  known : ∀ rev ∈ w.db.hardwareRevisions.rows, (w.db.hardwareCodes.get? rev.hardwareCode).isSome = true

theorem newestImage_iff {w : World} (dated : Dated w) {revision : String × Nat} {fw : Firmware} :
    newestImage w.db revision = some fw ↔ (fw ∈ w.db.firmwares.rows ∧ fw.hardwareRevision = revision) ∧
      ∀ f ∈ w.db.firmwares.rows, f.hardwareRevision = revision → f.uploadedAt ≤ fw.uploadedAt := by
  have apart : ∀ f ∈ w.db.firmwares.rows.filter (fun f => f.hardwareRevision = revision),
      ∀ g ∈ w.db.firmwares.rows.filter (fun f => f.hardwareRevision = revision),
      f.uploadedAt = g.uploadedAt → f = g := by
    intro f hf g hg same
    simp only [List.mem_filter, decide_eq_true_eq] at hf hg
    exact dated.apart f hf.1 g hg.1 (hf.2.trans hg.2.symm) same
  rw [newestImage, OrderBy.head?_descending_iff apart]
  simp only [List.mem_filter, decide_eq_true_eq, and_imp]

theorem revisionImages_first {w : World} (dated : Dated w) {rev : HardwareRevision} {fw : Firmware}
    (newest : newestImage w.db rev.key = some fw) :
    (revisionImages w.db rev).firmwares.head? = some fw ∧ (revisionImages w.db rev).latestId = some fw.id := by
  have first : (OrderBy.descending Firmware.uploadedAt (rev.firmwares w.db)).head? = some fw := by
    obtain ⟨⟨present, own⟩, most⟩ := (newestImage_iff dated).mp newest
    unfold HardwareRevision.firmwares
    rw [OrderBy.head?_descending_iff]
    · simp only [OrderBy.mem_descending, List.mem_filter, decide_eq_true_eq, and_imp]
      exact ⟨⟨present, own⟩, most⟩
    · simp only [OrderBy.mem_descending, List.mem_filter, decide_eq_true_eq, and_imp]
      exact fun f hf ownF g hg ownG => dated.apart f hf g hg (ownF.trans ownG.symm)
  unfold revisionImages
  dsimp only
  rw [first]
  exact ⟨rfl, rfl⟩

theorem outcome_firmwareOverviewView {request : Request} (admitted : request.user.may .admin = true)
    (w : World) : outcome (firmwareOverviewView request) w =
      (.ok (.images ((OrderBy.lexicographic HardwareCode.hwCode w.db.hardwareCodes.rows).map
        (codeImages w.db))), w) := by
  unfold firmwareOverviewView
  rw [roleRequired_eq, if_pos admitted, outcome_bind_ok (outcome_read _ w)]
  rfl

theorem listedFirst_of_newest {w : World} (dated : Dated w) {fw : Firmware}
    (registered : (w.db.hardwareRevisions.get? fw.hardwareRevision).isSome = true)
    (newest : newestImage w.db fw.hardwareRevision = some fw) :
    ListedFirst ((OrderBy.lexicographic HardwareCode.hwCode w.db.hardwareCodes.rows).map
      (codeImages w.db)) fw := by
  obtain ⟨rev, held⟩ := Option.isSome_iff_exists.mp registered
  obtain ⟨inside, key⟩ := Table.get?_eq_some.mp held
  obtain ⟨code, coded⟩ := Option.isSome_iff_exists.mp (dated.known rev inside)
  obtain ⟨present, hwCode⟩ := Table.get?_eq_some.mp coded
  refine ⟨codeImages w.db code, List.mem_map.mpr ⟨code, (OrderBy.mem_lexicographic _).mpr present, rfl⟩, ?_,
    revisionImages w.db rev, ?_, key, revisionImages_first dated (key ▸ newest)⟩
  · exact hwCode.trans (congrArg Prod.fst key)
  · refine List.mem_map.mpr ⟨rev, ?_, rfl⟩
    simp [inside, hwCode]

theorem shownLatest_iff {w : World} (dated : Dated w) {fw : Firmware}
    (registered : (w.db.hardwareRevisions.get? fw.hardwareRevision).isSome = true) :
    ShownLatest w fw ↔ newestImage w.db fw.hardwareRevision = some fw := by
  constructor
  · intro shown
    let device : Device :=
      { deviceId := "", createdAt := 0, hardwareCode := some fw.hardwareRevision.1,
        hwRev := some fw.hardwareRevision.2 }
    rw [← @head?_compatibleFirmwares w.db device fw.hardwareRevision rfl rfl]
    exact shown.compatible device rfl rfl
  · intro newest
    constructor
    · intro env request asks
      rw [outcome_firmwareLatestView asks, newest]
    · intro device code rev
      rw [head?_compatibleFirmwares w.db code rev, newest]
    · intro request admitted
      exact ⟨_, outcome_firmwareOverviewView admitted w, listedFirst_of_newest dated registered newest⟩

theorem mem_rows_publish {u : Upload} {w : World} (found : u.existing = firmwareOf w.db u.revision u.version)
    (env : Env) (file : String) {f : Firmware} :
    f ∈ (u.publish env file w).db.firmwares.rows ↔
      f = u.row env file w.db.firmwares.next ∨ (f ∈ w.db.firmwares.rows ∧ u.existing ≠ some f) := by
  constructor
  · exact rows_publish env file found f
  · rintro (rfl | ⟨before, kept⟩)
    · have written := firmwareOf_publish found env file u.revision u.version
      rw [if_pos ⟨rfl, rfl⟩] at written
      exact (firmwareOf_spec written).1
    · cases replaced : u.existing with
      | none =>
        rw [rows_publish_new replaced]
        exact List.mem_append_left _ before
      | some old =>
        have row : old ∈ w.db.firmwares.rows := (firmwareOf_spec (found.symm.trans replaced)).1
        have other : f.id ≠ old.id := by
          intro same
          exact kept (by rw [replaced, Serial.eq_of_id w.db.firmwares before row same])
        rw [rows_publish_old replaced]
        exact List.mem_map.mpr ⟨f, before, if_neg other⟩

theorem uploadedAt_row (u : Upload) (env : Env) (file : String) (next : Nat) :
    (u.row env file next).uploadedAt = (u.existing.map Firmware.uploadedAt).getD env.now := by
  unfold Upload.row
  cases u.existing <;> rfl

section Publication
variable {env : Env} {u : Upload} {w : World} (dated : Dated w)
  (past : ∀ f ∈ w.db.firmwares.rows, f.uploadedAt < env.now)
  (found : u.existing = firmwareOf w.db u.revision u.version) (file : String)
include dated past found

theorem dated_publish : Dated (u.publish env file w) := by
  obtain ⟨revision, -⟩ := row_key found env file w.db.firmwares.next
  -- the time of the row that is written is that of no other row of its revision
  have other : ∀ f ∈ w.db.firmwares.rows, u.existing ≠ some f → f.hardwareRevision = u.revision →
      f.uploadedAt ≠ (u.row env file w.db.firmwares.next).uploadedAt := by
    intro f present kept own same
    rw [uploadedAt_row] at same
    cases replaced : u.existing with
    | none =>
      rw [replaced] at same
      exact absurd same (ne_of_lt (past f present))
    | some old =>
      rw [replaced] at same
      obtain ⟨row, ofRevision, -⟩ := firmwareOf_spec (found.symm.trans replaced)
      exact kept (by rw [replaced, dated.apart f present old row (own.trans ofRevision.symm) same])
  constructor
  · exact singleVersions_publish dated.single found env file
  · intro f hf g hg sameRevision sameTime
    rcases rows_publish env file found f hf with rfl | ⟨oldF, keptF⟩ <;>
      rcases rows_publish env file found g hg with rfl | ⟨oldG, keptG⟩
    · rfl
    · exact absurd sameTime.symm (other g oldG keptG (sameRevision.symm.trans revision))
    · exact absurd sameTime (other f oldF keptF (sameRevision.trans revision))
    · exact dated.apart f oldF g oldG sameRevision sameTime
  · obtain ⟨codes, revisions⟩ := registry_publish u env file w
    rw [codes, revisions]
    exact dated.known

/-- The image written is the newest of its revision unless it takes the place, and keeps
the time, of an older one. -/
theorem newestImage_publish_iff :
    newestImage (u.publish env file w).db u.revision = some (u.row env file w.db.firmwares.next) ↔
      ∀ old, u.existing = some old → ∀ f ∈ w.db.firmwares.rows, f.hardwareRevision = u.revision →
        f.uploadedAt ≤ old.uploadedAt := by
  have rows := @mem_rows_publish u w found env file
  obtain ⟨revision, -⟩ := row_key found env file w.db.firmwares.next
  rw [newestImage_iff (dated_publish dated past found file), uploadedAt_row]
  constructor
  · rintro ⟨-, most⟩ old replaced f present own
    by_cases same : old = f
    · rw [same]
    · have kept : u.existing ≠ some f := by simpa [replaced] using same
      have below := most f (rows.mpr (.inr ⟨present, kept⟩)) own
      rwa [replaced] at below
  · intro most
    refine ⟨⟨rows.mpr (.inl rfl), revision⟩, fun f present own => ?_⟩
    rcases rows.mp present with rfl | ⟨before, -⟩
    · rw [uploadedAt_row]
    · cases replaced : u.existing with
      | none => exact le_of_lt (past f before)
      | some old => exact most old replaced f before own

omit dated in
theorem uploadedAt_publish {f : Firmware} (present : f ∈ (u.publish env file w).db.firmwares.rows) :
    f.uploadedAt ≤ env.now := by
  rcases rows_publish env file found f present with rfl | ⟨before, -⟩
  · rw [uploadedAt_row]
    cases replaced : u.existing with
    | none => exact le_rfl
    | some old => exact le_of_lt (past old (firmwareOf_spec (found.symm.trans replaced)).1)
  · exact le_of_lt (past f before)

end Publication

theorem registered_upload {env : Env} {request : ApiRequest} {db : Db} {u : Upload}
    (taken : uploadTaken env request db = some u) : (db.hardwareRevisions.get? u.revision).isSome = true := by
  simp only [uploadTaken, Option.ite_none_left_eq_some] at taken
  obtain ⟨-, -, taken⟩ := taken
  cases number : env.intOfStr (QueryDict.get request.post "hw_rev" "") with
  | none => simp [number] at taken
  | some hwRev =>
    cases file : uploadOf request.files with
    | none => simp [number, file] at taken
    | some upload =>
      simp only [number, file, Option.ite_none_left_eq_some] at taken
      obtain ⟨-, -, taken⟩ := taken
      split at taken
      · cases taken
      · next rev held =>
        rw [Option.ite_none_left_eq_some] at held
        simp only [Option.ite_none_left_eq_some, Option.some.injEq] at taken
        obtain ⟨-, -, rfl⟩ := taken
        rw [show rev.key = _ from Table.key_get? held.2, held.2]
        rfl

section Runs
variable {md5 : List UInt8 → String}

/-- After the request the image it published is the latest for the three readers. -/
def RanksPublished (w : World) (e : Release md5) : Prop :=
  ∀ u, e.upload w.db = some u →
    ∃ fw, firmwareOf (released w e).db u.revision u.version = some fw ∧ ShownLatest (released w e) fw

/-- The image of the request is a new version, or replaces the newest one of its revision. -/
def ReplacesNewest (w : World) (e : Release md5) : Prop :=
  ∀ u old, e.upload w.db = some u → u.existing = some old →
    ∀ f ∈ w.db.firmwares.rows, f.hardwareRevision = u.revision → f.uploadedAt ≤ old.uploadedAt

theorem published_cases {w : World} {e : Release md5} (published : Published w e) :
    ∃ u file, e.upload w.db = some u ∧ u.existing = firmwareOf w.db u.revision u.version ∧
      released w e = u.publish e.env file w := by
  rcases released_cases w e with ⟨-, refused, -⟩ | ⟨_, _, _, -, -, -, stopped, -⟩ |
    ⟨u, file, taken, -, found, -, -, same⟩
  · exact absurd published refused
  · exact absurd published stopped
  · exact ⟨u, file, taken, found, same⟩

theorem ranksPublished_iff {w : World} (dated : Dated w) {e : Release md5} (published : Published w e)
    (past : ∀ f ∈ w.db.firmwares.rows, f.uploadedAt < e.env.now) :
    RanksPublished w e ↔ ReplacesNewest w e := by
  obtain ⟨u, file, taken, found, same⟩ := published_cases published
  have newest := newestImage_publish_iff dated past found file
  have written := firmwareOf_publish found e.env file u.revision u.version
  rw [if_pos ⟨rfl, rfl⟩] at written
  obtain ⟨revision, -⟩ := row_key found e.env file w.db.firmwares.next
  have registered : (w.db.hardwareRevisions.get? u.revision).isSome = true := by
    unfold Release.upload at taken
    split at taken
    · cases taken
    · exact registered_upload taken
  have shown := @shownLatest_iff (u.publish e.env file w) (dated_publish dated past found file)
    (u.row e.env file w.db.firmwares.next)
    (by rw [revision, (registry_publish u e.env file w).2]; exact registered)
  rw [revision] at shown
  unfold RanksPublished ReplacesNewest
  rw [same]
  constructor
  · intro ranks u' old taken'
    cases taken.symm.trans taken'
    obtain ⟨fw, held, latest⟩ := ranks u taken
    cases written.symm.trans held
    exact newest.mp (shown.mp latest) old
  · intro replaces u' taken'
    cases taken.symm.trans taken'
    exact ⟨_, written, shown.mpr (newest.mpr (fun old => replaces u old taken))⟩

/-- In a run of publications at increasing times, each is the latest once it succeeds
exactly as long as no image older than the newest of its revision is replaced. -/
theorem published_latest_iff {w : World} (dated : Dated w) (es : List (Release md5))
    (later : ∀ e ∈ es, ∀ f ∈ w.db.firmwares.rows, f.uploadedAt < e.env.now)
    (increasing : es.Pairwise (fun e next => e.env.now < next.env.now))
    (published : Run.Along released Published w es) :
    Run.Along released RanksPublished w es ↔ Run.Along released ReplacesNewest w es := by
  induction es generalizing w with
  | nil => exact Iff.rfl
  | cons e es ih =>
    obtain ⟨first, rest⟩ := published
    obtain ⟨after, ordered⟩ := List.pairwise_cons.mp increasing
    have past := later e List.mem_cons_self
    obtain ⟨u, file, -, found, same⟩ := published_cases first
    refine and_congr (ranksPublished_iff dated first past) (ih ?_ ?_ ordered rest)
    · rw [same]
      exact dated_publish dated past found file
    · intro next member f present
      rw [same] at present
      exact lt_of_le_of_lt (uploadedAt_publish past found file present) (after next member)

end Runs

def registeredStation : World :=
  { stationWorld with
    db.hardwareCodes := Table.put (Table.empty _) { hwCode := "E32SHT40", createdAt := 0, updatedAt := 0 } }

def datedRelease (now : Time) (version : String) (image : UInt8) (query : QueryDict) :
    Release stationEnv.md5 where
  env := { stationEnv with otaPublishToken := "s3cret", now := now }
  hashed := rfl
  request := { publication version image with bearer := "s3cret", query := query }

def askLatest : ApiRequest :=
  { method := .get, bearer := "s3cret", query := [("hw_code", "E32SHT40"), ("hw_rev", "1")] }

theorem published_of_reply {md5 : List UInt8 → String} {e : Release md5} {w : World}
    {version file digest : String} {size : Nat} {created : Bool}
    (reply : (outcome (release e) w).1.toOption = some (.firmware version file digest size created)) :
    Published w e :=
  ⟨version, file, digest, size, created, congrArg Prod.fst (outcome_of_toOption reply)⟩

def twoVersions : World :=
  released (released registeredStation (datedRelease 10 "1.0" 1 [])) (datedRelease 20 "1.1" 2 [])

theorem published_twoVersions : Published registeredStation (datedRelease 10 "1.0" 1 []) ∧
    Published (released registeredStation (datedRelease 10 "1.0" 1 [])) (datedRelease 20 "1.1" 2 []) := by
  constructor
  · exact @published_of_reply _ _ _ "1.0" "fw/E32SHT40/1/1.0.bin" (stationEnv.md5 [1]) 1 true (by decide +kernel)
  · exact @published_of_reply _ _ _ "1.1" "fw/E32SHT40/1/1.1.bin" (stationEnv.md5 [2]) 1 true (by decide +kernel)

theorem newestReplaced_latest :
    Run.Along released RanksPublished registeredStation
      [datedRelease 10 "1.0" 1 [], datedRelease 20 "1.1" 2 [], datedRelease 30 "1.1" 1 [("overwrite", "true")]] := by
  obtain ⟨first, second⟩ := published_twoVersions
  let last := datedRelease 30 "1.1" 1 [("overwrite", "true")]
  have third : Published twoVersions last :=
    @published_of_reply _ _ _ "1.1" "fw/E32SHT40/1/1.1.bin" (stationEnv.md5 [1]) 1 false (by decide +kernel)
  have fresh : ∀ {w : World} {e : Release stationEnv.md5}, (e.upload w.db).bind Upload.existing = none →
      ReplacesNewest w e := by
    intro w e new u old taken replaced
    rw [taken, Option.bind_some, replaced] at new
    cases new
  have newest : ReplacesNewest twoVersions last := by
    intro u old taken replaced f stored own
    have held : (last.upload twoVersions.db).bind Upload.existing = some old := by rw [taken]; exact replaced
    have dated : ((last.upload twoVersions.db).bind Upload.existing).map Firmware.uploadedAt =
      some 20 := by decide +kernel
    have all : ∀ g ∈ twoVersions.db.firmwares.rows, g.uploadedAt ≤ 20 := by decide +kernel
    rw [held, Option.map_some, Option.some.injEq] at dated
    exact dated ▸ all f stored
  have dated : Dated registeredStation :=
    ⟨fun _ present => absurd present List.not_mem_nil, fun _ present => absurd present List.not_mem_nil, by decide⟩
  have published : Run.Along released Published registeredStation
      [datedRelease 10 "1.0" 1 [], datedRelease 20 "1.1" 2 [], last] := ⟨first, second, third, trivial⟩
  exact (published_latest_iff dated _ (fun _ _ _ present => absurd present List.not_mem_nil) (by decide) published).mpr
    ⟨fresh (by decide +kernel), fresh (by decide +kernel), newest, trivial⟩

/-- The image of 1.0 comes back at time 30, and 1.1 stays the latest. -/
theorem olderReplaced_not_latest :
    let es := [datedRelease 10 "1.0" 1 [], datedRelease 20 "1.1" 2 [],
      datedRelease 30 "1.0" 2 [("overwrite", "true")]]
    let w := Run.run released registeredStation es
    Run.Along released Published registeredStation es ∧
      es.Pairwise (fun e next => e.env.now < next.env.now) ∧
      ¬Run.Along released RanksPublished registeredStation es ∧
      (outcome (firmwareLatestView (datedRelease 40 "" 0 []).env askLatest) w).1.toOption =
        some (.firmware "1.1" "fw/E32SHT40/1/1.1.bin" (stationEnv.md5 [2]) 1 false) := by
  intro es w
  let last := datedRelease 30 "1.0" 2 [("overwrite", "true")]
  obtain ⟨first, second⟩ := published_twoVersions
  have third : Published twoVersions last :=
    @published_of_reply _ _ _ "1.0" "fw/E32SHT40/1/1.0.bin" (stationEnv.md5 [2]) 1 false (by decide +kernel)
  have answers : (outcome (firmwareLatestView (datedRelease 40 "" 0 []).env askLatest) w).1.toOption =
      some (.firmware "1.1" "fw/E32SHT40/1/1.1.bin" (stationEnv.md5 [2]) 1 false) := by decide +kernel
  refine ⟨⟨first, second, third, trivial⟩, by decide, ?_, answers⟩
  rintro ⟨-, -, ranks, -⟩
  have key : (last.upload twoVersions.db).map (fun u => (u.revision, u.version)) =
      some (("E32SHT40", 1), "1.0") := by decide +kernel
  obtain ⟨u, taken, named⟩ := Option.map_eq_some_iff.mp key
  obtain ⟨fw, held, shown⟩ := ranks u taken
  obtain ⟨-, revision, version⟩ := firmwareOf_spec held
  obtain ⟨ofRevision, ofVersion⟩ := Prod.mk.inj named
  have asks : AsksLatest (datedRelease 40 "" 0 []).env askLatest fw.hardwareRevision := by
    rw [revision, ofRevision]
    constructor <;> decide
  have published := congrArg (fun o => o.1.toOption) (shown.answered _ _ asks)
  have same := answers.symm.trans published
  simp only [Except.toOption, Option.some.injEq, Reply.firmware.injEq] at same
  rw [version, ofVersion] at same
  exact absurd same.1 (by decide)

end SensorServer
