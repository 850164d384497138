import SensorServer.Download
import SensorServer.Lib.Run

/-! The catalog and the stored images over runs of publications that may fail at any
point (ota/views.py `_publish_firmware`): the transaction restores the rows, not the files. -/
namespace SensorServer
open Program

abbrev Media := List (String × List UInt8)

/-- The image of a request that gets past its checks, and the row it replaces. -/
structure Upload where
  revision : String × Nat
  version : String
  md5 : String
  notes : String
  content : List UInt8
  existing : Option Firmware

def uploadTaken (env : Env) (request : ApiRequest) (db : Db) : Option Upload :=
  let hwCode := QueryDict.get request.post "hw_code" ""
  let version := QueryDict.get request.post "version" ""
  let md5 := (QueryDict.get request.post "md5" "").toLower
  if !hwCodeRe hwCode then none
  else if !versionRe version then none
  else match env.intOfStr (QueryDict.get request.post "hw_rev" "") with
  | none => none
  | some hwRev =>
    if !hexDigest md5 then none
    else match uploadOf request.files with
    | none => none
    | some upload =>
      if upload.length > maxFirmwareSize then none
      else match (if hwRev < 0 then none else db.hardwareRevisions.get? (hwCode, hwRev.toNat)) with
      | none => none
      | some rev =>
        if env.md5 upload ≠ md5 then none
        else if (firmwareOf db rev.key version).isSome &&
            !decide (QueryDict.get? request.query "overwrite" = some "true") then none
        else some ⟨rev.key, version, md5, QueryDict.get request.post "notes" "", upload,
          firmwareOf db rev.key version⟩

def placement (env : Env) (u : Upload) (media : Media) : Except (Raised × Media) String :=
  match storageName env media u.revision u.version with
  | none => .error (.storage, [])
  | some name => match env.diskFull with
    | some .nothing => .error (.storage, [])
    | some (.bytes count) => .error (.storage, [(name, u.content.take count)])
    | none =>
      if !firmwareInsertable u.version name u.md5 u.notes u.content.length then
        .error (.dataError, [(name, u.content)])
      else if env.commit then .ok name
      else .error (.database, [(name, u.content)])

def Upload.replace (u : Upload) (env : Env) : Act String :=
  replaceImage env u.revision u.version u.md5 u.notes u.content u.existing

theorem outcome_publishFirmware (env : Env) (request : ApiRequest) (w : World) :
    (uploadTaken env request w.db = none ∧ ∃ status kind detail,
      outcome (publishFirmware env request) w = (.ok (.error status kind detail), w)) ∨
    ∃ u, uploadTaken env request w.db = some u ∧ env.md5 u.content = u.md5 ∧
      u.existing = firmwareOf w.db u.revision u.version ∧
      outcome (publishFirmware env request) w = outcome (do
        let file ← u.replace env
        pure (Reply.firmware u.version file u.md5 u.content.length u.existing.isNone)) w := by
  unfold publishFirmware uploadTaken
  dsimp only
  split
  · exact .inl ⟨rfl, _, _, _, rfl⟩
  split
  · exact .inl ⟨rfl, _, _, _, rfl⟩
  cases env.intOfStr (QueryDict.get request.post "hw_rev" "") with
  | none => exact .inl ⟨rfl, _, _, _, rfl⟩
  | some hwRev =>
    dsimp only
    split
    · exact .inl ⟨rfl, _, _, _, rfl⟩
    cases uploadOf request.files with
    | none => exact .inl ⟨rfl, _, _, _, rfl⟩
    | some upload =>
      dsimp only
      split
      · exact .inl ⟨rfl, _, _, _, rfl⟩
      rw [outcome_bind_ok (outcome_read _ w)]
      cases (if hwRev < 0 then none else
          w.db.hardwareRevisions.get? (QueryDict.get request.post "hw_code" "", hwRev.toNat)) with
      | none => exact .inl ⟨rfl, _, _, _, rfl⟩
      | some rev =>
        dsimp only
        split
        · exact .inl ⟨rfl, _, _, _, rfl⟩
        next computed =>
        rw [outcome_bind_ok (outcome_read _ w)]
        split
        · exact .inl ⟨rfl, _, _, _, rfl⟩
        · exact .inr ⟨_, rfl, not_not.mp computed, rfl, rfl⟩

theorem withoutImage_media (w : World) (existing : Option Firmware) :
    withoutImage w existing = { w with media := (withoutImage w existing).media } := by
  cases existing with
  | none => rfl
  | some old =>
    unfold withoutImage
    dsimp only [Option.elim_some]
    split <;> rfl

/-- The row of the image once it is stored. -/
def Upload.row (u : Upload) (env : Env) (file : String) (next : Nat) : Firmware :=
  match u.existing with
  | some old => { old with file := file, md5 := u.md5, size := u.content.length, notes := u.notes }
  | none => ⟨next, u.revision, u.version, file, u.md5, u.content.length, env.now, u.notes⟩

@[simp] theorem Upload.row_file (u : Upload) (env : Env) (file : String) (next : Nat) :
    (u.row env file next).file = file := by
  unfold Upload.row
  cases u.existing <;> rfl

@[simp] theorem Upload.row_md5 (u : Upload) (env : Env) (file : String) (next : Nat) :
    (u.row env file next).md5 = u.md5 := by
  unfold Upload.row
  cases u.existing <;> rfl

@[simp] theorem Upload.row_size (u : Upload) (env : Env) (file : String) (next : Nat) :
    (u.row env file next).size = u.content.length := by
  unfold Upload.row
  cases u.existing <;> rfl

@[simp] theorem Upload.row_notes (u : Upload) (env : Env) (file : String) (next : Nat) :
    (u.row env file next).notes = u.notes := by
  unfold Upload.row
  cases u.existing <;> rfl

/-- The state after the image is stored and its row saved. -/
def Upload.publish (u : Upload) (env : Env) (file : String) (w : World) : World :=
  ((withoutImage w u.existing).apply (.storeFile file u.content)).apply
    (rowSaved env u.revision u.version file u.md5 u.notes u.content.length u.existing)

theorem outcome_replace (u : Upload) (env : Env) (w : World) :
    outcome (u.replace env) w = match placement env u (withoutImage w u.existing).media with
      | .ok file => (.ok file, u.publish env file w)
      | .error (e, left) => (.error e, { w with media := (withoutImage w u.existing).media ++ left }) := by
  have base := withoutImage_media w u.existing
  unfold Upload.replace replaceImage placement Upload.publish
  rw [outcome_atomic, outcome_bind_ok (outcome_clearImage u.existing w)]
  generalize withoutImage w u.existing = cleared at base ⊢
  unfold saveFile
  rw [outcome_bind, outcome_bind_ok (outcome_read World.media cleared)]
  cases storageName env cleared.media u.revision u.version with
  | none =>
    rw [base]
    simp
  | some name =>
    cases env.diskFull with
    | some left =>
      rw [base]
      cases left with
      | nothing => simp
      | bytes count => rfl
    | none =>
      dsimp only
      rw [outcome_bind_ok (outcome_emit (.storeFile name u.content) cleared), outcome_pure]
      dsimp only
      by_cases taken : firmwareInsertable u.version name u.md5 u.notes u.content.length = true
      · simp only [taken, Bool.not_true, Bool.false_eq_true, if_false]
        rw [outcome_bind, outcome_emit]
        cases env.commit with
        | true => cases u.existing <;> rfl
        | false =>
          rw [base]
          cases u.existing <;> rfl
      · simp only [taken, Bool.not_false, if_true]
        rw [base]
        rfl

theorem lookup_stored {media : Media} {file : String} {content : List UInt8}
    (held : media.lookup file = some content) (added : Media) :
    (media ++ added).lookup file = some content := by
  rw [List.lookup_append, held]
  rfl

theorem lookup_new {media : Media} {name : String} (free : stored media name = false)
    (content : List UInt8) : (media ++ [(name, content)]).lookup name = some content := by
  have absent : media.lookup name = none := by simpa [stored] using free
  rw [List.lookup_append, absent]
  simp

theorem placement_ok {env : Env} {u : Upload} {media : Media} {file : String}
    (placed : placement env u media = .ok file) : stored media file = false ∧ file ≠ "" := by
  unfold placement at placed
  split at placed
  · cases placed
  · next name given =>
    have named : name = file := by
      split at placed
      · cases placed
      · cases placed
      · split at placed
        · cases placed
        · split at placed <;> cases placed
          rfl
    subst named
    obtain ⟨free, direct | ⟨other, -, drawn⟩⟩ := availableName_spec given
    · exact ⟨free, by simp [direct, uploadDir]⟩
    · exact ⟨free, by simp [drawn, uploadDir]⟩

def Firmware.describes (f : Firmware) (md5 : List UInt8 → String) (media : Media) : Prop :=
  ∃ content, media.lookup f.file = some content ∧ md5 content = f.md5 ∧ content.length = f.size

def Sound (md5 : List UInt8 → String) (w : World) : Prop :=
  ∀ f ∈ w.db.firmwares.rows, f.describes md5 w.media

structure Intact (md5 : List UInt8 → String) (w : World) : Prop where
  sound : Sound md5 w
  named : ∀ f ∈ w.db.firmwares.rows, f.file ≠ ""
  apart : ∀ f ∈ w.db.firmwares.rows, ∀ g ∈ w.db.firmwares.rows, f.file = g.file → f = g

structure Filed (w : World) : Prop where
  named : ∀ f ∈ w.db.firmwares.rows, f.file ≠ ""
  held : ∀ f ∈ w.db.firmwares.rows, stored w.media f.file = true
  apart : ∀ f ∈ w.db.firmwares.rows, ∀ g ∈ w.db.firmwares.rows, f.file = g.file → f = g

theorem Intact.filed {md5 : List UInt8 → String} {w : World} (intact : Intact md5 w) : Filed w := by
  refine ⟨intact.named, fun f present => ?_, intact.apart⟩
  obtain ⟨content, held, -⟩ := intact.sound f present
  rw [stored, held]
  rfl

theorem intact_of_empty (md5 : List UInt8 → String) {w : World} (none : w.db.firmwares.rows = []) :
    Intact md5 w := by
  constructor <;> simp [Sound, none]

theorem Firmware.describes.of_lookup {f : Firmware} {md5 : List UInt8 → String} {media new : Media}
    (held : f.describes md5 media) (same : new.lookup f.file = media.lookup f.file) :
    f.describes md5 new := by
  obtain ⟨content, found, digest, length⟩ := held
  exact ⟨content, same.trans found, digest, length⟩

/-- A publish request, and the environment it is handled in; the digest is one function. -/
structure Release (md5 : List UInt8 → String) where
  env : Env
  hashed : env.md5 = md5
  request : ApiRequest

section
variable {md5 : List UInt8 → String}

def release (e : Release md5) : Act Reply := firmwaresView e.env { e.request with method := .post }

def released (w : World) (e : Release md5) : World := after (release e) w

def Published (w : World) (e : Release md5) : Prop :=
  ∃ version file md5 size created,
    (outcome (release e) w).1 = .ok (.firmware version file md5 size created)

/-- The property after one request: the catalog describes what is stored, and a request
that publishes nothing changed neither the rows nor their bytes. -/
structure Described (w : World) (e : Release md5) : Prop where
  sound : Sound md5 (released w e)
  inert : ¬Published w e → (released w e).db.firmwares = w.db.firmwares ∧
    ∀ f ∈ w.db.firmwares.rows, (released w e).media.lookup f.file = w.media.lookup f.file

/-- The image a request brings, once its token and its fields are accepted. -/
def Release.upload (e : Release md5) (db : Db) : Option Upload :=
  if e.env.otaPublishToken = "" ∨ e.request.bearer ≠ e.env.otaPublishToken then none
  else uploadTaken e.env e.request db

/-- An accepted request that replaces a row does not fail after the deletion, or leaves
under the row's file name the bytes it deleted. -/
def Spared (w : World) (e : Release md5) : Prop :=
  ∀ u old cause left, e.upload w.db = some u → u.existing = some old →
    placement e.env u (withoutImage w (some old)).media = .error (cause, left) →
    left.lookup old.file = w.media.lookup old.file

theorem outcome_release (e : Release md5) (w : World) :
    (e.upload w.db = none ∧ ∃ status kind detail,
      outcome (release e) w = (.ok (.error status kind detail), w)) ∨
    ∃ u, e.upload w.db = some u ∧ md5 u.content = u.md5 ∧
      u.existing = firmwareOf w.db u.revision u.version ∧
      outcome (release e) w = outcome (do
        let file ← u.replace e.env
        pure (Reply.firmware u.version file u.md5 u.content.length u.existing.isNone)) w := by
  unfold release firmwaresView publishTokenRequired Release.upload
  by_cases disabled : e.env.otaPublishToken = ""
  · exact .inl ⟨if_pos (.inl disabled), _, _, _, by rw [if_pos disabled]; rfl⟩
  · by_cases refused : e.request.bearer ≠ e.env.otaPublishToken
    · exact .inl ⟨if_pos (.inr refused), _, _, _, by rw [if_neg disabled, if_pos refused]; rfl⟩
    · rw [if_neg (not_or.mpr ⟨disabled, refused⟩), if_neg disabled, if_neg refused, if_pos rfl]
      rcases outcome_publishFirmware e.env { e.request with method := .post } w with
        refused | ⟨u, taken, digest, found, same⟩
      · exact .inl refused
      · exact .inr ⟨u, taken, e.hashed ▸ digest, found, same⟩

theorem spared_of_ok {w : World} {e : Release md5} (ok : (outcome (release e) w).1.isOk = true) : Spared w e := by
  intro u old cause left taken replaced failed
  rcases outcome_release e w with ⟨refused, -⟩ | ⟨v, same, -, -, ran⟩
  · rw [refused] at taken
    cases taken
  · obtain rfl : u = v := Option.some.inj (taken.symm.trans same)
    have stops := outcome_replace u e.env w
    rw [replaced, failed] at stops
    rw [ran, outcome_bind_error stops] at ok
    cases ok

/-- What a request does: nothing, a replacement that stops on the way, or a publication. -/
theorem released_cases (w : World) (e : Release md5) :
    (e.upload w.db = none ∧ ¬Published w e ∧ released w e = w) ∨
    (∃ u cause left, e.upload w.db = some u ∧ u.existing = firmwareOf w.db u.revision u.version ∧
      placement e.env u (withoutImage w u.existing).media = .error (cause, left) ∧ ¬Published w e ∧
      released w e = { w with media := (withoutImage w u.existing).media ++ left }) ∨
    ∃ u file, e.upload w.db = some u ∧ md5 u.content = u.md5 ∧
      u.existing = firmwareOf w.db u.revision u.version ∧
      placement e.env u (withoutImage w u.existing).media = .ok file ∧ Published w e ∧
      released w e = u.publish e.env file w := by
  unfold Published released after
  rcases outcome_release e w with ⟨none, status, kind, detail, refused⟩ | ⟨u, taken, digest, found, same⟩
  · refine .inl ⟨none, ?_, by rw [refused]⟩
    rw [refused]
    rintro ⟨_, _, _, _, _, published⟩
    cases published
  · have replaced := outcome_replace u e.env w
    cases placed : placement e.env u (withoutImage w u.existing).media with
    | error failure =>
      obtain ⟨cause, left⟩ := failure
      rw [placed] at replaced
      rw [outcome_bind_error replaced] at same
      refine .inr (.inl ⟨u, cause, left, taken, found, placed, ?_, by rw [same]⟩)
      rw [same]
      rintro ⟨_, _, _, _, _, published⟩
      cases published
    | ok file =>
      rw [placed] at replaced
      rw [outcome_bind_ok replaced] at same
      exact .inr (.inr ⟨u, file, taken, digest, found, placed, ⟨_, _, _, _, _, by rw [same]; rfl⟩,
        by rw [same]; rfl⟩)

theorem media_withoutImage (w : World) {old : Firmware} (named : old.file ≠ "") :
    (withoutImage w (some old)).media = w.media.filter (fun f => f.1 ≠ old.file) := by
  unfold withoutImage
  rw [Option.elim_some, if_pos named]
  rfl

theorem lookup_withoutImage {w : World} (filed : Filed w) {u : Upload}
    (found : u.existing = firmwareOf w.db u.revision u.version) {f : Firmware}
    (present : f ∈ w.db.firmwares.rows) (kept : u.existing ≠ some f) :
    (withoutImage w u.existing).media.lookup f.file = w.media.lookup f.file := by
  cases replaced : u.existing with
  | none => rfl
  | some old =>
    have row : old ∈ w.db.firmwares.rows := (firmwareOf_spec (found.symm.trans replaced)).1
    have other : f.file ≠ old.file := by
      intro shared
      exact kept (by rw [replaced, filed.apart f present old row shared])
    rw [media_withoutImage w (filed.named old row), lookup_filter_ne, if_neg other]

theorem lookup_kept {w : World} (filed : Filed w) {u : Upload}
    (found : u.existing = firmwareOf w.db u.revision u.version) {f : Firmware}
    (present : f ∈ w.db.firmwares.rows) (kept : u.existing ≠ some f) (added : Media) :
    ((withoutImage w u.existing).media ++ added).lookup f.file = w.media.lookup f.file := by
  obtain ⟨content, held⟩ := Option.isSome_iff_exists.mp (filed.held f present)
  rw [held]
  exact lookup_stored ((lookup_withoutImage filed found present kept).trans held) added

theorem lookup_replaced {w : World} {old : Firmware} (named : old.file ≠ "") (left : Media) :
    ((withoutImage w (some old)).media ++ left).lookup old.file = left.lookup old.file := by
  rw [media_withoutImage w named, List.lookup_append, lookup_filter_ne, if_pos rfl]
  rfl

/-- Exactly when the bytes of every row outlive a replacement that stops. -/
theorem stopped_iff {w : World} (filed : Filed w) {u : Upload} {left : Media}
    (found : u.existing = firmwareOf w.db u.revision u.version) :
    (∀ f ∈ w.db.firmwares.rows, ((withoutImage w u.existing).media ++ left).lookup f.file =
      w.media.lookup f.file) ↔
      ∀ old, u.existing = some old → left.lookup old.file = w.media.lookup old.file := by
  constructor
  · intro all old replaced
    have row : old ∈ w.db.firmwares.rows := (firmwareOf_spec (found.symm.trans replaced)).1
    have same := all old row
    rwa [replaced, lookup_replaced (filed.named old row)] at same
  · intro only f present
    by_cases kept : u.existing = some f
    · rw [kept, lookup_replaced (filed.named f present)]
      exact only f kept
    · exact lookup_kept filed found present kept left

theorem media_rowSaved (env : Env) (revision : String × Nat) (version file md5 notes : String)
    (size : Nat) (existing : Option Firmware) (w : World) :
    (w.apply (rowSaved env revision version file md5 notes size existing)).media = w.media := by
  cases existing <;> rfl

theorem media_publish (u : Upload) (env : Env) (file : String) (w : World) :
    (u.publish env file w).media = (withoutImage w u.existing).media ++ [(file, u.content)] := media_rowSaved ..

theorem rows_publish_new {u : Upload} (new : u.existing = none) (env : Env) (file : String) (w : World) :
    (u.publish env file w).db.firmwares.rows = w.db.firmwares.rows ++ [u.row env file w.db.firmwares.next] := by
  unfold Upload.publish Upload.row
  rw [new]
  rfl

theorem rows_publish_old {u : Upload} {old : Firmware} (replaced : u.existing = some old) (env : Env)
    (file : String) (w : World) :
    (u.publish env file w).db.firmwares.rows = w.db.firmwares.rows.map (fun f => if f.id = old.id then
      { f with file := file, md5 := u.md5, size := u.content.length, notes := u.notes } else f) := by
  unfold Upload.publish
  rw [replaced]
  simp [rowSaved, World.apply, Serial.rows_update]

theorem rows_publish (env : Env) {u : Upload} (file : String) {w : World}
    (found : u.existing = firmwareOf w.db u.revision u.version) :
    ∀ f ∈ (u.publish env file w).db.firmwares.rows,
      f = u.row env file w.db.firmwares.next ∨ (f ∈ w.db.firmwares.rows ∧ u.existing ≠ some f) := by
  intro f present
  cases replaced : u.existing with
  | none =>
    rw [rows_publish_new replaced] at present
    rcases List.mem_append.mp present with before | new
    · exact .inr ⟨before, by simp⟩
    · exact .inl (List.mem_singleton.mp new)
  | some old =>
    have row : old ∈ w.db.firmwares.rows := (firmwareOf_spec (found.symm.trans replaced)).1
    rw [rows_publish_old replaced] at present
    obtain ⟨g, before, rfl⟩ := List.mem_map.mp present
    by_cases same : g.id = old.id
    · rw [if_pos same, Serial.eq_of_id w.db.firmwares before row same, Upload.row, replaced]
      exact .inl rfl
    · rw [if_neg same]
      exact .inr ⟨before, fun equal => same (congrArg Firmware.id (Option.some.inj equal).symm)⟩

theorem filed_publish {env : Env} {u : Upload} {file : String} {w : World} (filed : Filed w)
    (found : u.existing = firmwareOf w.db u.revision u.version)
    (placed : placement env u (withoutImage w u.existing).media = .ok file) : Filed (u.publish env file w) := by
  obtain ⟨free, named⟩ := placement_ok placed
  have rows := rows_publish env file found
  have other : ∀ f ∈ w.db.firmwares.rows, u.existing ≠ some f → f.file ≠ file := by
    intro f present kept shared
    have held := filed.held f present
    rw [stored, ← lookup_withoutImage filed found present kept, shared, ← stored, free] at held
    cases held
  constructor
  · intro f present
    rcases rows f present with rfl | ⟨old, -⟩
    · rw [Upload.row_file]
      exact named
    · exact filed.named f old
  · intro f present
    rw [stored, media_publish]
    rcases rows f present with rfl | ⟨old, kept⟩
    · rw [Upload.row_file, lookup_new free]
      rfl
    · rw [lookup_kept filed found old kept]
      exact filed.held f old
  · intro f hf g hg shared
    rcases rows f hf with rfl | ⟨oldF, keptF⟩ <;> rcases rows g hg with rfl | ⟨oldG, keptG⟩
    · rfl
    · exact absurd (shared.symm.trans (Upload.row_file ..)) (other g oldG keptG)
    · exact absurd (shared.trans (Upload.row_file ..)) (other f oldF keptF)
    · exact filed.apart f oldF g oldG shared

theorem intact_publish {env : Env} {u : Upload} {file : String} {w : World} (intact : Intact md5 w)
    (found : u.existing = firmwareOf w.db u.revision u.version) (digest : md5 u.content = u.md5)
    (placed : placement env u (withoutImage w u.existing).media = .ok file) :
    Intact md5 (u.publish env file w) := by
  have filed := filed_publish intact.filed found placed
  refine ⟨fun f present => ?_, filed.named, filed.apart⟩
  rw [media_publish]
  rcases rows_publish env file found f present with rfl | ⟨old, kept⟩
  · exact ⟨u.content, by rw [Upload.row_file]; exact lookup_new (placement_ok placed).1 u.content,
      by rw [Upload.row_md5, digest], (Upload.row_size ..).symm⟩
  · exact (intact.sound f old).of_lookup (lookup_kept intact.filed found old kept _)

theorem described_iff_spared {w : World} (intact : Intact md5 w) (e : Release md5) :
    Described w e ↔ Spared w e := by
  rcases released_cases w e with ⟨none, unpublished, same⟩ |
    ⟨u, cause, left, taken, found, stops, unpublished, same⟩ |
    ⟨u, file, taken, digest, found, placed, published, same⟩
  · refine iff_of_true ⟨?_, fun _ => ⟨by rw [same], fun f _ => by rw [same]⟩⟩ ?_
    · rw [same]
      exact intact.sound
    · intro u old cause left taken
      rw [none] at taken
      cases taken
  · have spare := @stopped_iff w intact.filed u left found
    have bytes : Spared w e ↔
        ∀ old, u.existing = some old → left.lookup old.file = w.media.lookup old.file := by
      constructor
      · exact fun spared old replaced => spared u old cause left taken replaced (replaced ▸ stops)
      · intro only u' old cause' left' taken' replaced stops'
        cases taken.symm.trans taken'
        rw [← replaced] at stops'
        cases stops.symm.trans stops'
        exact only old replaced
    rw [bytes, ← spare]
    constructor
    · intro described f present
      have kept := (described.inert unpublished).2 f present
      rwa [same] at kept
    · intro kept
      refine ⟨?_, fun _ => ⟨by rw [same], fun f present => ?_⟩⟩
      · rw [same]
        exact fun f present => (intact.sound f present).of_lookup (kept f present)
      · rw [same]
        exact kept f present
  · refine iff_of_true ⟨?_, fun unpublished => absurd published unpublished⟩ ?_
    · rw [same]
      exact (intact_publish intact found digest placed).sound
    · intro u' old cause left taken' replaced stops
      cases taken.symm.trans taken'
      rw [← replaced, placed] at stops
      cases stops

theorem intact_released {w : World} (intact : Intact md5 w) {e : Release md5} (spared : Spared w e) :
    Intact md5 (released w e) := by
  have described := (described_iff_spared intact e).mpr spared
  rcases released_cases w e with ⟨-, -, same⟩ | ⟨u, cause, left, -, -, -, -, same⟩ |
    ⟨u, file, -, digest, found, placed, -, same⟩
  · rw [same]
    exact intact
  · have rows : (released w e).db.firmwares.rows = w.db.firmwares.rows := by rw [same]
    exact ⟨described.sound, rows ▸ intact.named, rows ▸ intact.apart⟩
  · rw [same]
    exact intact_publish intact found digest placed

theorem catalog_described_iff {w : World} (intact : Intact md5 w) (es : List (Release md5)) :
    Run.Along released Described w es ↔ Run.Along released Spared w es :=
  @Run.along_iff _ _ released Described Spared (Intact md5) (fun _ e known => described_iff_spared known e)
    (fun _ _ known spared => intact_released known spared) w es intact

end

def stationRelease (image : UInt8) (query : QueryDict) (notes : String) : Release stationEnv.md5 where
  env := { stationEnv with otaPublishToken := "s3cret" }
  hashed := rfl
  request :=
    { publication "1.0" image with
      bearer := "s3cret"
      query := query
      post := ("notes", notes) :: (publication "1.0" image).post }

def firstImage : Release stationEnv.md5 := stationRelease 1 [] "first build"
def fixedImage : Release stationEnv.md5 := stationRelease 2 [("overwrite", "true")] "fixes the probe"
def refusedNotes : Release stationEnv.md5 := stationRelease 2 [("overwrite", "true")] "fixes\x00"

theorem replacedImage_described : Run.Along released Described stationWorld [firstImage, fixedImage] := by
  exact (catalog_described_iff (intact_of_empty _ rfl) _).mpr
    ⟨spared_of_ok (by decide +kernel), spared_of_ok (by decide +kernel), trivial⟩

/-- The second image is stored under the name of the first, whose row comes back. -/
theorem refusedNotes_misdescribes :
    ¬Run.Along released Described stationWorld [firstImage, refusedNotes] := by
  rintro ⟨-, described, -⟩
  let w := released (released stationWorld firstImage) refusedNotes
  have row : w.db.firmwares.rows =
      [⟨0, ("E32SHT40", 1), "1.0", "fw/E32SHT40/1/1.0.bin", stationEnv.md5 [1], 1, 10, "first build"⟩] := by
    decide +kernel
  obtain ⟨content, held, digest, -⟩ := described.sound _ (row ▸ List.mem_singleton_self _)
  have bytes : w.media.lookup "fw/E32SHT40/1/1.0.bin" = some [2] := by decide +kernel
  cases bytes.symm.trans held
  exact absurd digest (by decide)

end SensorServer
