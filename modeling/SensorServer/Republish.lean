import SensorServer.Publishing

/-! Two passes over the same publish requests: the second one finds in the registry and
the catalog what it would write. -/
namespace SensorServer
open Program Upsert

def SingleVersions (w : World) : Prop :=
  ∀ f ∈ w.db.firmwares.rows, ∀ g ∈ w.db.firmwares.rows,
    f.hardwareRevision = g.hardwareRevision → f.version = g.version → f = g

/-- Each revision has one image a version, in a stored file of its own. -/
structure Catalogued (w : World) : Prop extends Filed w where
  distinct : ∀ f ∈ w.db.firmwares.rows, ∀ g ∈ w.db.firmwares.rows,
    f.hardwareRevision = g.hardwareRevision → f.version = g.version → f = g

theorem Catalogued.of_catalog {v w : World} (catalogued : Catalogued w)
    (rows : v.db.firmwares = w.db.firmwares) (media : v.media = w.media) : Catalogued v := by
  constructor
  · exact ⟨rows ▸ catalogued.named, media ▸ rows ▸ catalogued.held, rows ▸ catalogued.apart⟩
  · exact rows ▸ catalogued.distinct

theorem firmwareOf_row {w : World} (single : SingleVersions w) {f : Firmware}
    (present : f ∈ w.db.firmwares.rows) : firmwareOf w.db f.hardwareRevision f.version = some f := by
  cases found : firmwareOf w.db f.hardwareRevision f.version with
  | none =>
    have missed := List.find?_eq_none.mp found f present
    simp at missed
  | some g =>
    obtain ⟨row, revision, version⟩ := firmwareOf_spec found
    rw [single g row f present revision version]

theorem firmwareOf_publish {u : Upload} {w : World} (found : u.existing = firmwareOf w.db u.revision u.version)
    (env : Env) (file : String) (revision : String × Nat) (version : String) :
    firmwareOf (u.publish env file w).db revision version =
      if revision = u.revision ∧ version = u.version then some (u.row env file w.db.firmwares.next)
      else firmwareOf w.db revision version := by
  unfold firmwareOf at found ⊢
  cases replaced : u.existing with
  | none =>
    rw [rows_publish_new replaced, List.find?_append]
    by_cases same : revision = u.revision ∧ version = u.version
    · obtain ⟨rfl, rfl⟩ := same
      rw [← found, replaced, if_pos ⟨rfl, rfl⟩, Upload.row, replaced]
      simp
    · have other : ¬(u.revision = revision ∧ u.version = version) := fun h => same ⟨h.1.symm, h.2.symm⟩
      rw [if_neg same, Upload.row, replaced]
      simp [other]
  | some old =>
    obtain ⟨row, ofRevision, ofVersion⟩ := firmwareOf_spec (found.symm.trans replaced)
    rw [rows_publish_old replaced, List.find?_map]
    have columns : (fun f : Firmware => decide (f.hardwareRevision = revision) && decide (f.version = version)) ∘
        (fun f => if f.id = old.id then
          { f with file := file, md5 := u.md5, size := u.content.length, notes := u.notes } else f) =
        fun f => decide (f.hardwareRevision = revision) && decide (f.version = version) := by
      funext f
      dsimp only [Function.comp]
      split <;> rfl
    rw [columns]
    by_cases same : revision = u.revision ∧ version = u.version
    · obtain ⟨rfl, rfl⟩ := same
      rw [← found, replaced, if_pos ⟨rfl, rfl⟩, Option.map_some, if_pos rfl, Upload.row, replaced]
    · rw [if_neg same]
      cases held : w.db.firmwares.rows.find? (fun f => decide (f.hardwareRevision = revision) &&
          decide (f.version = version)) with
      | none => rfl
      | some g =>
        obtain ⟨present, gRevision, gVersion⟩ := @firmwareOf_spec w.db _ _ _ held
        have other : g.id ≠ old.id := by
          intro equal
          have one := Serial.eq_of_id w.db.firmwares present row equal
          exact same ⟨by rw [← gRevision, one, ofRevision], by rw [← gVersion, one, ofVersion]⟩
        rw [Option.map_some, if_neg other]

theorem row_key {u : Upload} {w : World} (found : u.existing = firmwareOf w.db u.revision u.version)
    (env : Env) (file : String) (next : Nat) :
    (u.row env file next).hardwareRevision = u.revision ∧ (u.row env file next).version = u.version := by
  unfold Upload.row
  cases replaced : u.existing with
  | none => exact ⟨rfl, rfl⟩
  | some old => exact (firmwareOf_spec (found.symm.trans replaced)).2

theorem singleVersions_publish {u : Upload} {w : World} (single : SingleVersions w)
    (found : u.existing = firmwareOf w.db u.revision u.version) (env : Env) (file : String) :
    SingleVersions (u.publish env file w) := by
  have rows := rows_publish env file found
  obtain ⟨revision, version⟩ := row_key found env file w.db.firmwares.next
  -- a row that stays is not the one of the key that is written
  have other : ∀ f ∈ w.db.firmwares.rows, u.existing ≠ some f →
      ¬(f.hardwareRevision = u.revision ∧ f.version = u.version) := by
    rintro f present kept ⟨sameRevision, sameVersion⟩
    rw [found, ← sameRevision, ← sameVersion] at kept
    exact kept (firmwareOf_row single present)
  intro f hf g hg sameRevision sameVersion
  rcases rows f hf with rfl | ⟨oldF, keptF⟩ <;> rcases rows g hg with rfl | ⟨oldG, keptG⟩
  · rfl
  · exact absurd ⟨sameRevision.symm.trans revision, sameVersion.symm.trans version⟩ (other g oldG keptG)
  · exact absurd ⟨sameRevision.trans revision, sameVersion.trans version⟩ (other f oldF keptF)
  · exact single f oldF g oldG sameRevision sameVersion

theorem catalogued_publish {env : Env} {u : Upload} {file : String} {w : World} (catalogued : Catalogued w)
    (found : u.existing = firmwareOf w.db u.revision u.version)
    (placed : placement env u (withoutImage w u.existing).media = .ok file) :
    Catalogued (u.publish env file w) :=
  ⟨filed_publish catalogued.toFiled found placed, singleVersions_publish catalogued.distinct found env file⟩

theorem catalogued_done {env : Env} {w v : World} {a : Asked} (catalogued : Catalogued w)
    (done : Done env w v a) : Catalogued v := by
  cases a with
  | code => rw [done]; exact catalogued.of_catalog rfl rfl
  | revision => rw [done]; exact catalogued.of_catalog rfl rfl
  | image i =>
    rcases done with ⟨-, -, rfl⟩ | ⟨-, file, placed, rfl⟩
    · exact catalogued
    · exact catalogued_publish catalogued rfl placed

theorem registry_publish (u : Upload) (env : Env) (file : String) (w : World) :
    (u.publish env file w).db.hardwareCodes = w.db.hardwareCodes ∧
      (u.publish env file w).db.hardwareRevisions = w.db.hardwareRevisions := by
  unfold Upload.publish rowSaved
  cases u.existing <;> simp [World.apply]

theorem entry_publish {env : Env} {i : Image} {w : World} {file : String} (catalogued : Catalogued w)
    (placed : placement env (i.upload w.db) (withoutImage w (i.upload w.db).existing).media = .ok file)
    (k : CatalogKey) : ((i.upload w.db).publish env file w).entry k =
      if k = .image i.revision i.version then some (.image i.md5 i.content.length i.notes (some i.content))
      else w.entry k := by
  obtain ⟨codes, revisions⟩ := registry_publish (i.upload w.db) env file w
  have found : (i.upload w.db).existing = firmwareOf w.db (i.upload w.db).revision (i.upload w.db).version := rfl
  cases k with
  | code hwCode => rw [if_neg (by simp), World.entry, codes, World.entry]
  | revision key => rw [if_neg (by simp), World.entry, revisions, World.entry]
  | image revision version =>
    rw [World.entry, firmwareOf_publish found]
    by_cases same : revision = i.revision ∧ version = i.version
    · obtain ⟨rfl, rfl⟩ := same
      rw [if_pos rfl, if_pos ⟨rfl, rfl⟩, Option.map_some, Upload.row_md5, Upload.row_size, Upload.row_notes,
        Upload.row_file, media_publish, lookup_new (placement_ok placed).1]
      rfl
    · rw [if_neg (show ¬(revision = (i.upload w.db).revision ∧ version = (i.upload w.db).version) from same),
        if_neg (by simpa using same), World.entry]
      cases held : firmwareOf w.db revision version with
      | none => rfl
      | some f =>
        obtain ⟨present, ofRevision, ofVersion⟩ := firmwareOf_spec held
        have kept : (i.upload w.db).existing ≠ some f := by
          intro equal
          obtain ⟨-, atRevision, atVersion⟩ := firmwareOf_spec (found.symm.trans equal)
          exact same ⟨ofRevision.symm.trans atRevision, ofVersion.symm.trans atVersion⟩
        rw [Option.map_some, Option.map_some, media_publish, lookup_kept catalogued.toFiled found present kept]

theorem entry_done {env : Env} {w v : World} {a : Asked} (catalogued : Catalogued w) (done : Done env w v a) :
    v.entry = upsert w.entry (a.key, a.write) := by
  funext k
  rw [upsert_apply]
  cases a with
  | code hwCode platform description modules =>
    rw [done]
    cases k with
    | code other =>
      change ((w.db.hardwareCodes.put (codeRow env (w.db.hardwareCodes.get? hwCode) hwCode platform description
        modules)).get? other).map _ = if CatalogKey.code other = .code hwCode then _ else _
      rw [Table.get?_put]
      by_cases same : hwCode = other
      · subst same
        rw [if_pos rfl, if_pos (show (codeRow ..).hwCode = hwCode from rfl)]
        rfl
      · rw [if_neg (show ¬(codeRow ..).hwCode = other from same), if_neg (by simpa using Ne.symm same)]
        rfl
    | revision => rfl
    | image => rfl
  | revision hwCode hwRev description nominal notes =>
    rw [done]
    cases k with
    | code => rfl
    | revision other =>
      change ((w.db.hardwareRevisions.put (revisionRow env (w.db.hardwareRevisions.get? (hwCode, hwRev)) hwCode
        hwRev description nominal notes)).get? other).map _ =
          if CatalogKey.revision other = .revision (hwCode, hwRev) then _ else _
      rw [Table.get?_put]
      by_cases same : (hwCode, hwRev) = other
      · subst same
        rw [if_pos rfl, if_pos (show (revisionRow ..).key = (hwCode, hwRev) from rfl)]
        rfl
      · rw [if_neg (show ¬(revisionRow ..).key = other from same), if_neg (by simpa using Ne.symm same)]
        rfl
    | image => rfl
  | image i =>
    change v.entry k = if k = .image i.revision i.version then
      (Asked.image i).write.act (w.entry (.image i.revision i.version)) else w.entry k
    rcases done with ⟨present, once, rfl⟩ | ⟨replacing, file, placed, rfl⟩
    · obtain ⟨old, held⟩ := Option.isSome_iff_exists.mp present
      by_cases same : k = .image i.revision i.version
      · rw [if_pos same, same, World.entry, held, Asked.write, if_neg (by simp [once])]
        rfl
      · rw [if_neg same]
    · rw [entry_publish catalogued placed]
      by_cases same : k = .image i.revision i.version
      · rw [if_pos same, if_pos same, Asked.write, World.entry]
        cases again : i.overwrite with
        | true => rfl
        | false =>
          cases held : firmwareOf w.db i.revision i.version with
          | none => rfl
          | some old =>
            have refused := replacing (by rw [held]; rfl)
            rw [again] at refused
            cases refused
      · rw [if_neg same, if_neg same]

def World.loose (w : World) : Media :=
  w.media.filter (fun entry => entry.1 ∉ w.db.firmwares.rows.map Firmware.file)

structure SameCatalog (v w : World) : Prop where
  codes : v.db.hardwareCodes.rows.map (fun row => { row with updatedAt := 0 }) =
    w.db.hardwareCodes.rows.map (fun row => { row with updatedAt := 0 })
  revisions : v.db.hardwareRevisions.rows.map (fun row => { row with updatedAt := 0 }) =
    w.db.hardwareRevisions.rows.map (fun row => { row with updatedAt := 0 })
  firmwares : v.db.firmwares.rows.map (fun f => ({ f with file := "" }, v.media.lookup f.file)) =
    w.db.firmwares.rows.map (fun f => ({ f with file := "" }, w.media.lookup f.file))
  loose : v.loose = w.loose

structure Kept (v w : World) : Prop where
  codes : v.db.hardwareCodes.rows.map (fun row => (row.hwCode, row.createdAt)) =
    w.db.hardwareCodes.rows.map (fun row => (row.hwCode, row.createdAt))
  revisions : v.db.hardwareRevisions.rows.map (fun row => (row.key, row.createdAt)) =
    w.db.hardwareRevisions.rows.map (fun row => (row.key, row.createdAt))
  firmwares : v.db.firmwares.rows.map (fun f => (f.id, f.hardwareRevision, f.version, f.uploadedAt)) =
    w.db.firmwares.rows.map (fun f => (f.id, f.hardwareRevision, f.version, f.uploadedAt))
  loose : v.loose = w.loose

theorem Kept.refl (w : World) : Kept w w := ⟨rfl, rfl, rfl, rfl⟩

theorem Kept.trans {u v w : World} (first : Kept u v) (second : Kept v w) : Kept u w :=
  ⟨first.codes.trans second.codes, first.revisions.trans second.revisions,
    first.firmwares.trans second.firmwares, first.loose.trans second.loose⟩

theorem loose_publish {env : Env} {u : Upload} {old : Firmware} {file : String} {w : World} (filed : Filed w)
    (found : u.existing = firmwareOf w.db u.revision u.version) (replaced : u.existing = some old)
    (placed : placement env u (withoutImage w u.existing).media = .ok file) :
    (u.publish env file w).loose = w.loose := by
  have row : old ∈ w.db.firmwares.rows := (firmwareOf_spec (found.symm.trans replaced)).1
  have free := (placement_ok placed).1
  unfold World.loose
  rw [media_publish, rows_publish_old replaced, replaced, media_withoutImage w (filed.named old row)]
  rw [replaced, media_withoutImage w (filed.named old row)] at free
  generalize renamed : List.map Firmware.file (w.db.firmwares.rows.map (fun f => if f.id = old.id then
    { f with file := file, md5 := u.md5, size := u.content.length, notes := u.notes } else f)) = files
  have mem_files : ∀ name, name ∈ files ↔
      name = file ∨ ∃ f ∈ w.db.firmwares.rows, f.id ≠ old.id ∧ f.file = name := by
    intro name
    rw [← renamed, List.map_map, List.mem_map]
    constructor
    · rintro ⟨f, present, rfl⟩
      by_cases own : f.id = old.id
      · exact .inl (by simp [own])
      · exact .inr ⟨f, present, own, by simp [own]⟩
    · rintro (rfl | ⟨f, present, other, rfl⟩)
      · exact ⟨old, row, by simp⟩
      · exact ⟨f, present, by simp [other]⟩
  rw [List.filter_append, List.filter_cons, if_neg (by simp [mem_files]), List.filter_nil, List.append_nil,
    List.filter_filter]
  refine List.filter_congr (fun entry inside => ?_)
  rw [← Bool.decide_and, decide_eq_decide, mem_files, List.mem_map]
  constructor
  · rintro ⟨unnamed, other⟩ ⟨f, present, same⟩
    by_cases own : f.id = old.id
    · rw [Serial.eq_of_id w.db.firmwares present row own] at same
      exact other same.symm
    · exact unnamed (.inr ⟨f, present, own, same⟩)
  · intro unnamed
    have other : entry.1 ≠ old.file := fun same => unnamed ⟨old, row, same.symm⟩
    refine ⟨?_, other⟩
    rintro (same | ⟨f, present, -, same⟩)
    · have left : entry ∈ w.media.filter (fun e => e.1 ≠ old.file) :=
        List.mem_filter.mpr ⟨inside, by simpa using other⟩
      rw [stored, Option.isSome_eq_false_iff, Option.isNone_iff_eq_none, List.lookup_eq_none_iff] at free
      simpa [same] using free entry left
    · exact unnamed ⟨f, present, same⟩

theorem kept_done {env : Env} {w v : World} {a : Asked} (catalogued : Catalogued w) (done : Done env w v a)
    (present : (w.entry a.key).isSome = true) : Kept v w := by
  cases a with
  | code hwCode platform description modules =>
    rw [Asked.key, World.entry, Option.isSome_map, Option.isSome_iff_exists] at present
    obtain ⟨old, held⟩ := present
    rw [done]
    exact ⟨Table.map_put_taken held (by rw [codeRow, held]; exact congrArg (·, _) (Table.key_get? held).symm),
      rfl, rfl, rfl⟩
  | revision hwCode hwRev description nominal notes =>
    rw [Asked.key, World.entry, Option.isSome_map, Option.isSome_iff_exists] at present
    obtain ⟨old, held⟩ := present
    rw [done]
    exact ⟨rfl, Table.map_put_taken held
      (by rw [revisionRow, held]; exact congrArg (·, _) (Table.key_get? held).symm), rfl, rfl⟩
  | image i =>
    rw [Asked.key, World.entry, Option.isSome_map, Option.isSome_iff_exists] at present
    obtain ⟨old, held⟩ := present
    rcases done with ⟨-, -, rfl⟩ | ⟨replacing, file, placed, rfl⟩
    · exact Kept.refl _
    · obtain ⟨codes, revisions⟩ := registry_publish (i.upload w.db) env file w
      refine ⟨by rw [codes], by rw [revisions], ?_, loose_publish catalogued.toFiled rfl held placed⟩
      rw [rows_publish_old held, List.map_map]
      refine List.map_congr_left (fun f _ => ?_)
      dsimp only [Function.comp]
      split <;> rfl

theorem sameCatalog {v w : World} (first : Catalogued v) (second : Catalogued w) (entries : v.entry = w.entry)
    (kept : Kept v w) : SameCatalog v w := by
  refine ⟨Table.map_eq_of_columns kept.codes ?_, Table.map_eq_of_columns kept.revisions ?_,
    Table.map_eq_of_columns kept.firmwares ?_, kept.loose⟩
  · intro r left q right columns
    obtain ⟨key, created⟩ := Prod.mk.inj columns
    have entry := congrFun entries (.code r.hwCode)
    rw [World.entry, World.entry, Table.get?_eq_some.mpr ⟨left, rfl⟩,
      Table.get?_eq_some.mpr ⟨right, key.symm⟩] at entry
    cases r
    cases q
    cases key
    cases created
    cases entry
    rfl
  · intro r left q right columns
    obtain ⟨key, created⟩ := Prod.mk.inj columns
    have entry := congrFun entries (.revision r.key)
    rw [World.entry, World.entry, Table.get?_eq_some.mpr ⟨left, rfl⟩,
      Table.get?_eq_some.mpr ⟨right, key.symm⟩] at entry
    cases r
    cases q
    cases key
    cases created
    cases entry
    rfl
  · intro f left g right columns
    simp only [Prod.mk.injEq] at columns
    obtain ⟨id, revision, version, uploaded⟩ := columns
    have entry := congrFun entries (.image f.hardwareRevision f.version)
    have held := firmwareOf_row second.distinct right
    rw [← revision, ← version] at held
    rw [World.entry, World.entry, firmwareOf_row first.distinct left, held, Option.map_some,
      Option.map_some] at entry
    simp only [Option.some.injEq, CatalogEntry.image.injEq] at entry
    obtain ⟨md5, size, notes, content⟩ := entry
    rw [content]
    cases f
    cases g
    cases id
    cases revision
    cases version
    cases uploaded
    cases md5
    cases size
    cases notes
    rfl

theorem Asked.isSome_write (a : Asked) (o : Option CatalogEntry) : (a.write.act o).isSome = true := by
  cases a with
  | image i => cases replacing : i.overwrite <;> simp [write, replacing, Write.act]
  | _ => rfl

/-- A request of the run, in the two environments it is handled in: the clocks, the
storage and the database may differ, the token and the readings of the request do not. -/
structure Republication where
  view : ApiView
  request : ApiRequest
  first : Env
  again : Env
  token : again.otaPublishToken = first.otaPublishToken
  hashed : again.md5 = first.md5
  parsed : again.intOfStr = first.intOfStr

namespace Republication

def asked (p : Republication) : Option Asked := p.view.asked p.first p.request

def publish (w : World) (p : Republication) : World := after (p.view.run p.first p.request) w

def republish (w : World) (p : Republication) : World := after (p.view.run p.again p.request) w

/-- The request answers 200, 201 or 409 in the first pass. -/
def Replied (w : World) (p : Republication) : Prop :=
  completed (outcome (p.view.run p.first p.request) w).1 = true

instance (w : World) (p : Republication) : Decidable (p.Replied w) := inferInstanceAs (Decidable (_ = true))

/-- In the second pass an image with ?overwrite=true finds a file name, room on the disk
and a database that commits. -/
def Taken (w : World) (p : Republication) : Prop :=
  ∀ i, p.asked = some (.image i) → i.overwrite = true → i.fits p.again w = true

theorem asked_again (p : Republication) : p.view.asked p.again p.request = p.asked := by
  unfold asked ApiView.asked tokenTaken imageAsked
  rw [p.token, p.hashed, p.parsed]

def Present (w : World) (p : Republication) : Prop :=
  ∃ a, p.asked = some a ∧ a.storable = true ∧ (w.entry a.key).isSome = true ∧
    ∀ k, a.parent = some k → (w.entry k).isSome = true

def writes (ps : List Republication) : List (CatalogKey × Write CatalogEntry) :=
  ps.filterMap (fun p => p.asked.map (fun a => (a.key, a.write)))

theorem writes_cons {p : Republication} {a : Asked} (asked : p.asked = some a) (ps : List Republication) :
    writes (p :: ps) = (a.key, a.write) :: writes ps := by
  rw [writes, List.filterMap_cons, asked]
  rfl

theorem Present.mono {v w : World} {p : Republication} (present : p.Present w)
    (kept : ∀ k, (w.entry k).isSome = true → (v.entry k).isSome = true) : p.Present v := by
  obtain ⟨a, asked, storable, own, parent⟩ := present
  exact ⟨a, asked, storable, kept _ own, fun k named => kept k (parent k named)⟩

theorem done_publish {w : World} {p : Republication} (ok : p.Replied w) :
    ∃ a, p.asked = some a ∧ a.storable = true ∧ (∀ k, a.parent = some k → (w.entry k).isSome = true) ∧
      Done p.first w (publish w p) a := by
  unfold Replied at ok
  rcases understood p.first p.request p.view w with ⟨-, refused⟩ | ⟨a, asked, same⟩
  · rw [refused] at ok
    cases ok
  · rw [same] at ok
    have done := done_of_answered ok
    unfold after at done
    rw [← same] at done
    exact ⟨a, asked, done⟩

theorem done_republish {w : World} {p : Republication} {a : Asked} (asked : p.asked = some a)
    (present : p.Present w) (taken : p.Taken w) : Done p.again w (republish w p) a := by
  obtain ⟨a', asked', storable, own, registered⟩ := present
  cases asked.symm.trans asked'
  rcases understood p.again p.request p.view w with ⟨none, -⟩ | ⟨a', asked', same⟩
  · rw [asked_again, asked] at none
    cases none
  · rw [asked_again] at asked'
    cases asked.symm.trans asked'
    have ok := answered_of_present storable registered own
      (fun i named replacing => taken i (named ▸ asked) replacing)
    have done := (done_of_answered ok).2.2
    unfold after at done
    rwa [← same] at done

theorem first_pass {w : World} (catalogued : Catalogued w) {ps : List Republication}
    (answered : Run.Along publish Replied w ps) :
    Catalogued (Run.run publish w ps) ∧ (Run.run publish w ps).entry = upserts w.entry (writes ps) ∧
      ∀ p ∈ ps, p.Present (Run.run publish w ps) := by
  induction ps generalizing w with
  | nil => exact ⟨catalogued, rfl, by simp⟩
  | cons p ps ih =>
    obtain ⟨a, asked, storable, registered, done⟩ := done_publish answered.1
    obtain ⟨last, entries, present⟩ := ih (catalogued_done catalogued done) answered.2
    have entry := entry_done catalogued done
    refine ⟨last, by rw [Run.run_cons, entries, entry, writes_cons asked]; rfl, fun q member => ?_⟩
    rcases List.mem_cons.mp member with rfl | later
    · have own : ((publish w q).entry a.key).isSome = true := by
        rw [entry, upsert_apply, if_pos rfl]
        exact a.isSome_write _
      have now : q.Present (publish w q) :=
        ⟨a, asked, storable, own, fun k named => by rw [entry]; exact isSome_upsert (registered k named) _⟩
      exact now.mono (fun k held => by rw [Run.run_cons, entries]; exact isSome_upserts held _)
    · exact present q later

theorem second_pass {w : World} (catalogued : Catalogued w) {ps : List Republication}
    (present : ∀ p ∈ ps, p.Present w) (taken : Run.Along republish Taken w ps) :
    Catalogued (Run.run republish w ps) ∧ (Run.run republish w ps).entry = upserts w.entry (writes ps) ∧
      Kept (Run.run republish w ps) w := by
  induction ps generalizing w with
  | nil => exact ⟨catalogued, rfl, Kept.refl w⟩
  | cons p ps ih =>
    have ready := present p List.mem_cons_self
    obtain ⟨a, asked, -, own, -⟩ := ready
    have done := done_republish asked (present p List.mem_cons_self) taken.1
    have entry := entry_done catalogued done
    obtain ⟨last, entries, kept⟩ := ih (catalogued_done catalogued done)
      (fun q later => (present q (List.mem_cons_of_mem _ later)).mono
        (fun k held => by rw [entry]; exact isSome_upsert held _)) taken.2
    exact ⟨last, by rw [Run.run_cons, entries, entry, writes_cons asked]; rfl,
      kept.trans (kept_done catalogued done own)⟩

end Republication

open Republication

theorem republication_harmless {w : World} (catalogued : Catalogued w) (requests : List Republication)
    (answered : Run.Along publish Replied w requests)
    (taken : Run.Along republish Taken (Run.run publish w requests) requests) :
    SameCatalog (Run.run republish (Run.run publish w requests) requests) (Run.run publish w requests) := by
  obtain ⟨known, written, present⟩ := first_pass catalogued answered
  obtain ⟨last, rewritten, kept⟩ := second_pass known present taken
  refine sameCatalog last known ?_ kept
  rw [rewritten, written, upserts_upserts]

def overwriting (again : Env) : Republication where
  view := .firmwares
  request := { publication "1.0" 2 with bearer := "s3cret", query := [("overwrite", "true")] }
  first := { stationEnv with otaPublishToken := "s3cret" }
  again := { stationEnv with
    otaPublishToken := "s3cret"
    now := 20
    alternatives := again.alternatives
    diskFull := again.diskFull
    commit := again.commit }
  token := rfl
  hashed := rfl
  parsed := rfl

theorem catalogued_station : Catalogued stationWorld := by
  constructor
  · constructor <;> simp [stationWorld, World.empty, Db.empty, Serial.empty, Table.empty]
  · simp [stationWorld, World.empty, Db.empty, Serial.empty, Table.empty]

theorem overwriting_harmless :
    let requests := [overwriting stationEnv]
    SameCatalog (Run.run republish (Run.run publish stationWorld requests) requests)
      (Run.run publish stationWorld requests) := by
  refine republication_harmless catalogued_station _ ⟨by decide +kernel, trivial⟩ ⟨?_, trivial⟩
  intro i asked _
  have image : (overwriting stationEnv).asked = some (.image ⟨("E32SHT40", 1), "1.0",
    "9e688c58a5487b8eaf69c9e1005ad0bf", "", [2], true⟩) := by decide +kernel
  cases image.symm.trans asked
  decide +kernel

/-- The second pass deletes the image and finds the disk full. -/
theorem fullDisk_loses :
    let requests := [overwriting { stationEnv with diskFull := some .nothing }]
    Run.Along publish Replied stationWorld requests ∧
      ¬SameCatalog (Run.run republish (Run.run publish stationWorld requests) requests)
        (Run.run publish stationWorld requests) := by
  refine ⟨⟨by decide +kernel, trivial⟩, fun same => ?_⟩
  exact absurd same.firmwares (by decide +kernel)

end SensorServer
