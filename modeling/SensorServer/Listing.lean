import SensorServer.Latest
import SensorServer.References

/-! The listing of the published images (ota/views.py A4) against the publications that were
answered: the catalog is a map of them. -/
namespace SensorServer
open Program

/-- _firmware_dict; the names of the stored files need no quoting in the URL. -/
structure FirmwareDict where
  hwCode : String
  hwRev : Nat
  version : String
  md5 : String
  size : Nat
  url : Option String
  uploadedAt : Time
  notes : String
  deriving DecidableEq

def firmwareDict (fw : Firmware) : FirmwareDict where
  hwCode := fw.hardwareRevision.1
  hwRev := fw.hardwareRevision.2
  version := fw.version
  md5 := fw.md5
  size := fw.size
  url := if fw.file = "" then none else some ("/media/" ++ fw.file)
  uploadedAt := fw.uploadedAt
  notes := fw.notes

inductive Listing where
  | refused (status : Nat) (kind detail : String)
  | firmwares (count : Nat) (items : List FirmwareDict)
  deriving DecidableEq

/-- Meta.ordering of Firmware: the revision, then the newest first. -/
def Firmware.rank (fw : Firmware) : String ×ₗ Nat ×ₗ OrderDual Time :=
  toLex (fw.hardwareRevision.1, toLex (fw.hardwareRevision.2, OrderDual.toDual fw.uploadedAt))

def listingOf (rows : List Firmware) : Listing :=
  let firmwares := (OrderBy.lexicographic Firmware.rank rows).map firmwareDict
  .firmwares firmwares.length firmwares

/-- PostgreSQL refuses a text with a NUL; it is not asked for a revision that the column cannot hold. -/
def listFirmwares (env : Env) (request : ApiRequest) : Act Listing := do
  let hwCode := QueryDict.get request.query "hw_code" ""
  let hwRev := QueryDict.get request.query "hw_rev" ""
  let rows ← read (fun w => w.db.firmwares.rows)
  let qs := if hwCode = "" then rows else rows.filter (fun f => f.hardwareRevision.1 = hwCode)
  if hwRev = "" then
    if nulFree hwCode then pure (listingOf qs) else fail .dataError
  else match env.intOfStr hwRev with
  | none => pure (.refused 400 "bad_request" "'hw_rev' must be an integer.")
  | some hwRev =>
    if nulFree hwCode ∨ hwRev < 0 ∨ (Device.smallintMax : Int) < hwRev then
      pure (listingOf (qs.filter (fun f => (f.hardwareRevision.2 : Int) = hwRev)))
    else fail .dataError

/-- firmwares_view of a GET, under publish_token_required. -/
def firmwaresListed (env : Env) (request : ApiRequest) : Act Listing :=
  if env.otaPublishToken = "" then
    pure (.refused 503 "publication_disabled" "OTA_PUBLISH_TOKEN is not configured.")
  else if request.bearer ≠ env.otaPublishToken then
    pure (.refused 401 "unauthorized" "Invalid or missing publish token.")
  else listFirmwares env request

structure Entry where
  md5 : String
  size : Nat
  notes : String
  uploadedAt : Time
  deriving DecidableEq

/-- By the revision and the version. -/
abbrev Ledger := (String × Nat) × String → Option Entry

def Image.place (i : Image) : (String × Nat) × String := (i.revision, i.version)

/-- An image takes a free place, and replaces another one only if it asks to; it keeps the time of
the first one. -/
def Ledger.publish (l : Ledger) (now : Time) (i : Image) : Ledger := fun k =>
  if k ≠ i.place then l k
  else match l k with
    | none => some ⟨i.md5, i.content.length, i.notes, now⟩
    | some old => if i.overwrite then some ⟨i.md5, i.content.length, i.notes, old.uploadedAt⟩ else some old

/-- The image of an A3 request that is answered as stored. -/
def published (w : World) : Event → Option (Time × Image)
  | .api env .firmwares request =>
    match ApiView.asked env request .firmwares, (outcome (firmwaresView env request) w).1 with
    | some (.image i), .ok (.firmware ..) => some (env.now, i)
    | _, _ => none
  | _ => none

def Ledger.record (l : Ledger) : Option (Time × Image) → Ledger
  | some (now, i) => l.publish now i
  | none => l

/-- The ledger after the publications of a run. -/
def ledgerAfter (l : Ledger) (w : World) : List Event → Ledger
  | [] => l
  | e :: es => ledgerAfter (l.record (published w e)) (serve w e) es

def Firmware.entry (f : Firmware) : Entry := ⟨f.md5, f.size, f.notes, f.uploadedAt⟩

def Firmware.place (f : Firmware) : (String × Nat) × String := (f.hardwareRevision, f.version)

def World.ledger (w : World) : Ledger := fun k => (firmwareOf w.db k.1 k.2).map Firmware.entry

section Step
variable {w : World}

theorem ledger_of_firmwares {v : World} (same : v.db.firmwares = w.db.firmwares) : v.ledger = w.ledger := by
  funext k
  unfold World.ledger firmwareOf
  rw [same]

theorem singleVersions_of_firmwares {v : World} (same : v.db.firmwares = w.db.firmwares) (single : SingleVersions w) :
    SingleVersions v := by
  unfold SingleVersions
  rw [same]
  exact single

def Image.Replaces (i : Image) (db : Db) : Prop :=
  (firmwareOf db i.revision i.version).isSome = true → i.overwrite = true

theorem ledger_publish {i : Image} (replaces : i.Replaces w.db) (env : Env) (file : String) :
    ((i.upload w.db).publish env file w).ledger = w.ledger.publish env.now i := by
  have found : (i.upload w.db).existing = firmwareOf w.db (i.upload w.db).revision (i.upload w.db).version := rfl
  funext k
  have written : k = i.place ↔ k.1 = (i.upload w.db).revision ∧ k.2 = (i.upload w.db).version := Prod.ext_iff
  rw [World.ledger, firmwareOf_publish found, Ledger.publish]
  by_cases own : k = i.place
  · subst own
    rw [if_pos (written.mp rfl), if_neg (not_not.mpr rfl), Option.map_some, Firmware.entry, uploadedAt_row]
    have held : w.ledger i.place = (firmwareOf w.db i.revision i.version).map Firmware.entry := rfl
    rw [held]
    unfold Image.Replaces at replaces
    cases taken : firmwareOf w.db i.revision i.version with
    | none => simp [Image.upload, taken]
    | some old => simp [Image.upload, taken, replaces (taken ▸ rfl), Firmware.entry]
  · rw [if_neg (fun same => own (written.mpr same)), if_pos own, World.ledger]

theorem imageAsked_image {env : Env} {request : ApiRequest} {a : Asked}
    (asked : ApiView.asked env request .firmwares = some a) : ∃ i, a = .image i := by
  unfold ApiView.asked imageAsked at asked
  dsimp only at asked
  repeat' split at asked
  all_goals first | cases asked; done | exact ⟨_, (Option.some.inj asked).symm⟩

/-- An A3 request stores the image that it is answered for, or leaves the catalog. -/
theorem publish_cases (env : Env) (request : ApiRequest) :
    (published w (.api env .firmwares request) = none ∧
      (after (firmwaresView env request) w).db.firmwares = w.db.firmwares) ∨
    ∃ i file, published w (.api env .firmwares request) = some (env.now, i) ∧ i.Replaces w.db ∧
      after (firmwaresView env request) w = (i.upload w.db).publish env file w := by
  have step := understood_imageAsked env request w
  change (ApiView.asked env request .firmwares = none ∧ _) ∨
    ∃ a, ApiView.asked env request .firmwares = some a ∧ _ at step
  rcases step with ⟨unasked, refused⟩ | ⟨a, asked, run⟩
  · refine .inl ⟨by rw [published, unasked], ?_⟩
    by_cases posted : request.method = .post
    · let e : Release env.md5 := ⟨env, rfl, request⟩
      have same : release e = firmwaresView env request := by
        rw [release, ← posted]
      rcases released_cases w e with ⟨-, -, kept⟩ | ⟨u, _, left, -, -, -, -, kept⟩ | ⟨_, _, -, -, -, -, answered, -⟩
      · rw [← same]
        exact congrArg (fun u : World => u.db.firmwares) kept
      · rw [← same, show after (release e) w = released w e from rfl, kept]
      · obtain ⟨_, _, _, _, created, reply⟩ := answered
        rw [same] at reply
        rw [reply] at refused
        cases created <;> cases refused
    · unfold firmwaresView publishTokenRequired
      rw [if_neg posted]
      split
      · rfl
      · split <;> rfl
  · obtain ⟨i, rfl⟩ := imageAsked_image asked
    have unanswered : ∀ {status kind detail v},
        outcome ((Asked.image i).publish env) w = (.ok (.error status kind detail), v) →
        published w (.api env .firmwares request) = none := by
      intro status kind detail v reply
      rw [published, asked, run, reply]
    cases known : w.db.hardwareRevisions.get? i.revision with
    | none =>
      have reply : outcome ((Asked.image i).publish env) w =
          (.ok (.error 400 "bad_request" "Unknown (hw_code, hw_rev); register them first (A1/A2)."), w) := by
        unfold Asked.publish
        rw [outcome_bind_ok (outcome_read _ w), known]
        rfl
      exact .inl ⟨unanswered reply, by rw [after, run, reply]⟩
    | some rev =>
      have stores := outcome_publish_image known env
      split at stores
      · exact .inl ⟨unanswered stores, by rw [after, run, stores]⟩
      · next fresh =>
        have replaced := outcome_replace (i.upload w.db) env w
        cases placed : placement env (i.upload w.db) (withoutImage w (i.upload w.db).existing).media with
        | error failure =>
          rw [placed] at replaced
          rw [outcome_bind_error replaced] at stores
          exact .inl ⟨by rw [published, asked, run, stores], by rw [after, run, stores]⟩
        | ok file =>
          rw [placed] at replaced
          rw [outcome_bind_ok replaced] at stores
          refine .inr ⟨i, file, ?_, fun taken => ?_, by rw [after, run, stores]; rfl⟩
          · rw [published, asked, run, stores]
            rfl
          · rw [taken, Bool.true_and, Bool.not_eq_true', Bool.not_eq_false] at fresh
            exact fresh

end Step

theorem firmwares_of_registry {w v : World} (same : v.registry = w.registry) : v.db.firmwares = w.db.firmwares :=
  congrArg (fun r => r.2.2.1) same

/-- Every event but an answered publication leaves the catalog. -/
theorem catalog_cases (w : World) (e : Event) :
    (published w e = none ∧ (serve w e).db.firmwares = w.db.firmwares) ∨
    ∃ env i file, published w e = some (env.now, i) ∧ i.Replaces w.db ∧
      serve w e = (i.upload w.db).publish env file w := by
  cases e with
  | message d =>
    exact .inl ⟨rfl, firmwares_of_registry (confined_registry.handleMessage trivial (fun w => confined_registry.each w
      (.createDevice _) trivial) (fun _ => trivial) (fun _ => trivial) w)⟩
  | web env view request deviceId =>
    exact .inl ⟨rfl, firmwares_of_registry (confined_registry.view trivial view (fun _ => trivial)
      (fun _ => trivial) w)⟩
  | api env view request =>
    cases view with
    | hwCode code => exact .inl ⟨rfl, kept_hwCode (P := fun v => v.db.firmwares = w.db.firmwares) rfl
        (fun _ => rfl) code⟩
    | hwRevision code rev =>
      exact .inl ⟨rfl, kept_hwRevision (P := fun v => v.db.firmwares = w.db.firmwares) rfl (fun _ _ => rfl) code rev⟩
    | firmwares =>
      rcases @publish_cases w env request with kept | ⟨i, file, stored, replaces, after_⟩
      · exact .inl kept
      · exact .inr ⟨env, i, file, stored, replaces, after_⟩

theorem ledger_serve (w : World) (e : Event) : (serve w e).ledger = w.ledger.record (published w e) := by
  rcases catalog_cases w e with ⟨none_, kept⟩ | ⟨env, i, file, stored, replaces, after_⟩
  · rw [none_, ledger_of_firmwares kept]
    rfl
  · rw [stored, after_, ledger_publish replaces]
    rfl

theorem singleVersions_serve {w : World} (single : SingleVersions w) (e : Event) : SingleVersions (serve w e) := by
  rcases catalog_cases w e with ⟨-, kept⟩ | ⟨env, i, file, -, -, after_⟩
  · exact singleVersions_of_firmwares kept single
  · rw [after_]
    exact singleVersions_publish single rfl env file

theorem ledger_run (w : World) (es : List Event) : (Run.run serve w es).ledger = ledgerAfter w.ledger w es := by
  induction es generalizing w with
  | nil => rfl
  | cons e es ih =>
    rw [Run.run_cons, ih, ledger_serve]
    rfl

theorem singleVersions_run {w : World} (single : SingleVersions w) (es : List Event) :
    SingleVersions (Run.run serve w es) :=
  @Run.invariant _ _ serve (fun _ _ => True) SingleVersions (fun _ e before _ => singleVersions_serve before e)
    w es single (Run.along_of_all _ _ (fun _ _ _ => trivial))

def FirmwareDict.place (d : FirmwareDict) : (String × Nat) × String := ((d.hwCode, d.hwRev), d.version)

def FirmwareDict.entry (d : FirmwareDict) : Entry := ⟨d.md5, d.size, d.notes, d.uploadedAt⟩

def FirmwareDict.rank (d : FirmwareDict) : String ×ₗ Nat ×ₗ OrderDual Time :=
  toLex (d.hwCode, toLex (d.hwRev, OrderDual.toDual d.uploadedAt))

/-- The image is of the code and the revision that the query names, if it names them. -/
def Wanted (env : Env) (request : ApiRequest) (place : (String × Nat) × String) : Prop :=
  (QueryDict.get request.query "hw_code" "" = "" ∨ place.1.1 = QueryDict.get request.query "hw_code" "") ∧
  (QueryDict.get request.query "hw_rev" "" = "" ∨
    env.intOfStr (QueryDict.get request.query "hw_rev" "") = some (place.1.2 : Int))

/-- A request with the token, whose code the database takes and whose revision is absent or an integer. -/
structure ListsImages (env : Env) (request : ApiRequest) : Prop where
  token : tokenTaken env request = true
  code : nulFree (QueryDict.get request.query "hw_code" "") = true
  revision : QueryDict.get request.query "hw_rev" "" = "" ∨
    (env.intOfStr (QueryDict.get request.query "hw_rev" "")).isSome = true

theorem outcome_firmwaresListed {env : Env} {request : ApiRequest} (lists : ListsImages env request) (w : World) :
    ∃ rows : List Firmware, outcome (firmwaresListed env request) w = (.ok (listingOf rows), w) ∧
      rows.Sublist w.db.firmwares.rows ∧
      ∀ f, f ∈ rows ↔ f ∈ w.db.firmwares.rows ∧ Wanted env request f.place := by
  obtain ⟨token, code, revision⟩ := lists
  simp only [tokenTaken, Bool.and_eq_true, decide_eq_true_eq] at token
  unfold firmwaresListed listFirmwares Wanted
  rw [if_neg token.1, if_neg (not_not.mpr token.2), outcome_bind_ok (outcome_read _ w)]
  dsimp only
  generalize QueryDict.get request.query "hw_code" "" = hwCode at code
  generalize QueryDict.get request.query "hw_rev" "" = hwRev at revision
  have coded : ∀ f, f ∈ (if hwCode = "" then w.db.firmwares.rows
      else w.db.firmwares.rows.filter (fun f => decide (f.hardwareRevision.1 = hwCode))) ↔
      f ∈ w.db.firmwares.rows ∧ (hwCode = "" ∨ f.hardwareRevision.1 = hwCode) := by
    intro f
    split <;> simp [*]
  have sub : (if hwCode = "" then w.db.firmwares.rows
      else w.db.firmwares.rows.filter (fun f => decide (f.hardwareRevision.1 = hwCode))).Sublist
        w.db.firmwares.rows := by
    split
    · exact List.Sublist.refl _
    · exact List.filter_sublist
  by_cases absent : hwRev = ""
  · rw [if_pos absent, if_pos code]
    exact ⟨_, rfl, sub, fun f => by simp [coded, absent, Firmware.place]⟩
  · rw [if_neg absent]
    obtain ⟨n, parsed⟩ := Option.isSome_iff_exists.mp (revision.resolve_left absent)
    rw [parsed]
    dsimp only
    rw [if_pos (.inl code)]
    refine ⟨_, rfl, List.filter_sublist.trans sub, fun f => ?_⟩
    rw [List.mem_filter, coded]
    simp only [absent, Firmware.place, decide_eq_true_eq, Option.some.injEq, false_or, and_assoc]
    exact and_congr_right (fun _ => and_congr_right (fun _ => eq_comm))

theorem ledger_of_row {w : World} (single : SingleVersions w) {f : Firmware} (present : f ∈ w.db.firmwares.rows) :
    w.ledger f.place = some f.entry := by
  change (firmwareOf w.db f.hardwareRevision f.version).map Firmware.entry = some f.entry
  rw [firmwareOf_row single present]
  rfl

theorem row_of_ledger {w : World} {place : (String × Nat) × String} {entry : Entry}
    (held : w.ledger place = some entry) : ∃ f ∈ w.db.firmwares.rows, f.place = place ∧ f.entry = entry := by
  obtain ⟨f, found, rfl⟩ := Option.map_eq_some_iff.mp held
  obtain ⟨present, revision, version⟩ := firmwareOf_spec found
  exact ⟨f, present, Prod.ext revision version, rfl⟩

theorem places_nodup {w : World} (single : SingleVersions w) : (w.db.firmwares.rows.map Firmware.place).Nodup := by
  refine List.Nodup.map_on (fun f hf g hg same => ?_) (List.Nodup.of_map _ w.db.firmwares.unique)
  exact single f hf g hg (congrArg Prod.fst same) (congrArg Prod.snd same)

/-- After every run A4 answers what the publications of the run that were answered as stored add up
to: one item for each of the images it asks for, in the order of the revisions and the newest first. -/
theorem listing_answers_ledger (es : List Event) {env : Env} {request : ApiRequest} (lists : ListsImages env request) :
    let w := Run.run serve World.empty es
    let ledger := ledgerAfter (fun _ => none) World.empty es
    ∃ items : List FirmwareDict,
      outcome (firmwaresListed env request) w = (.ok (.firmwares items.length items), w) ∧
      (items.map FirmwareDict.place).Nodup ∧ items.Pairwise (fun a b => a.rank ≤ b.rank) ∧
      ∀ place entry, (∃ item ∈ items, item.place = place ∧ item.entry = entry) ↔
        Wanted env request place ∧ ledger place = some entry := by
  intro w ledger
  have single : SingleVersions w := singleVersions_run (fun f present => absurd present List.not_mem_nil) es
  have same : w.ledger = ledger := ledger_run World.empty es
  obtain ⟨rows, answer, sub, members⟩ := outcome_firmwaresListed lists w
  have sorted : (OrderBy.lexicographic Firmware.rank rows).Perm rows := List.perm_insertionSort _ rows
  refine ⟨(OrderBy.lexicographic Firmware.rank rows).map firmwareDict, answer, ?_, ?_, ?_⟩
  · rw [List.map_map]
    exact (sorted.map Firmware.place).nodup_iff.mpr ((sub.map Firmware.place).nodup (places_nodup single))
  · rw [List.pairwise_map]
    exact OrderBy.pairwise_lexicographic Firmware.rank rows
  · intro place entry
    rw [← same]
    constructor
    · rintro ⟨_, shown, rfl, rfl⟩
      obtain ⟨f, stored, rfl⟩ := List.mem_map.mp shown
      obtain ⟨present, asks⟩ := (members f).mp ((OrderBy.mem_lexicographic _).mp stored)
      exact ⟨asks, ledger_of_row single present⟩
    · rintro ⟨asks, held⟩
      obtain ⟨f, present, rfl, rfl⟩ := row_of_ledger held
      refine ⟨firmwareDict f, List.mem_map_of_mem ?_, rfl, rfl⟩
      exact (OrderBy.mem_lexicographic _).mpr ((members f).mpr ⟨present, asks⟩)

/-- A code, a revision and an image are published, and the image is replaced. -/
def stationPublished : List Event :=
  let at_ (now : Time) : Env := { stationEnv with otaPublishToken := "s3cret", now := now }
  [.api (at_ 1) (.hwCode "E32SHT40") { method := .put, bearer := "s3cret" },
   .api (at_ 2) (.hwRevision "E32SHT40" 1) { method := .put, bearer := "s3cret" },
   .api (at_ 3) .firmwares { publication "1.0" 1 with bearer := "s3cret" },
   .api (at_ 4) .firmwares { publication "1.0" 2 with bearer := "s3cret" },
   .api (at_ 5) .firmwares { publication "1.0" 2 with bearer := "s3cret", query := [("overwrite", "true")] }]

theorem stationPublished_listed :
    ∃ items : List FirmwareDict,
      outcome (firmwaresListed { stationEnv with otaPublishToken := "s3cret" } askLatest)
        (Run.run serve World.empty stationPublished) =
          (.ok (.firmwares items.length items), Run.run serve World.empty stationPublished) ∧
      ∃ item ∈ items, item.place = (("E32SHT40", 1), "1.0") ∧ item.entry = ⟨stationEnv.md5 [2], 1, "", 3⟩ := by
  have lists : ListsImages { stationEnv with otaPublishToken := "s3cret" } askLatest :=
    ⟨by decide, by decide, .inr (by decide)⟩
  obtain ⟨items, answer, -, -, shown⟩ := listing_answers_ledger stationPublished lists
  exact ⟨items, answer, (shown _ _).mpr ⟨⟨.inr rfl, .inr (by decide)⟩, by decide +kernel⟩⟩

end SensorServer
