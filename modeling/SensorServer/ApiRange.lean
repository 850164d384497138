import SensorServer.ReadApi

/-! The window parser of the read API (api/views.py _parse_range): when it ends in an
error text or in a window, and when an exception leaves it. -/
namespace SensorServer

def Authorized (env : ReadEnv) (apiKeys : List ApiKey) (request : ReadRequest) : Prop :=
  ∀ view, apiKeyRequired env apiKeys request view = view

def AnswersBadRequest (env : ReadEnv) (query : QueryDict) (detail : String) : Prop :=
  ∀ db apiKeys request, request.query = query → Authorized env apiKeys request →
    readingsView env db apiKeys request = .ok (readBadRequest detail) ∧
      ∃ text, aggregatesView env db apiKeys request = .ok (readBadRequest text)

def Within (env : Env) (start stop : Stamp) : Prop :=
  0 < stop.ormInstant env - start.ormInstant env ∧ stop.ormInstant env - start.ormInstant env ≤ maxRange

/-- The parser returns an error text, answered with 400, or a window. -/
def SoundRange (env : ReadEnv) (query : QueryDict) : Prop :=
  (∃ detail, parseRange env.toEnv query = .ok (.error detail) ∧ AnswersBadRequest env query detail) ∨
    ∃ start stop, parseRange env.toEnv query = .ok (.ok (start, stop)) ∧ Within env.toEnv start stop

/-- Two naive times in range on the wall clock are in range as instants. -/
def Steady (env : Env) (start stop : Stamp) : Prop :=
  start.offset = none → stop.offset = none → 0 < stop.clock - start.clock → stop.clock - start.clock ≤ maxRange →
    Within env start stop

/-- `end`, or now. -/
def endOf (env : Env) (query : QueryDict) : Parsed :=
  if QueryDict.get query "end" "" = "" then .stamp ⟨env.now, some 0⟩
  else env.parseDatetime (QueryDict.get query "end" "")

/-- No impossible date is read, the day before `end` is in the calendar where `start` is
absent, and the bounds are steady. -/
def ProperRange (env : Env) (query : QueryDict) : Prop :=
  match endOf env query with
  | .invalid => False
  | .unparsed => True
  | .stamp stop =>
    if QueryDict.get query "start" "" = "" then
      calendarStart ≤ stop.clock - defaultRange ∧ Steady env ⟨stop.clock - defaultRange, stop.offset⟩ stop
    else match env.parseDatetime (QueryDict.get query "start" "") with
      | .invalid => False
      | .unparsed => True
      | .stamp start => Steady env start stop

section Range
variable {env : ReadEnv} {query : QueryDict} {start stop : Stamp}

theorem answersBadRequest {detail : String} (refused : parseRange env.toEnv query = .ok (.error detail)) :
    AnswersBadRequest env query detail := by
  rintro db apiKeys request rfl authorized
  constructor
  · unfold readingsView listView
    rw [authorized, refused]
    rfl
  · unfold aggregatesView
    rw [authorized]
    dsimp only
    split
    · exact ⟨_, rfl⟩
    · unfold listView
      rw [refused]
      exact ⟨detail, rfl⟩

theorem within_iff_distance (steady : Steady env.toEnv start stop) (positive : 0 < start.distance env.toEnv stop)
    (bounded : start.distance env.toEnv stop ≤ maxRange) : Within env.toEnv start stop := by
  unfold Stamp.distance at positive bounded
  split at positive
  · next naive =>
    rw [if_pos naive] at bounded
    exact steady naive.1 naive.2 positive bounded
  · next aware =>
    rw [if_neg aware] at bounded
    exact ⟨positive, bounded⟩

theorem soundRange_of_bounds
    (ends : parseBound env.toEnv (QueryDict.get query "end" "") (.ok ⟨env.now, some 0⟩) = .ok (some stop))
    (starts : parseBound env.toEnv (QueryDict.get query "start" "") stop.dayBefore = .ok (some start)) :
    SoundRange env query ↔ Steady env.toEnv start stop := by
  have range := parseRange_of_bounds ends starts
  constructor
  · rintro (⟨detail, refused, -⟩ | ⟨first, last, window, within_⟩)
    · intro naive naive' positive bounded
      have distance : start.distance env.toEnv stop = stop.clock - start.clock := if_pos ⟨naive, naive'⟩
      rw [range, distance, if_neg (not_le.mpr positive), if_neg (not_lt.mpr bounded)] at refused
      cases refused
    · obtain ⟨ends', starts', -⟩ := parseRange_eq_ok window
      rw [ends] at ends'
      cases ends'
      rw [starts] at starts'
      cases starts'
      exact fun _ _ _ _ => within_
  · intro steady
    by_cases positive : start.distance env.toEnv stop ≤ 0
    · rw [if_pos positive] at range
      exact .inl ⟨_, range, answersBadRequest range⟩
    · by_cases long : maxRange < start.distance env.toEnv stop
      · rw [if_neg positive, if_pos long] at range
        exact .inl ⟨_, range, answersBadRequest range⟩
      · rw [if_neg positive, if_neg long] at range
        exact .inr ⟨_, _, range, within_iff_distance steady (not_le.mp positive) (not_lt.mp long)⟩

theorem not_soundRange {e : Raised} (raised : parseRange env.toEnv query = .error e) : ¬ SoundRange env query := by
  rintro (⟨detail, refused, -⟩ | ⟨first, last, window, -⟩)
  · rw [raised] at refused
    cases refused
  · rw [raised] at window
    cases window

theorem parseBound_end :
    parseBound env.toEnv (QueryDict.get query "end" "") (.ok ⟨env.now, some 0⟩) =
      match endOf env.toEnv query with
      | .stamp s => .ok (some s)
      | .unparsed => .ok none
      | .invalid => .error .valueError := by
  unfold parseBound endOf
  split <;> rfl

section Start
variable (ends : parseBound env.toEnv (QueryDict.get query "end" "") (.ok ⟨env.now, some 0⟩) = .ok (some stop))
include ends

theorem parseRange_start_raised {e : Raised}
    (starts : parseBound env.toEnv (QueryDict.get query "start" "") stop.dayBefore = .error e) :
    parseRange env.toEnv query = .error e := by
  unfold parseRange
  rw [ends]
  dsimp only [bind, Except.bind]
  rw [starts]

theorem parseRange_start_unread
    (starts : parseBound env.toEnv (QueryDict.get query "start" "") stop.dayBefore = .ok none) :
    parseRange env.toEnv query = .ok (.error "Invalid 'start' timestamp (expected ISO 8601).") := by
  unfold parseRange
  rw [ends]
  dsimp only [bind, Except.bind]
  rw [starts]
  rfl

theorem soundRange_default (absent : QueryDict.get query "start" "" = "") :
    SoundRange env query ↔ calendarStart ≤ stop.clock - defaultRange ∧
      Steady env.toEnv ⟨stop.clock - defaultRange, stop.offset⟩ stop := by
  have starts : parseBound env.toEnv (QueryDict.get query "start" "") stop.dayBefore =
      stop.dayBefore.map some := if_pos absent
  by_cases early : stop.clock - defaultRange < calendarStart
  · have raised : stop.dayBefore = .error .overflow := if_pos early
    have failed := starts.trans (congrArg (Except.map some) raised)
    refine iff_of_false (not_soundRange (parseRange_start_raised ends failed)) ?_
    exact fun proper => absurd early (not_lt.mpr proper.1)
  · have before : stop.dayBefore = .ok ⟨stop.clock - defaultRange, stop.offset⟩ := if_neg early
    rw [soundRange_of_bounds ends (starts.trans (congrArg (Except.map some) before))]
    exact ⟨fun steady => ⟨not_lt.mp early, steady⟩, And.right⟩

theorem soundRange_given (given_ : QueryDict.get query "start" "" ≠ "") :
    SoundRange env query ↔ match env.parseDatetime (QueryDict.get query "start" "") with
      | .invalid => False
      | .unparsed => True
      | .stamp start => Steady env.toEnv start stop := by
  have starts : parseBound env.toEnv (QueryDict.get query "start" "") stop.dayBefore =
      match env.parseDatetime (QueryDict.get query "start" "") with
      | .stamp s => .ok (some s)
      | .unparsed => .ok none
      | .invalid => .error .valueError := if_neg given_
  cases first : env.parseDatetime (QueryDict.get query "start" "") with
  | invalid =>
    rw [first] at starts
    exact iff_of_false (not_soundRange (parseRange_start_raised ends starts)) id
  | unparsed =>
    rw [first] at starts
    have refused := parseRange_start_unread ends starts
    exact iff_of_true (.inl ⟨_, refused, answersBadRequest refused⟩) trivial
  | stamp start =>
    rw [first] at starts
    exact soundRange_of_bounds ends starts

end Start

theorem sound_range_iff : SoundRange env query ↔ ProperRange env.toEnv query := by
  have ends := @parseBound_end env query
  unfold ProperRange
  cases last : endOf env.toEnv query with
  | invalid =>
    rw [last] at ends
    refine iff_of_false (@not_soundRange env query .valueError ?_) id
    unfold parseRange
    rw [ends]
    rfl
  | unparsed =>
    rw [last] at ends
    have refused : parseRange env.toEnv query =
        .ok (.error "Invalid 'end' timestamp (expected ISO 8601).") := by
      unfold parseRange
      rw [ends]
      rfl
    exact iff_of_true (.inl ⟨_, refused, answersBadRequest refused⟩) trivial
  | stamp stop =>
    rw [last] at ends
    dsimp only
    split
    · next absent => exact soundRange_default ends absent
    · next given_ => exact soundRange_given ends given_

end Range

/-- Paris around the end of summer time in 2024. -/
def autumnEnv : ReadEnv where
  now := seconds 1783728000
  inTimeZone clock := clock - if clock < seconds 1729998000 then seconds 7200 else seconds 3600
  parseDatetime s :=
    if s = "2026-02-30T00:00:00Z" then .invalid
    else if s = "0001-01-01T12:00:00Z" then .stamp ⟨calendarStart + seconds 43200, some 0⟩
    else if s = "2024-10-26T12:00:00" then .stamp ⟨seconds 1729944000, none⟩
    else if s = "2025-10-27T12:00:00" then .stamp ⟨seconds 1761566400, none⟩
    else .unparsed
  hashToken := id
  isoformat := fun _ => "t"

/-- An impossible date, a default before year 1, and 366 days on the wall clock that last an hour more. -/
theorem autumn_ranges_fail :
    (¬ SoundRange autumnEnv [("end", "2026-02-30T00:00:00Z")] ∧
      ¬ SoundRange autumnEnv [("end", "0001-01-01T12:00:00Z")]) ∧
    ¬ SoundRange autumnEnv [("start", "2024-10-26T12:00:00"), ("end", "2025-10-27T12:00:00")] := by
  refine ⟨⟨not_soundRange (e := .valueError) rfl, not_soundRange (e := .overflow) rfl⟩, ?_⟩
  rintro (⟨detail, refused, -⟩ | ⟨start, stop, window, -, bounded⟩)
  · cases refused
  · cases window
    exact absurd bounded (by decide)

example : parseRange autumnEnv.toEnv [("start", "yesterday")] =
    .ok (.error "Invalid 'start' timestamp (expected ISO 8601).") := by decide

end SensorServer
