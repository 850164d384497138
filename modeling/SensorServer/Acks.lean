import SensorServer.Handlers
import SensorServer.Lib.Run

/-! Acknowledgements and the commands they answer. An ack names an action, not a
row: the handler gives it to the newest pending row of that action. -/
namespace SensorServer
open Program

def Payload.fields (p : Payload) : Fields :=
  match p.body with
  | .value (.obj data) => data
  | _ => []

/-- A device's ack for an action, with status ok or error. -/
structure IsAck (deviceId : String) (action : Json) (d : Delivery) : Prop where
  kind : d.kind = .ack
  device : d.deviceId = deviceId
  object : d.payload.body = .value (.obj d.payload.fields)
  action : Dict.get? d.payload.fields "action" = some action
  status : Dict.get? d.payload.fields "status" = some (.str "ok") ∨
    Dict.get? d.payload.fields "status" = some (.str "error")

namespace Delivery

def acked (d : Delivery) : CommandStatus :=
  ackStatus ((Dict.get? d.payload.fields "status").getD (.str ""))

def text (d : Delivery) : String := ackText d.payload.fields

/-- Whether the handler takes the ack up: within the size limit, with a true action,
and a text the column holds. -/
def readable (d : Delivery) (action : Json) : Bool :=
  decide (d.payload.size ≤ maxPayloadSize) && action.truthy && nulFree (pyTake 256 d.text)

end Delivery

section Lookup
variable {w : World} {device : Device} {deviceId : String} {action : Json} {d : Delivery}

theorem ackIgnored_of_isAck (ack : IsAck deviceId action d) :
    ackIgnored action ((Dict.get? d.payload.fields "status").getD (.str "")) = !action.truthy := by
  rcases ack.status with h | h <;> simp [ackIgnored, h]

theorem acked_terminal (d : Delivery) : d.acked.terminal = true := by
  unfold Delivery.acked ackStatus
  split <;> rfl

theorem ackLookup_taken (known : w.device? deviceId = some device) (ack : IsAck deviceId action d)
    (small : d.payload.size ≤ maxPayloadSize) (named : action.truthy = true) :
    outcome (ackLookup d.deviceId d.payload) w =
      (.ok ((ackTarget w.db deviceId action).map (fun row => ⟨row, d.acked, d.text⟩)), w) := by
  have id : device.deviceId = deviceId := Table.key_get? known
  have considered := ackIgnored_of_isAck ack
  have fits : ¬ d.payload.size > maxPayloadSize := not_lt.mpr small
  unfold ackLookup withObject
  rw [if_neg fits, ack.object]
  unfold withDevice
  simp only [outcome_bind, outcome_read, ack.device, known, ack.action, Option.getD_some]
  rw [considered, named, id]
  rfl

theorem ackLookup_missed (ack : IsAck deviceId action d)
    (missed : ¬ d.payload.size ≤ maxPayloadSize ∨ action.truthy = false) :
    (∀ found, (outcome (ackLookup d.deviceId d.payload) w).1 = .ok found → found = none) ∧
      (after (ackLookup d.deviceId d.payload) w).db.commandLogs = w.db.commandLogs := by
  unfold ackLookup withObject after
  by_cases small : d.payload.size ≤ maxPayloadSize
  swap
  · rw [if_pos (not_le.mp small)]
    exact ⟨fun _ h => by cases h; rfl, rfl⟩
  have unnamed : action.truthy = false := by
    rcases missed with h | h
    · exact absurd small h
    · exact h
  have considered := ackIgnored_of_isAck ack
  rw [if_neg (not_lt.mpr small), ack.object]
  unfold withDevice
  simp only [outcome_bind, outcome_read]
  cases w.device? d.deviceId with
  | none => exact ⟨fun _ h => by cases h; rfl, rfl⟩
  | some device =>
    simp only [ack.action, Option.getD_some, unnamed, Bool.not_false, Bool.true_and]
    split
    · unfold legacyCalibration
      cases legacyOffsets d.payload.fields ["temp", "humi", "press"] with
      | none => exact ⟨fun _ h => (nomatch h), rfl⟩
      | some updates =>
        dsimp only
        split
        · exact ⟨fun _ h => by cases h; rfl, rfl⟩
        · unfold saveDevice
          split
          · exact ⟨fun _ h => by cases h; rfl, rfl⟩
          · exact ⟨fun _ h => (nomatch h), rfl⟩
    · rw [considered, unnamed]
      exact ⟨fun _ h => by cases h; rfl, rfl⟩

end Lookup

theorem ackTarget_mem {db : Db} {deviceId : String} {action : Json} {r : CommandLog}
    (h : ackTarget db deviceId action = some r) : r ∈ db.commandLogs.rows := by
  have member := List.mem_of_mem_head? h
  rw [pendingNewestFirst, OrderBy.mem_descending] at member
  exact List.mem_of_mem_filter member

section Queue
variable {w : World} {deviceId : String} {action : Json} {d : Delivery}

theorem deliver_ack {row : CommandLog} (known : (w.device? deviceId).isSome)
    (ack : IsAck deviceId action d) (readable : d.readable action = true)
    (target : ackTarget w.db deviceId action = some row) :
    deliver w d = w.apply (.markCommands (fun r => r.id = row.id) d.acked d.text d.env.now) := by
  obtain ⟨device, known⟩ := Option.isSome_iff_exists.mp known
  simp only [Delivery.readable, Bool.and_eq_true, decide_eq_true_eq] at readable
  unfold deliver handleMessage handleAckMessage
  rw [ack.kind]
  have looked := ackLookup_taken known ack readable.1.1 readable.1.2
  rw [target] at looked
  simp only [after, outcome_bind, looked, Option.map_some, ackUpdate]
  have marked := after_markCommand row d.acked d.text d.env.now w
  rw [if_pos readable.2] at marked
  exact marked

theorem pendingCommands_mark (row : CommandLog) {status : CommandStatus} (message : String) (at_ : Time)
    (terminal : status.terminal = true) :
    pendingCommands (w.apply (.markCommands (fun r => r.id = row.id) status message at_)).db deviceId
        action =
      (pendingCommands w.db deviceId action).filter (fun r => !decide (r.id = row.id)) := by
  apply Table.filter_map_of_dropped
  · intro r _ hit
    have resolved : status ≠ .pending := by
      rintro rfl
      exact Bool.noConfusion terminal
    simp [hit, resolved]
  · intro r _ miss
    simp [miss]

theorem nodup_queue {top : CommandLog} {rest : List CommandLog}
    (queue : pendingNewestFirst w.db deviceId action = top :: rest) : ∀ r ∈ rest, r.id ≠ top.id := by
  have ids : ((top :: rest).map CommandLog.id).Nodup := by
    rw [← queue]
    refine ((List.perm_insertionSort _ _).map CommandLog.id).nodup_iff.mpr ?_
    exact (List.filter_sublist.map CommandLog.id).nodup w.db.commandLogs.unique
  rw [List.map_cons, List.nodup_cons] at ids
  exact fun r member same => ids.1 (same ▸ List.mem_map_of_mem member)

theorem queue_after_ack {top : CommandLog} {rest : List CommandLog}
    (known : (w.device? deviceId).isSome) (ack : IsAck deviceId action d)
    (readable : d.readable action = true)
    (queue : pendingNewestFirst w.db deviceId action = top :: rest) :
    pendingNewestFirst (deliver w d).db deviceId action = rest := by
  have target : ackTarget w.db deviceId action = some top := by rw [ackTarget, queue]; rfl
  rw [deliver_ack known ack readable target]
  have queue' := queue
  unfold pendingNewestFirst at *
  rw [pendingCommands_mark top _ _ (acked_terminal d), OrderBy.descending_filter, queue]
  rw [List.filter_cons_of_neg (by simp), List.filter_eq_self]
  intro r member
  simpa using nodup_queue queue' r member

theorem deliver_ack_devices {row : CommandLog} (known : (w.device? deviceId).isSome)
    (ack : IsAck deviceId action d) (readable : d.readable action = true)
    (target : ackTarget w.db deviceId action = some row) :
    (deliver w d).db.devices = w.db.devices := by
  rw [deliver_ack known ack readable target]
  rfl

theorem deliver_ack_other {row r : CommandLog} (known : (w.device? deviceId).isSome)
    (ack : IsAck deviceId action d) (readable : d.readable action = true)
    (target : ackTarget w.db deviceId action = some row) (member : r ∈ w.db.commandLogs.rows)
    (other : r.id ≠ row.id) : r ∈ (deliver w d).db.commandLogs.rows := by
  rw [deliver_ack known ack readable target]
  exact List.mem_map.mpr ⟨r, member, by rw [if_neg (by simpa using other)]⟩

theorem deliver_ack_target {row : CommandLog} (known : (w.device? deviceId).isSome)
    (ack : IsAck deviceId action d) (readable : d.readable action = true)
    (target : ackTarget w.db deviceId action = some row) :
    row.mark d.acked d.text d.env.now ∈ (deliver w d).db.commandLogs.rows := by
  rw [deliver_ack known ack readable target]
  exact List.mem_map.mpr ⟨row, ackTarget_mem target, by rw [if_pos (by simp)]⟩

theorem deliver_ack_next {top : CommandLog} {rest : List CommandLog}
    (known : (w.device? deviceId).isSome) (ack : IsAck deviceId action d)
    (readable : d.readable action = true)
    (queue : pendingNewestFirst w.db deviceId action = top :: rest) :
    ackTarget w.db deviceId action = some top ∧ ((deliver w d).device? deviceId).isSome ∧
      pendingNewestFirst (deliver w d).db deviceId action = rest := by
  have target : ackTarget w.db deviceId action = some top := by rw [ackTarget, queue]; rfl
  refine ⟨target, ?_, queue_after_ack known ack readable queue⟩
  unfold World.device?
  rw [deliver_ack_devices known ack readable target]
  exact known

end Queue

/-- The row as the ack it is paired with leaves it. -/
def settled (p : CommandLog × Delivery) : CommandLog := p.1.mark p.2.acked p.2.text p.2.env.now

theorem deliver_acks_keep {w : World} {deviceId : String} {action : Json} {acks : List Delivery}
    (known : (w.device? deviceId).isSome)
    (each : ∀ d ∈ acks, IsAck deviceId action d ∧ d.readable action = true)
    (enough : acks.length ≤ (pendingNewestFirst w.db deviceId action).length)
    {r : CommandLog} (member : r ∈ w.db.commandLogs.rows)
    (other : ∀ q ∈ pendingNewestFirst w.db deviceId action, r.id ≠ q.id) :
    r ∈ (Run.run deliver w acks).db.commandLogs.rows := by
  induction acks generalizing w with
  | nil => exact member
  | cons d acks ih =>
    cases queue : pendingNewestFirst w.db deviceId action with
    | nil => simp [queue] at enough
    | cons top rest =>
      obtain ⟨ack, readable⟩ := each d List.mem_cons_self
      obtain ⟨target, known', queue'⟩ := deliver_ack_next known ack readable queue
      rw [queue] at other enough
      apply ih known' (fun e he => each e (List.mem_cons_of_mem _ he))
      · rw [queue']
        simpa using enough
      · exact deliver_ack_other known ack readable target member (other top List.mem_cons_self)
      · rw [queue']
        exact fun q hq => other q (List.mem_cons_of_mem _ hq)

theorem deliver_acks {w : World} {deviceId : String} {action : Json} {acks : List Delivery}
    (known : (w.device? deviceId).isSome)
    (each : ∀ d ∈ acks, IsAck deviceId action d ∧ d.readable action = true)
    (enough : acks.length ≤ (pendingNewestFirst w.db deviceId action).length) :
    pendingNewestFirst (Run.run deliver w acks).db deviceId action =
        (pendingNewestFirst w.db deviceId action).drop acks.length ∧
      ∀ p ∈ (pendingNewestFirst w.db deviceId action).zip acks,
        settled p ∈ (Run.run deliver w acks).db.commandLogs.rows := by
  induction acks generalizing w with
  | nil => simp
  | cons d acks ih =>
    cases queue : pendingNewestFirst w.db deviceId action with
    | nil => simp [queue] at enough
    | cons top rest =>
      obtain ⟨ack, readable⟩ := each d List.mem_cons_self
      obtain ⟨target, known', queue'⟩ := deliver_ack_next known ack readable queue
      have each' := fun e he => each e (List.mem_cons_of_mem d he)
      have enough' : acks.length ≤ (pendingNewestFirst (deliver w d).db deviceId action).length := by
        rw [queue']
        simpa [queue] using enough
      obtain ⟨left, marks⟩ := ih known' each' enough'
      rw [queue'] at left marks
      refine ⟨left, ?_⟩
      intro p member
      rw [List.zip_cons_cons, List.mem_cons] at member
      rcases member with rfl | member
      · -- the first row is settled at once, and no later ack finds it again
        apply deliver_acks_keep known' each' enough'
        · exact deliver_ack_target known ack readable target
        · rw [queue']
          intro q hq
          exact (nodup_queue queue q hq).symm
      · exact marks p member

theorem queue_of_increasing {db : Db} {deviceId : String} {action : Json} {rows : List CommandLog}
    (pending : ∀ r, r ∈ rows ↔ r ∈ pendingCommands db deviceId action)
    (order : rows.Pairwise (fun a b => a.sentAt < b.sentAt)) :
    pendingNewestFirst db deviceId action = rows.reverse := by
  have distinct : rows.Nodup := order.imp (fun h same => absurd (same ▸ h) (lt_irrefl _))
  have distinct' : (pendingCommands db deviceId action).Nodup :=
    db.commandLogs.unique.of_map.filter _
  have perm : (pendingNewestFirst db deviceId action).Perm rows.reverse :=
    (List.perm_insertionSort _ _).trans
      (((List.perm_ext_iff_of_nodup distinct' distinct).mpr (fun r => (pending r).symm)).trans
        (List.reverse_perm rows).symm)
  have newestFirst : rows.reverse.Pairwise (fun a b => b.sentAt ≤ a.sentAt) :=
    List.pairwise_reverse.mpr (order.imp le_of_lt)
  refine perm.eq_of_pairwise ?_ (OrderBy.pairwise_descending _ _) newestFirst
  intro a b ha hb below above
  have sameTime := le_antisymm above below
  rw [perm.mem_iff, List.mem_reverse] at ha
  rw [List.mem_reverse] at hb
  have times : (rows.map CommandLog.sentAt).Nodup := List.pairwise_map.mpr (order.imp ne_of_lt)
  exact List.inj_on_of_nodup_map times ha hb sameTime

/-- With the pending rows of an action in order of their times, the first acks resolve
the newest of them, the i-th newest with the status and message of the i-th ack; the
rows still pending are the oldest. -/
theorem acks_settle_newest {w : World} {deviceId : String} {action : Json} {rows : List CommandLog}
    {acks : List Delivery} (known : (w.device? deviceId).isSome)
    (pending : ∀ r, r ∈ rows ↔ r ∈ pendingCommands w.db deviceId action)
    (order : rows.Pairwise (fun a b => a.sentAt < b.sentAt))
    (each : ∀ d ∈ acks, IsAck deviceId action d ∧ d.readable action = true)
    (enough : acks.length ≤ rows.length) :
    (∀ r, r ∈ pendingCommands (Run.run deliver w acks).db deviceId action ↔
        r ∈ rows.take (rows.length - acks.length)) ∧
      (∀ p ∈ rows.reverse.zip acks, settled p ∈ (Run.run deliver w acks).db.commandLogs.rows) ∧
      ∀ r ∈ pendingCommands (Run.run deliver w acks).db deviceId action,
        ∀ p ∈ rows.reverse.zip acks, r.sentAt < p.1.sentAt := by
  have queue := queue_of_increasing pending order
  obtain ⟨left, marks⟩ := deliver_acks known each (by simpa [queue] using enough)
  rw [queue] at left marks
  have remaining : ∀ r, r ∈ pendingCommands (Run.run deliver w acks).db deviceId action ↔
      r ∈ rows.take (rows.length - acks.length) := by
    intro r
    have queued : r ∈ pendingNewestFirst (Run.run deliver w acks).db deviceId action ↔
        r ∈ pendingCommands (Run.run deliver w acks).db deviceId action := OrderBy.mem_descending
    rw [← queued, left, List.drop_reverse, List.mem_reverse]
  refine ⟨remaining, marks, ?_⟩
  intro r member p paired
  have old := (remaining r).mp member
  have new : p.1 ∈ rows.drop (rows.length - acks.length) := by
    rw [List.zip_eq_zip_take_min, List.length_reverse, min_eq_right enough] at paired
    have newest := (List.of_mem_zip paired).1
    rwa [List.take_reverse, List.mem_reverse] at newest
  have split := order
  rw [← List.take_append_drop (rows.length - acks.length) rows, List.pairwise_append] at split
  exact split.2.2 r old p.1 new

def twoPending : World :=
  ((World.empty.apply (.createDevice { deviceId := "living01", deviceType := "thermo", createdAt := 0 })).apply
    (.addCommandLog "living01" (bareCommand "reboot") (seconds 1) none)).apply
    (.addCommandLog "living01" (bareCommand "reboot") (seconds 2) none)

def rebootAck : Delivery :=
  { env := { now := seconds 10 }, kind := .ack, deviceType := "thermo", deviceId := "living01"
    payload := ⟨33, .value (.obj [("action", .str "reboot"), ("status", .str "ok")])⟩ }

def rebootRow (id : Nat) (sentAt : Time) : CommandLog :=
  { id := id, device := "living01", command := bareCommand "reboot", sentAt := sentAt, sentBy := none }

theorem rebootAck_isAck : IsAck "living01" (.str "reboot") rebootAck := ⟨rfl, rfl, rfl, rfl, .inl rfl⟩

theorem twoPending_settled :
    settled (rebootRow 1 (seconds 2), rebootAck) ∈
      (Run.run deliver twoPending [rebootAck]).db.commandLogs.rows :=
  (@acks_settle_newest twoPending "living01" (.str "reboot")
    [rebootRow 0 (seconds 1), rebootRow 1 (seconds 2)] [rebootAck] (by decide)
    (fun r => by rw [show pendingCommands twoPending.db "living01" (.str "reboot") =
      [rebootRow 0 (seconds 1), rebootRow 1 (seconds 2)] by decide]) (by decide)
    (by simpa using ⟨rebootAck_isAck, by decide⟩) (by decide)).2.1 _ List.mem_cons_self

/-- Delivered oldest first, the two commands are acked newest first: after the ack of the
older one it is still pending, and the newer one carries its outcome. -/
theorem twoPending_swapped :
    flushRows twoPending.db "living01" = [rebootRow 0 (seconds 1), rebootRow 1 (seconds 2)] ∧
      settled (rebootRow 0 (seconds 1), rebootAck) ∉
        (Run.run deliver twoPending [rebootAck]).db.commandLogs.rows ∧
      flushRows (Run.run deliver twoPending [rebootAck]).db "living01" = [rebootRow 0 (seconds 1)] := by
  decide

end SensorServer
