import SensorServer.ReadApi
import SensorServer.Lib.Run
import Mathlib.Data.List.Find
import Mathlib.Data.Set.Function

/-! The keys of the read API (api/models.py, api/admin.py) over their whole life: issued once,
switched on and off, deleted, and matched with the token of every request (api/auth.py). -/
namespace SensorServer

/-- A row of api_apikey. -/
structure StoredKey where
  id : Nat
  name : String
  shownPrefix : String
  keyHash : String
  isActive : Bool := true
  createdAt : Time
  createdBy : Option String := none
  lastUsedAt : Option Time := none
  deriving DecidableEq

/-- The table; key_hash is unique. -/
structure KeyStore extends Serial StoredKey.id where
  hashes : (rows.map StoredKey.keyHash).Nodup

namespace KeyStore

def empty : KeyStore := ⟨Serial.empty _, List.nodup_nil⟩

/-- TOKEN_PREFIX, and as many characters after it as are kept to be shown. -/
def tokenPrefix : String := "sk_"
def prefixVisibleChars : Nat := 6

/-- What set_random_token and save make of a new key; the row is refused with an IntegrityError
for a digest that is taken and with a DataError for a long name. -/
def add (hash : String → String) (secret name : String) (isActive : Bool) (createdBy : Option String) (now : Time)
    (s : KeyStore) : KeyStore :=
  let raw := tokenPrefix ++ secret
  if free : varchar 128 name = true ∧ hash raw ∉ s.rows.map StoredKey.keyHash then
    { toSerial := s.toSerial.append (fun id =>
        { id := id, name := name, shownPrefix := pyTake (pyLen tokenPrefix + prefixVisibleChars) raw,
          keyHash := hash raw, isActive := isActive, createdAt := now, createdBy := createdBy }) (fun _ => rfl)
      hashes := by
        change ((s.rows ++ [_]).map StoredKey.keyHash).Nodup
        rw [List.map_append, List.map_singleton, List.nodup_append]
        refine ⟨s.hashes, List.nodup_singleton _, fun a member b new => ?_⟩
        rw [List.mem_singleton.mp new]
        rintro rfl
        exact free.2 member }
  else s

/-- An update that leaves the digests. -/
def update (s : KeyStore) (id : Nat) (f : StoredKey → StoredKey) (keep : ∀ k, (f k).id = k.id)
    (digest : ∀ k, (f k).keyHash = k.keyHash) : KeyStore where
  toSerial := s.toSerial.update (fun k => decide (k.id = id)) f keep
  hashes := by
    have same : (s.rows.map (fun k => if decide (k.id = id) then f k else k)).map StoredKey.keyHash =
        s.rows.map StoredKey.keyHash := by
      rw [List.map_map]
      refine List.map_congr_left (fun k _ => ?_)
      dsimp only [Function.comp]
      split
      · exact digest k
      · rfl
    exact (congrArg List.Nodup same).mpr s.hashes

def change (id : Nat) (name : String) (isActive : Bool) (s : KeyStore) : KeyStore :=
  if varchar 128 name then
    s.update id (fun k => { k with name := name, isActive := isActive }) (fun _ => rfl) (fun _ => rfl)
  else s

def delete (id : Nat) (s : KeyStore) : KeyStore where
  toSerial := s.toSerial.filter (fun k => decide (k.id ≠ id))
  hashes := s.hashes.sublist (List.filter_sublist.map _)

def active? (s : KeyStore) (digest : String) : Option StoredKey :=
  s.rows.find? (fun k => decide (k.keyHash = digest) && k.isActive)

/-- The lookup of a request, which notes the use. -/
def use (hash : String → String) (now : Time) (request : ReadRequest) (s : KeyStore) : KeyStore :=
  let token := extractBearerToken request
  if token = "" then s
  else match s.active? (hash token) with
    | none => s
    | some key => s.update key.id (fun k => { k with lastUsedAt := some now }) (fun _ => rfl) (fun _ => rfl)

/-- What the decorator reads of the table. -/
def apiKeys (s : KeyStore) : List ApiKey := s.rows.map (fun k => ⟨k.keyHash, k.isActive⟩)

end KeyStore

/-- What happens to the keys: the forms of the administration, generate, and the requests. -/
inductive KeyEvent where
  | add (secret name : String) (isActive : Bool) (createdBy : Option String) (now : Time)
  | generate (secret name : String) (createdBy : Option String) (now : Time)
  | change (id : Nat) (name : String) (isActive : Bool)
  | delete (id : Nat)
  | request (now : Time) (request : ReadRequest)

def keyStep (hash : String → String) (s : KeyStore) : KeyEvent → KeyStore
  | .add secret name isActive createdBy now => s.add hash secret name isActive createdBy now
  | .generate secret name createdBy now => s.add hash secret name true createdBy now
  | .change id name isActive => s.change id name isActive
  | .delete id => s.delete id
  | .request now request => s.use hash now request

/-- The token that is issued, or shown. -/
def KeyEvent.token? : KeyEvent → Option String
  | .add secret _ _ _ _ | .generate secret _ _ _ => some (KeyStore.tokenPrefix ++ secret)
  | .request _ asked => some (extractBearerToken asked)
  | .change _ _ _ | .delete _ => none

def StoredKey.encode (hash : String → String) (k : StoredKey) : StoredKey := { k with keyHash := hash k.keyHash }

structure Encodes (hash : String → String) (known : Set String) (t s : KeyStore) : Prop where
  rows : s.rows = t.rows.map (StoredKey.encode hash)
  next : s.next = t.next
  among : ∀ k ∈ t.rows, k.keyHash ∈ known

section Encodes
variable {hash : String → String} {known : Set String} {t s : KeyStore} (apart : Set.InjOn hash known)

theorem Encodes.update (same : Encodes hash known t s) {id : Nat} {f : StoredKey → StoredKey}
    {keep : ∀ k, (f k).id = k.id} {digest : ∀ k, (f k).keyHash = k.keyHash}
    (encodes : ∀ k, f (k.encode hash) = (f k).encode hash) :
    Encodes hash known (t.update id f keep digest) (s.update id f keep digest) := by
  refine ⟨?_, same.next, fun k listed => ?_⟩
  · change s.rows.map _ = (t.rows.map _).map _
    rw [same.rows, List.map_map, List.map_map]
    refine List.map_congr_left (fun k _ => ?_)
    change (if decide (k.id = id) then f (k.encode hash) else k.encode hash) = _
    rw [encodes]
    dsimp only [Function.comp]
    split <;> rfl
  · obtain ⟨q, before, rfl⟩ := List.mem_map.mp listed
    split
    · rw [digest]
      exact same.among q before
    · exact same.among q before

include apart

theorem Encodes.digest_iff (same : Encodes hash known t s) {token : String} (member : token ∈ known) {k : StoredKey}
    (listed : k ∈ t.rows) : hash k.keyHash = hash token ↔ k.keyHash = token :=
  ⟨apart (same.among k listed) member, congrArg hash⟩

theorem Encodes.active? (same : Encodes hash known t s) {token : String} (member : token ∈ known) :
    s.active? (hash token) = (t.active? token).map (StoredKey.encode hash) := by
  unfold KeyStore.active?
  rw [same.rows, List.find?_map]
  refine congrArg _ (List.find?_congr (fun k listed => ?_))
  simp only [Function.comp, StoredKey.encode, same.digest_iff apart member listed]

theorem Encodes.taken (same : Encodes hash known t s) {token : String} (member : token ∈ known) :
    hash token ∈ s.rows.map StoredKey.keyHash ↔ token ∈ t.rows.map StoredKey.keyHash := by
  rw [same.rows, List.map_map, List.mem_map, List.mem_map]
  refine exists_congr (fun k => and_congr_right (fun listed => ?_))
  exact same.digest_iff apart member listed

theorem Encodes.add (same : Encodes hash known t s) {secret name : String} {isActive : Bool}
    {createdBy : Option String} {now : Time} (member : KeyStore.tokenPrefix ++ secret ∈ known) :
    Encodes hash known (t.add id secret name isActive createdBy now)
      (s.add hash secret name isActive createdBy now) := by
  have taken := same.taken apart member
  unfold KeyStore.add
  dsimp only [id]
  by_cases free : varchar 128 name = true ∧ KeyStore.tokenPrefix ++ secret ∉ t.rows.map StoredKey.keyHash
  · rw [dif_pos free, dif_pos ⟨free.1, fun other => free.2 (taken.mp other)⟩]
    refine ⟨?_, congrArg (· + 1) same.next, fun k listed => ?_⟩
    · change s.rows ++ [_] = (t.rows ++ [_]).map _
      rw [same.rows, same.next, List.map_append]
      rfl
    · rcases List.mem_append.mp listed with old | new
      · exact same.among k old
      · rw [List.mem_singleton.mp new]
        exact member
  · rw [dif_neg free, dif_neg (fun fits => free ⟨fits.1, fun other => fits.2 (taken.mpr other)⟩)]
    exact same

theorem Encodes.step (same : Encodes hash known t s) {e : KeyEvent}
    (member : ∀ token, e.token? = some token → token ∈ known) :
    Encodes hash known (keyStep id t e) (keyStep hash s e) := by
  cases e with
  | add secret name isActive createdBy now => exact same.add apart (member _ rfl)
  | generate secret name createdBy now => exact same.add apart (member _ rfl)
  | change id name isActive =>
    unfold keyStep KeyStore.change
    dsimp only
    split
    · exact same.update (fun _ => rfl)
    · exact same
  | delete id =>
    refine ⟨?_, same.next, fun k listed => same.among k (List.mem_of_mem_filter listed)⟩
    change s.rows.filter _ = (t.rows.filter _).map _
    rw [same.rows, List.filter_map]
    rfl
  | request now request =>
    have found := same.active? apart (member _ rfl)
    unfold keyStep KeyStore.use
    dsimp only [id]
    split
    · exact same
    rw [found]
    cases t.active? (extractBearerToken request) with
    | none => exact same
    | some key => exact same.update (fun _ => rfl)

theorem Encodes.run (same : Encodes hash known t s) {es : List KeyEvent}
    (members : ∀ e ∈ es, ∀ token, e.token? = some token → token ∈ known) :
    Encodes hash known (Run.run (keyStep id) t es) (Run.run (keyStep hash) s es) := by
  induction es generalizing t s with
  | nil => exact same
  | cons e es ih =>
    exact ih (same.step apart (members e List.mem_cons_self))
      (fun f listed => members f (List.mem_cons_of_mem _ listed))

end Encodes

theorem apiKeyRequired_active (env : ReadEnv) (s : KeyStore) (request : ReadRequest)
    (view : Except Raised ReadReply) :
    apiKeyRequired env s.apiKeys request view =
      if extractBearerToken request = "" then pure (readUnauthorized "Missing Bearer token.")
      else if (s.active? (env.hashToken (extractBearerToken request))).isSome then view
      else pure (readUnauthorized "Invalid or inactive API key.") := by
  simp only [apiKeyRequired, KeyStore.active?, KeyStore.apiKeys, List.any_map, List.isSome_find?, Function.comp_def]

/-- A key of the table of tokens that a request may use. -/
def KeyStore.Opens (t : KeyStore) (token : String) : Prop :=
  token ≠ "" ∧ ∃ k ∈ t.rows, k.keyHash = token ∧ k.isActive = true

/-- Of the tokens only the digests are kept, but the API answers as if the tokens were: as long as
no two of those issued or shown have one digest, a request is let through exactly if its token
is that of a key that was issued, not deleted, and is switched on. -/
theorem digests_stand_for_tokens {env : ReadEnv} {es : List KeyEvent} {request : ReadRequest}
    (apart : Set.InjOn env.hashToken ({token | ∃ e ∈ es, e.token? = some token} ∪ {extractBearerToken request}))
    (view : Except Raised ReadReply) :
    let answer := apiKeyRequired env (Run.run (keyStep env.hashToken) .empty es).apiKeys request view
    ((Run.run (keyStep id) .empty es).Opens (extractBearerToken request) → answer = view) ∧
    (¬ (Run.run (keyStep id) .empty es).Opens (extractBearerToken request) →
      ∃ detail, answer = pure (readUnauthorized detail)) := by
  have start : Encodes env.hashToken ({token | ∃ e ∈ es, e.token? = some token} ∪ {extractBearerToken request})
      .empty .empty := ⟨rfl, rfl, fun _ listed => nomatch listed⟩
  have same := start.run apart (fun e listed token issued => .inl ⟨e, listed, issued⟩)
  dsimp only
  rw [apiKeyRequired_active, same.active? apart (.inr rfl), Option.isSome_map]
  have found : ((Run.run (keyStep id) KeyStore.empty es).active? (extractBearerToken request)).isSome = true ↔
      ∃ k ∈ (Run.run (keyStep id) KeyStore.empty es).rows,
        k.keyHash = extractBearerToken request ∧ k.isActive = true := by
    unfold KeyStore.active?
    rw [List.find?_isSome]
    simp
  constructor
  · rintro ⟨shown, listed⟩
    rw [if_neg shown, if_pos (found.mpr listed)]
  · intro closed
    split
    · exact ⟨_, rfl⟩
    next shown =>
    rw [if_neg (fun held => closed ⟨shown, found.mp held⟩)]
    exact ⟨_, rfl⟩

/-- The event takes the key out of use. -/
def KeyEvent.revokes (id : Nat) : KeyEvent → Prop
  | .change other name isActive => other = id ∧ varchar 128 name = true ∧ isActive = false
  | .delete other => other = id
  | _ => False

/-- The event may bring its digest back into use. -/
def KeyEvent.revives (hash : String → String) (id : Nat) (digest : String) : KeyEvent → Prop
  | .add secret _ _ _ _ | .generate secret _ _ _ => hash (KeyStore.tokenPrefix ++ secret) = digest
  | .change other _ isActive => other = id ∧ isActive = true
  | .delete _ | .request _ _ => False

/-- The digest is that of no other key, and of none that is switched on. -/
def Revoked (id : Nat) (digest : String) (s : KeyStore) : Prop :=
  ∀ k ∈ s.rows, k.keyHash = digest → k.id = id ∧ k.isActive = false

section Revoked
variable {hash : String → String} {id : Nat} {digest : String} {s : KeyStore}

theorem Revoked.update (revoked : Revoked id digest s) {other : Nat} {f : StoredKey → StoredKey}
    {keep : ∀ k, (f k).id = k.id} {same : ∀ k, (f k).keyHash = k.keyHash}
    (off : ∀ k, k.id = other → k.id = id → k.isActive = false → (f k).isActive = false) :
    Revoked id digest (s.update other f keep same) := by
  intro k listed own
  obtain ⟨q, before, rfl⟩ := List.mem_map.mp listed
  by_cases hit : q.id = other
  · rw [if_pos (decide_eq_true hit)] at own ⊢
    rw [same] at own
    obtain ⟨mine, inactive⟩ := revoked q before own
    exact ⟨(keep q).trans mine, off q hit mine inactive⟩
  · rw [if_neg (by simp [hit])] at own ⊢
    exact revoked q before own

theorem Revoked.add (revoked : Revoked id digest s) {secret name : String} {isActive : Bool}
    {createdBy : Option String} {now : Time} (other : hash (KeyStore.tokenPrefix ++ secret) ≠ digest) :
    Revoked id digest (s.add hash secret name isActive createdBy now) := by
  unfold KeyStore.add
  dsimp only
  split
  · intro k listed own
    rcases List.mem_append.mp listed with old | new
    · exact revoked k old own
    · rw [List.mem_singleton.mp new] at own
      exact absurd own other
  · exact revoked

theorem Revoked.step (revoked : Revoked id digest s) {e : KeyEvent} (quiet : ¬ e.revives hash id digest) :
    Revoked id digest (keyStep hash s e) := by
  cases e with
  | add secret name isActive createdBy now => exact revoked.add quiet
  | generate secret name createdBy now => exact revoked.add quiet
  | change other name isActive =>
    unfold keyStep KeyStore.change
    dsimp only
    split
    · refine revoked.update (fun k hit own _ => ?_)
      exact Bool.eq_false_iff.mpr (fun on => quiet ⟨hit.symm.trans own, on⟩)
    · exact revoked
  | delete other => exact fun k listed => revoked k (List.mem_of_mem_filter listed)
  | request now asked =>
    unfold keyStep KeyStore.use
    dsimp only
    split
    · exact revoked
    split
    · exact revoked
    · exact revoked.update (fun _ _ _ inactive => inactive)

theorem revoked_of_revokes {key : StoredKey} (listed : key ∈ s.rows) {e : KeyEvent} (revokes : e.revokes key.id) :
    Revoked key.id key.keyHash (keyStep hash s e) := by
  have single : ∀ k ∈ s.rows, k.keyHash = key.keyHash → k = key := fun k other same =>
    List.inj_on_of_nodup_map s.hashes other listed same
  cases e with
  | change other name isActive =>
    obtain ⟨rfl, fits, rfl⟩ := revokes
    unfold keyStep KeyStore.change
    dsimp only
    rw [if_pos fits]
    intro k after own
    obtain ⟨q, before, rfl⟩ := List.mem_map.mp after
    by_cases hit : q.id = key.id
    · rw [if_pos (decide_eq_true hit)]
      exact ⟨hit, rfl⟩
    · rw [if_neg (by simp [hit])] at own
      exact absurd (congrArg StoredKey.id (single q before own)) hit
  | delete other =>
    cases revokes
    intro k after own
    obtain ⟨before, kept⟩ := List.mem_filter.mp after
    rw [single k before own] at kept
    simp at kept
  | add | generate | request => exact revokes.elim

end Revoked

/-- Once a key is switched off or deleted, its token opens nothing, until it is switched on again
or a token of the same digest is issued. -/
theorem revoked_key_refused {env : ReadEnv} {s : KeyStore} {key : StoredKey} (listed : key ∈ s.rows) {e : KeyEvent}
    (revokes : e.revokes key.id) {es : List KeyEvent} (quiet : ∀ f ∈ es, ¬ f.revives env.hashToken key.id key.keyHash)
    {request : ReadRequest} (token : env.hashToken (extractBearerToken request) = key.keyHash)
    (view : Except Raised ReadReply) :
    ∃ detail, apiKeyRequired env (Run.run (keyStep env.hashToken) s (e :: es)).apiKeys request view =
      pure (readUnauthorized detail) := by
  have revoked : Revoked key.id key.keyHash (Run.run (keyStep env.hashToken) s (e :: es)) :=
    @Run.invariant _ _ (keyStep env.hashToken) (fun _ f => ¬ f.revives env.hashToken key.id key.keyHash)
      (Revoked key.id key.keyHash) (fun _ _ revoked calm => revoked.step calm) _ es
      (revoked_of_revokes listed revokes) (Run.along_of_all _ es (fun f member _ => quiet f member))
  rw [apiKeyRequired_active, token]
  split
  · exact ⟨_, rfl⟩
  rw [if_neg]
  · exact ⟨_, rfl⟩
  · intro found
    obtain ⟨k, present⟩ := Option.isSome_iff_exists.mp found
    have matched := List.find?_some present
    rw [Bool.and_eq_true, decide_eq_true_eq] at matched
    rw [(revoked k (List.mem_of_find?_eq_some present) matched.1).2] at matched
    cases matched.2

def grafanaEnv : ReadEnv where
  now := seconds 100
  hashToken token :=
    if token = "sk_alpha" then "0507f8cf4c3bcbf3377fa28a58babb5272d879643f9c2d894439921376f9bac1"
    else if token = "sk_beta" then "0d87978ca3f20d9288f1d31ab6c05626e6ff1a67c65e22385e42a52331b98453" else ""
  isoformat := fun _ => "t"

def grafanaRequest : ReadRequest := { authorization := "Bearer sk_alpha" }
def influxRequest : ReadRequest := { authorization := "Bearer sk_beta" }

def grafanaIssued : List KeyEvent :=
  [.generate "alpha" "grafana" none 0, .generate "beta" "influx" none 0, .change 1 "influx" false,
    .request 1 grafanaRequest, .request 1 influxRequest]

theorem apart_issued {request : ReadRequest} (shown : extractBearerToken request ∈ ["sk_alpha", "sk_beta"]) :
    Set.InjOn grafanaEnv.hashToken
      ({token | ∃ e ∈ grafanaIssued, e.token? = some token} ∪ {extractBearerToken request}) := by
  have two : ∀ token ∈ {token | ∃ e ∈ grafanaIssued, e.token? = some token} ∪ {extractBearerToken request},
      token ∈ ["sk_alpha", "sk_beta"] := by
    rintro token (⟨e, listed, issued⟩ | rfl)
    · have each : ∀ e ∈ grafanaIssued, ∀ token ∈ e.token?, token ∈ ["sk_alpha", "sk_beta"] := by decide
      exact each e listed token issued
    · exact shown
  have digests : ∀ a ∈ ["sk_alpha", "sk_beta"], ∀ b ∈ ["sk_alpha", "sk_beta"],
      grafanaEnv.hashToken a = grafanaEnv.hashToken b → a = b := by decide
  exact fun a first b second same => digests a (two a first) b (two b second) same

theorem grafana_answered :
    let keys := (Run.run (keyStep grafanaEnv.hashToken) .empty grafanaIssued).apiKeys
    apiKeyRequired grafanaEnv keys grafanaRequest (pure (.devices 0 [])) = pure (.devices 0 []) ∧
      ∃ detail, apiKeyRequired grafanaEnv keys influxRequest (pure (.devices 0 [])) =
        pure (readUnauthorized detail) := by
  refine ⟨(digests_stand_for_tokens (apart_issued (by decide)) _).1 ?_,
    (digests_stand_for_tokens (apart_issued (by decide)) _).2 ?_⟩
  · unfold KeyStore.Opens
    decide
  · unfold KeyStore.Opens
    decide

def grafanaKey : StoredKey where
  id := 0
  name := "grafana"
  shownPrefix := "sk_alpha"
  keyHash := "0507f8cf4c3bcbf3377fa28a58babb5272d879643f9c2d894439921376f9bac1"
  createdAt := 0
  lastUsedAt := some 1

theorem grafana_refused : ∃ detail, apiKeyRequired grafanaEnv (Run.run (keyStep grafanaEnv.hashToken)
    (Run.run (keyStep grafanaEnv.hashToken) .empty grafanaIssued) [.delete 0, .request 2 grafanaRequest]).apiKeys
    grafanaRequest (pure (.devices 0 [])) = pure (readUnauthorized detail) := by
  have listed : grafanaKey ∈ (Run.run (keyStep grafanaEnv.hashToken) .empty grafanaIssued).rows := by decide
  refine revoked_key_refused (e := .delete 0) listed rfl (fun f asked => ?_) (by decide) _
  rw [List.mem_singleton.mp asked]
  exact fun revives => revives

end SensorServer
