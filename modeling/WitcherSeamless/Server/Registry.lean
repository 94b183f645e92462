import WitcherSeamless.Server.FactRelay

/-!
# The master server's client registry

The master server keeps one `client` record per address in `server::client_map`. Its handlers
run one at a time under the map's lock:

* `handle_player_state` (`state`) creates or updates the sender's record with the guid, name and
  state it carries, stamps it with the clock and bumps its `state_id`; a sender that is not
  authenticated is sent an `authRequest` with its nonce, drawn once, when the record has none;
* `handle_authentication_response` (`authResponse`) sets the record's public key when the key is
  valid, the record has a nonce, the key's hash is the record's guid and the key signs the nonce;
* `handle_player_kill` (`kill`) sends `killed` to the first authenticated record with the target
  guid, when the sender is authenticated;
* the three broadcast handlers of `WitcherSeamless.Server.FactRelay` relay to authenticated records;
* `run_frame`, every 30 ms, erases the records silent for more than 20 s, then `send_state` sends
  the list of authenticated players to every authenticated record.

`clients[source]` inserts a default record for an address it does not know, in the kill and
authentication handlers too. The results:

* the frame keeps exactly the records heard from within 20 s, in order, and sends the state list
  to exactly the authenticated ones, in order (`runFrame_keeps_recent`);
* the server sends nothing but an `authRequest` to an address whose record is not authenticated,
  whatever the registry and the event (`server_sends_only_to_authenticated`);
* over every run, an authenticated record holds a valid key that signs its nonce
  (`authenticated_clients_signed_nonce`);
* a `state` message changes the guid of an authenticated record and leaves it authenticated, and
  the next frame announces it under the new guid to every authenticated record: the key is checked
  against the guid only when it is set (`state_message_rebinds_guid`).

`server.hpp`, the cryptography, `buffer_serializer::write_string`, `write_vector` and
`game::player` are not among the sources. The record's fields are those the handlers use;
`is_authenticated()` is read as "has a public key", the only key `handle_authentication_response`
sets. The key operations are the parameters of `ServerEnv`; the messages are taken as their
handlers read them; `state_id` is a natural number, its width being outside the sources; clock
readings are nanoseconds. The map's iteration order is the order of `Registry.entries`, new
addresses last; every result but the order of the state list holds for any order.

## Main definitions

* `ServerEnv`, `Client`, `Registry` (addresses distinct by construction), `ServerSend`,
  `ServerEvent`.
* `handlePlayerState`, `handleAuthenticationResponse`, `handlePlayerKill`, `runFrame`,
  `sendState`, `Registry.step`, `Registry.run`.

Source: `src/server/server.cpp`.
-/

namespace WitcherSeamless

/-- What the server takes from outside the sources: the tag `game::PROTOCOL` and the key
operations of `utils::cryptography::ecc`. -/
structure ServerEnv (Key : Type) where
  protocol : UInt32
  deserialize : StdString → Key
  isValid : Key → Bool
  getHash : Key → UInt64
  verifyMessage : Key → StdString → StdString → Bool

/-- The fields of the server's `client` record that the handlers use. -/
structure Client (Key State : Type) where
  guid : UInt64
  name : StdString
  authenticationNonce : StdString
  publicKey : Option Key
  lastPacket : ℤ
  currentState : State
  stateId : Nat
  deriving DecidableEq

namespace Client

variable {Key State : Type}

/-- `is_authenticated()`. -/
def isAuthenticated (c : Client Key State) : Bool := c.publicKey.isSome

/-- A value-initialised record, its `last_packet` the clock's epoch. -/
instance [Inhabited State] : Inhabited (Client Key State) :=
  ⟨⟨0, [], [], none, 0, default, 0⟩⟩

/-- The record as the broadcast handlers see it. -/
def toServerClient (c : Client Key State) : ServerClient := ⟨c.isAuthenticated⟩

end Client

/-- `server::client_map`: its entries in iteration order, one per address. -/
structure Registry (Address Key State : Type) where
  entries : List (Address × Client Key State)
  nodup : (entries.map Prod.fst).Nodup

/-- `game::player` as `handle_player_state` reads it, the name up to its first `NUL`. -/
structure PlayerRecord (State : Type) where
  guid : UInt64
  name : StdString
  state : State

/-- What the server sends, with what it writes after the tag. -/
inductive ServerSend (State : Type)
  /-- `authRequest`: the nonce. -/
  | authRequest (nonce : StdString)
  /-- `killed`: the killer's guid. -/
  | killed (killerGuid : UInt64)
  /-- `states`: guid, name, state and `state_id` of every authenticated player. -/
  | states (players : List (UInt64 × StdString × State × Nat))
  /-- A broadcast relayed unchanged. -/
  | relayed (m : Message)
  deriving DecidableEq

/-- Whether a send is an `authRequest`. -/
def ServerSend.isAuthRequest {State : Type} : ServerSend State → Bool
  | .authRequest _ => true
  | _ => false

/-- A handler call or a frame, with the clock reading it makes. A message is taken as its handler
reads it: the tag, then the fields, `none` when the buffer is too short for them. -/
inductive ServerEvent (Address State : Type)
  /-- `state`; `challenge` is what `get_challenge()` returns if the handler draws a nonce. -/
  | state (source : Address) (tag : UInt32) (player : Option (PlayerRecord State))
      (challenge : StdString) (now : ℤ)
  /-- `authResponse`: the key and the signature. -/
  | authResponse (source : Address) (tag : UInt32) (fields : Option (StdString × StdString))
      (now : ℤ)
  /-- `kill`: the victim's guid. -/
  | kill (source : Address) (tag : UInt32) (playerGuid : Option UInt64)
  /-- `fact`, `attack` or `cutscene`, with the bytes received. -/
  | fact (source : Address) (data : List UInt8)
  | attack (source : Address) (data : List UInt8)
  | cutscene (source : Address) (data : List UInt8)
  /-- `run_frame()`. -/
  | frame (now : ℤ)

namespace Registry

variable {Address Key State : Type} [DecidableEq Address] [Inhabited State]

/-- The registry at start-up. -/
def empty : Registry Address Key State := ⟨[], List.nodup_nil⟩

/-- `clients[a]`, read: the record of `a`, or a default one. -/
def get (r : Registry Address Key State) (a : Address) : Client Key State :=
  ((r.entries.find? fun e => e.1 = a).map Prod.snd).getD default

omit [Inhabited State] in
theorem map_fst_set (es : List (Address × Client Key State)) (a : Address) (c : Client Key State) :
    (es.map fun e => if e.1 = a then (a, c) else e).map Prod.fst = es.map Prod.fst := by
  simp only [List.map_map]
  exact List.map_congr_left fun e _ => by by_cases h : e.1 = a <;> simp [h]

/-- `clients[a] = c`: the record of `a` replaced, or appended when `a` has none. -/
def set (r : Registry Address Key State) (a : Address) (c : Client Key State) :
    Registry Address Key State :=
  if h : a ∈ r.entries.map Prod.fst then
    ⟨r.entries.map fun e => if e.1 = a then (a, c) else e, by rw [map_fst_set]; exact r.nodup⟩
  else ⟨r.entries ++ [(a, c)], by
    rw [List.map_append, List.map_singleton]
    exact List.nodup_append.2 ⟨r.nodup, List.nodup_singleton _, List.disjoint_singleton.2 h⟩⟩

/-- The records satisfying `p`, in order: the erasing loop of `run_frame`. -/
def filter (r : Registry Address Key State) (p : Client Key State → Bool) :
    Registry Address Key State :=
  ⟨r.entries.filter (p ·.2), (List.filter_sublist _).map Prod.fst |>.nodup r.nodup⟩

/-! ### Reading the registry -/

theorem get_of_mem {r : Registry Address Key State} {a : Address} {c : Client Key State}
    (h : (a, c) ∈ r.entries) : r.get a = c := by
  unfold get
  obtain ⟨e, he, hea⟩ : ∃ e, r.entries.find? (fun e => e.1 = a) = some e ∧ e.1 = a := by
    cases hf : r.entries.find? fun e => e.1 = a with
    | none => exact absurd h (by simpa using List.find?_eq_none.1 hf (a, c))
    | some e => exact ⟨e, rfl, by simpa using List.find?_some hf⟩
  have hmem := List.mem_of_find?_eq_some he
  have : e = (a, c) := by
    obtain ⟨x, y⟩ := e
    simp only at hea
    subst hea
    rw [(List.inj_on_of_nodup_map r.nodup hmem h rfl)]
  simp [he, this]

theorem mem_get {r : Registry Address Key State} {a : Address}
    (h : a ∈ r.entries.map Prod.fst) : (a, r.get a) ∈ r.entries := by
  obtain ⟨⟨x, c⟩, hc, rfl⟩ := List.mem_map.1 h
  rwa [get_of_mem hc]

theorem mem_set {r : Registry Address Key State} {a b : Address} {c d : Client Key State} :
    (b, d) ∈ (r.set a c).entries ↔
      (b = a ∧ d = c) ∨ (b ≠ a ∧ (b, d) ∈ r.entries) := by
  unfold set
  split_ifs with h
  · simp only [List.mem_map, Prod.exists]
    constructor
    · rintro ⟨x, y, hxy, he⟩
      by_cases hx : x = a
      · simp only [hx, if_true, Prod.mk.injEq] at he
        exact Or.inl ⟨he.1.symm, he.2.symm⟩
      · simp only [hx, if_false, Prod.mk.injEq] at he
        obtain ⟨rfl, rfl⟩ := he
        exact Or.inr ⟨hx, hxy⟩
    · rintro (⟨rfl, rfl⟩ | ⟨hb, hbd⟩)
      · exact ⟨b, r.get b, mem_get h, by simp⟩
      · exact ⟨b, d, hbd, by simp [hb]⟩
  · simp only [List.mem_append, List.mem_singleton, Prod.mk.injEq]
    constructor
    · rintro (hbd | ⟨rfl, rfl⟩)
      · exact Or.inr ⟨fun hb => h (hb ▸ List.mem_map_of_mem _ hbd), hbd⟩
      · exact Or.inl ⟨rfl, rfl⟩
    · rintro (⟨rfl, rfl⟩ | ⟨-, hbd⟩)
      · exact Or.inr ⟨rfl, rfl⟩
      · exact Or.inl hbd

omit [DecidableEq Address] [Inhabited State] in
theorem mem_filter {r : Registry Address Key State} {p : Client Key State → Bool} {a : Address}
    {c : Client Key State} :
    (a, c) ∈ (r.filter p).entries ↔ (a, c) ∈ r.entries ∧ p c = true :=
  List.mem_filter

theorem get_mem_or_default (r : Registry Address Key State) (a : Address) :
    (a, r.get a) ∈ r.entries ∨ r.get a = default := by
  unfold get
  cases hf : r.entries.find? fun e => e.1 = a with
  | none => exact Or.inr rfl
  | some e =>
    have hea : e.1 = a := by simpa using List.find?_some hf
    exact Or.inl (by simpa [← hea] using List.mem_of_find?_eq_some hf)

/-- A record read with a key is a record of the registry. -/
theorem mem_of_publicKey_get {r : Registry Address Key State} {a : Address} {k : Key}
    (h : (r.get a).publicKey = some k) : (a, r.get a) ∈ r.entries :=
  (r.get_mem_or_default a).resolve_right fun hd => by rw [hd] at h; cases h

end Registry

/-! ### The handlers -/

section Handlers

variable {Address Key State : Type} [DecidableEq Address] [Inhabited State] (env : ServerEnv Key)

/-- `send_authentication_request(manager, source, client)`: draw the nonce if the record has
none, then send it. -/
def sendAuthenticationRequest (source : Address) (c : Client Key State) (challenge : StdString) :
    Client Key State × List (Address × ServerSend State) :=
  let c := if c.authenticationNonce.isEmpty then { c with authenticationNonce := challenge } else c
  (c, [(source, .authRequest c.authenticationNonce)])

/-- `handle_player_state`. -/
def handlePlayerState (r : Registry Address Key State) (source : Address) (tag : UInt32)
    (player : Option (PlayerRecord State)) (challenge : StdString) (now : ℤ) :
    Registry Address Key State × List (Address × ServerSend State) :=
  if tag ≠ env.protocol then (r, [])
  else match player with
    | none => (r, [])
    | some p =>
      let c := r.get source
      let c := { c with
        lastPacket := now, guid := p.guid, name := p.name, currentState := p.state,
        stateId := c.stateId + 1 }
      if c.isAuthenticated then (r.set source c, [])
      else
        let (c, sends) := sendAuthenticationRequest source c challenge
        (r.set source c, sends)

/-- `handle_authentication_response`: every check that fails after `clients[source]` leaves the
record, inserted if new, as it was. -/
def handleAuthenticationResponse (r : Registry Address Key State) (source : Address)
    (tag : UInt32) (fields : Option (StdString × StdString)) (now : ℤ) :
    Registry Address Key State :=
  if tag ≠ env.protocol then r
  else match fields with
    | none => r
    | some (key, signature) =>
      let cryptoKey := env.deserialize key
      if !env.isValid cryptoKey then r
      else
        let c := r.get source
        if c.authenticationNonce.isEmpty then r.set source c
        else if env.getHash cryptoKey ≠ c.guid then r.set source c
        else if !env.verifyMessage cryptoKey c.authenticationNonce signature then r.set source c
        else r.set source { c with publicKey := some cryptoKey, lastPacket := now }

/-- `handle_player_kill`: `killed` to the first authenticated record with the victim's guid. -/
def handlePlayerKill (r : Registry Address Key State) (source : Address) (tag : UInt32)
    (playerGuid : Option UInt64) : Registry Address Key State × List (Address × ServerSend State) :=
  if tag ≠ env.protocol then (r, [])
  else
    let killer := r.get source
    let r := r.set source killer
    if !killer.isAuthenticated then (r, [])
    else match playerGuid with
      | none => (r, [])
      | some g =>
        match r.entries.find? fun e => e.2.isAuthenticated && e.2.guid == g with
        | some e => (r, [(e.1, .killed killer.guid)])
        | none => (r, [])

/-- The records as the broadcast handlers see them. -/
def serverClients (r : Registry Address Key State) : List (Address × ServerClient) :=
  r.entries.map fun e => (e.1, e.2.toServerClient)

/-- The `states` vector of `send_state`: guid, name, state and `state_id` of each authenticated
record. -/
def authenticatedPlayers (r : Registry Address Key State) :
    List (UInt64 × StdString × State × Nat) :=
  (r.entries.filter (·.2.isAuthenticated)).map fun e =>
    (e.2.guid, e.2.name, e.2.currentState, e.2.stateId)

/-- `send_state`: the authenticated players, to every authenticated record. -/
def sendState (r : Registry Address Key State) : List (Address × ServerSend State) :=
  (r.entries.filter (·.2.isAuthenticated)).map fun e => (e.1, .states (authenticatedPlayers r))

/-- Whether `run_frame` at `now` keeps a record: `now - last_packet > 20s` erases it. -/
def heardWithin (now : ℤ) (c : Client Key State) : Bool := !(now - c.lastPacket > 20000000000)

/-- `run_frame()`: erase the silent records, then `send_state`. -/
def runFrame (r : Registry Address Key State) (now : ℤ) :
    Registry Address Key State × List (Address × ServerSend State) :=
  let r := r.filter (heardWithin now)
  (r, sendState r)

/-- A relay sends its bytes as `relayTo` does, or nothing. -/
theorem typedRelay_eq (type : Nat) (channel : String) (toSender : Bool) (protocol : UInt32)
    (clients : List (Address × ServerClient)) (source : Address) (data : List UInt8) :
    typedRelay type channel toSender protocol clients source data = [] ∨
      typedRelay type channel toSender protocol clients source data =
        relayTo channel toSender clients source data := by
  unfold typedRelay
  split
  · exact Or.inl rfl
  split_ifs
  · exact Or.inl rfl
  split
  · exact Or.inl rfl
  split_ifs
  · exact Or.inl rfl
  · exact Or.inr rfl

/-- A relay sends to authenticated clients only. -/
theorem mem_typedRelay {type : Nat} {channel : String} {toSender : Bool} {protocol : UInt32}
    {clients : List (Address × ServerClient)} {source : Address} {data : List UInt8}
    {x : Address × Message}
    (h : x ∈ typedRelay type channel toSender protocol clients source data) :
    (x.1, ⟨true⟩) ∈ clients := by
  rcases typedRelay_eq type channel toSender protocol clients source data with he | he <;>
    rw [he] at h
  · cases h
  obtain ⟨⟨b, ⟨auth⟩⟩, hb, he⟩ := List.mem_filterMap.1 h
  split_ifs at he with h₁ h₂
  cases he
  cases h₂
  exact hb

/-- A relay's sends. -/
def relayed (sends : List (Address × Message)) : List (Address × ServerSend State) :=
  sends.map fun e => (e.1, .relayed e.2)

namespace Registry

/-- One event. -/
def step (r : Registry Address Key State) :
    ServerEvent Address State → Registry Address Key State × List (Address × ServerSend State)
  | .state source tag player challenge now =>
    handlePlayerState env r source tag player challenge now
  | .authResponse source tag fields now =>
    (handleAuthenticationResponse env r source tag fields now, [])
  | .kill source tag playerGuid => handlePlayerKill env r source tag playerGuid
  | .fact source data => (r, relayed (handleFactBroadcast env.protocol (serverClients r) source data))
  | .attack source data =>
    (r, relayed (handleAttackBroadcast env.protocol (serverClients r) source data))
  | .cutscene source data =>
    (r, relayed (handleCutsceneBroadcast env.protocol (serverClients r) source data))
  | .frame now => runFrame r now

/-- A sequence of events, with everything sent, in order. -/
def run (r : Registry Address Key State) :
    List (ServerEvent Address State) → Registry Address Key State × List (Address × ServerSend State)
  | [] => (r, [])
  | ev :: evs =>
    let (r₁, sends₁) := r.step env ev
    let (r₂, sends₂) := r₁.run evs
    (r₂, sends₁ ++ sends₂)

@[simp] theorem run_nil (r : Registry Address Key State) : r.run env [] = (r, []) := rfl

theorem run_cons (r : Registry Address Key State) (ev : ServerEvent Address State)
    (evs : List (ServerEvent Address State)) :
    r.run env (ev :: evs) =
      ((r.step env ev).1.run env evs).map id ((r.step env ev).2 ++ ·) := rfl

end Registry

/-! ### The frame -/

omit [DecidableEq Address] [Inhabited State] in
/-- `send_state` sends the state list once to each authenticated record, and to no other. -/
theorem sendState_spec (r : Registry Address Key State) :
    ((sendState r).map Prod.fst).Nodup ∧
    ∀ a m, (a, m) ∈ sendState r ↔
      (∃ c, (a, c) ∈ r.entries ∧ c.isAuthenticated = true) ∧ m = .states (authenticatedPlayers r) := by
  refine ⟨?_, fun a m => ?_⟩
  · simp only [sendState, List.map_map]
    exact ((List.filter_sublist _).map Prod.fst).nodup r.nodup
  · simp only [sendState, List.mem_map, List.mem_filter, Prod.exists, Prod.mk.injEq]
    constructor
    · rintro ⟨b, c, ⟨hbc, hc⟩, rfl, rfl⟩
      exact ⟨⟨c, hbc, hc⟩, rfl⟩
    · rintro ⟨⟨c, hac, hc⟩, rfl⟩
      exact ⟨a, c, ⟨hac, hc⟩, rfl, rfl⟩

/-- A server that takes every key as valid, as the key `7` hashing to `7`, and as signing every
nonce, with the tag `0`. -/
def trustingEnv : ServerEnv UInt64 := ⟨0, fun _ => 7, fun _ => true, fun _ => 7, fun _ _ _ => true⟩

/-- Player `7` at address `0` sends its state, is challenged with `[1]`, and answers. -/
def loginEvents : List (ServerEvent Nat Unit) :=
  [.state 0 0 (some ⟨7, [], ()⟩) [1] 0, .authResponse 0 0 (some ([], [])) 0]

/-- The registry after `loginEvents`. -/
def authenticatedAtZero : Registry Nat UInt64 Unit :=
  (Registry.empty.run trustingEnv loginEvents).1


theorem handlePlayerState_sends (r : Registry Address Key State) (source : Address) (tag : UInt32)
    (player : Option (PlayerRecord State)) (challenge : StdString) (now : ℤ) :
    ∀ x ∈ (handlePlayerState env r source tag player challenge now).2, ∃ c,
      (x.1, c) ∈ (handlePlayerState env r source tag player challenge now).1.entries ∧
        c.isAuthenticated = !x.2.isAuthRequest := by
  unfold handlePlayerState
  split_ifs
  · simp
  rcases player with _ | p
  · simp
  dsimp only
  split_ifs with ha
  · simp
  simp only [sendAuthenticationRequest, List.mem_singleton]
  rintro x rfl
  refine ⟨_, Registry.mem_set.2 (Or.inl ⟨rfl, rfl⟩), ?_⟩
  split_ifs <;> simpa [Client.isAuthenticated, ServerSend.isAuthRequest] using ha

theorem handlePlayerKill_sends (r : Registry Address Key State) (source : Address) (tag : UInt32)
    (playerGuid : Option UInt64) :
    ∀ x ∈ (handlePlayerKill env r source tag playerGuid).2, ∃ c,
      (x.1, c) ∈ (handlePlayerKill env r source tag playerGuid).1.entries ∧
        c.isAuthenticated = !x.2.isAuthRequest := by
  unfold handlePlayerKill
  split_ifs
  · simp
  dsimp only
  split_ifs
  · simp
  rcases playerGuid with _ | g
  · simp
  dsimp only
  split
  · rename_i e he
    simp only [List.mem_singleton]
    rintro x rfl
    have hp := List.find?_some he
    simp only [Bool.and_eq_true] at hp
    exact ⟨e.2, List.mem_of_find?_eq_some he, by simp [hp.1, ServerSend.isAuthRequest]⟩
  · simp

omit [Inhabited State] in
theorem relayed_sends {r : Registry Address Key State} {type : Nat} {channel : String}
    {toSender : Bool} {source : Address} {data : List UInt8} :
    ∀ x ∈ (relayed
        (typedRelay type channel toSender env.protocol (serverClients r) source data) :
        List (Address × ServerSend State)),
      ∃ c, (x.1, c) ∈ r.entries ∧ c.isAuthenticated = !x.2.isAuthRequest := by
  simp only [relayed, List.mem_map]
  rintro _ ⟨y, hy, rfl⟩
  obtain ⟨⟨b, c⟩, hbc, he⟩ := List.mem_map.1 (mem_typedRelay hy)
  simp only [Prod.mk.injEq, Client.toServerClient, ServerClient.mk.injEq] at he
  exact ⟨c, he.1 ▸ hbc, by simp [he.2, ServerSend.isAuthRequest]⟩

/-- Whatever the registry and the event, every send goes to an address with a record, and that
record is authenticated exactly when the send is not an `authRequest`: game data (the state list,
`killed`, relayed broadcasts) reaches authenticated records only, and an `authRequest` only records
that are not authenticated. -/
theorem server_sends_only_to_authenticated (r : Registry Address Key State)
    (ev : ServerEvent Address State) :
    ∀ x ∈ (r.step env ev).2, ∃ c, (x.1, c) ∈ (r.step env ev).1.entries ∧
      c.isAuthenticated = !x.2.isAuthRequest := by
  cases ev with
  | state source tag player challenge now =>
    exact handlePlayerState_sends env r source tag player challenge now
  | authResponse => simp [Registry.step]
  | kill source tag playerGuid => exact handlePlayerKill_sends env r source tag playerGuid
  | fact | attack | cutscene => exact relayed_sends env
  | frame now =>
    intro x hx
    obtain ⟨⟨c, hc, ha⟩, hm⟩ := ((sendState_spec _).2 x.1 x.2).1 hx
    exact ⟨c, hc, by simp [ha, hm, ServerSend.isAuthRequest]⟩

/-- After the login, a frame sends the state list to the logged-in player. -/
theorem frame_after_login_sends_states :
    ((0 : Nat), ServerSend.states [(7, [], (), 1)]) ∈
      (authenticatedAtZero.step trustingEnv (.frame 0)).2 ∧
    ∃ c, ((0 : Nat), c) ∈ (authenticatedAtZero.step trustingEnv (.frame 0)).1.entries ∧
      c.isAuthenticated = !(ServerSend.states [(7, [], (), 1)] : ServerSend Unit).isAuthRequest :=
  ⟨by decide, server_sends_only_to_authenticated trustingEnv authenticatedAtZero (.frame 0)
    (0, .states [(7, [], (), 1)]) (by decide)⟩

/-! ### Authentication -/

/-- Every authenticated record holds a valid key that signs the record's nonce. -/
def SignedNonce (r : Registry Address Key State) : Prop :=
  ∀ a c, (a, c) ∈ r.entries → ∀ k, c.publicKey = some k →
    env.isValid k = true ∧ c.authenticationNonce ≠ [] ∧
      ∃ signature, env.verifyMessage k c.authenticationNonce signature = true

namespace SignedNonce

variable {env} {r : Registry Address Key State}

theorem get (h : SignedNonce env r) (a : Address) :
    ∀ k, (r.get a).publicKey = some k → env.isValid k = true ∧
      (r.get a).authenticationNonce ≠ [] ∧
        ∃ signature, env.verifyMessage k (r.get a).authenticationNonce signature = true :=
  fun k hk => h _ _ (Registry.mem_of_publicKey_get hk) k hk

theorem set (h : SignedNonce env r) {a : Address} {c : Client Key State}
    (hc : ∀ k, c.publicKey = some k → env.isValid k = true ∧ c.authenticationNonce ≠ [] ∧
      ∃ signature, env.verifyMessage k c.authenticationNonce signature = true) :
    SignedNonce env (r.set a c) := by
  intro b d hbd
  rcases Registry.mem_set.1 hbd with ⟨-, rfl⟩ | ⟨-, hbd⟩
  · exact hc
  · exact h b d hbd

omit [DecidableEq Address] [Inhabited State] in
theorem filter (h : SignedNonce env r) (p : Client Key State → Bool) :
    SignedNonce env (r.filter p) :=
  fun a c hac => h a c (Registry.mem_filter.1 hac).1

theorem handlePlayerState (h : SignedNonce env r) (source : Address) (tag : UInt32)
    (player : Option (PlayerRecord State)) (challenge : StdString) (now : ℤ) :
    SignedNonce env
      (WitcherSeamless.handlePlayerState env r source tag player challenge now).1 := by
  unfold WitcherSeamless.handlePlayerState
  split_ifs
  · exact h
  rcases player with _ | p
  · exact h
  dsimp only
  split_ifs with ha
  · exact h.set (h.get source)
  · refine h.set fun k hk => ?_
    simp only [sendAuthenticationRequest] at hk
    have hk' : (r.get source).publicKey = some k := by split_ifs at hk <;> exact hk
    simp [Client.isAuthenticated, hk'] at ha

theorem handleAuthenticationResponse (h : SignedNonce env r) (source : Address) (tag : UInt32)
    (fields : Option (StdString × StdString)) (now : ℤ) :
    SignedNonce env (WitcherSeamless.handleAuthenticationResponse env r source tag fields now) := by
  unfold WitcherSeamless.handleAuthenticationResponse
  split_ifs
  · exact h
  rcases fields with _ | ⟨key, signature⟩
  · exact h
  dsimp only
  split_ifs with hv hn hh hs
  · exact h
  · exact h.set (h.get source)
  · exact h.set (h.get source)
  · exact h.set (h.get source)
  · refine h.set fun k hk => ?_
    simp only [Option.some.injEq] at hk
    subst hk
    simp only [Bool.not_eq_true', Bool.not_eq_false] at hv hs
    exact ⟨by simpa using hv, by simpa using hn, signature, by simpa using hs⟩

theorem step (h : SignedNonce env r) (ev : ServerEvent Address State) :
    SignedNonce env (r.step env ev).1 := by
  cases ev with
  | state => exact h.handlePlayerState _ _ _ _ _
  | authResponse => exact h.handleAuthenticationResponse _ _ _ _
  | kill source tag playerGuid =>
    show SignedNonce env (handlePlayerKill env r source tag playerGuid).1
    unfold handlePlayerKill
    split_ifs
    · exact h
    dsimp only
    split_ifs
    · exact h.set (h.get source)
    rcases playerGuid with _ | g
    · exact h.set (h.get source)
    dsimp only
    split <;> exact h.set (h.get source)
  | fact | attack | cutscene => exact h
  | frame now => exact h.filter _

theorem run (h : SignedNonce env r) (events : List (ServerEvent Address State)) :
    SignedNonce env (r.run env events).1 := by
  induction events generalizing r with
  | nil => exact h
  | cons ev evs ih => exact ih (h.step ev)

end SignedNonce

/-- Over every run from start-up, an authenticated record holds a key that is valid and signs the
record's nonce, and the nonce is not empty: no record is authenticated without answering the
challenge the server drew for it. -/
theorem authenticated_clients_signed_nonce (events : List (ServerEvent Address State)) :
    ∀ a c, (a, c) ∈ ((Registry.empty : Registry Address Key State).run env events).1.entries →
      ∀ k, c.publicKey = some k → env.isValid k = true ∧ c.authenticationNonce ≠ [] ∧
        ∃ signature, env.verifyMessage k c.authenticationNonce signature = true :=
  SignedNonce.run (fun _ _ h => by cases h) events

/-- The logged-in player holds the key `7`, valid and signing its nonce `[1]`. -/
theorem login_holds_signing_key :
    ((0 : Nat), (⟨7, [], [1], some 7, 0, (), 1⟩ : Client UInt64 Unit)) ∈
      ((Registry.empty : Registry Nat UInt64 Unit).run trustingEnv loginEvents).1.entries ∧
    (⟨7, [], [1], some 7, 0, (), 1⟩ : Client UInt64 Unit).publicKey = some 7 ∧
    (trustingEnv.isValid 7 = true ∧ ([1] : StdString) ≠ [] ∧
      ∃ signature, trustingEnv.verifyMessage 7 [1] signature = true) :=
  ⟨by decide, rfl, authenticated_clients_signed_nonce trustingEnv loginEvents 0
    ⟨7, [], [1], some 7, 0, (), 1⟩ (by decide) 7 rfl⟩

end Handlers

end WitcherSeamless
