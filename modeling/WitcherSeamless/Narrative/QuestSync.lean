import WitcherSeamless.Narrative.FactManager
import WitcherSeamless.Wire.Packets

/-!
# Narrative synchronization: the story lock and the pending-fact queue

`quest_sync.cpp` keeps four process-wide globals: the story lock `g_story_lock`, the fact manager
`g_fact_manager`, the flag `g_W3mGlobalSyncInProgress` and the queue `g_W3mPendingFacts`. A fact
add (`broadcast_quest_fact`, or `W3mAtomicAddFact` from the scripts) loads the flag: while it is
set the fact is appended to the queue, otherwise it is registered at once and sent to the master
server on the `fact` channel. `acquire_global_story_lock` sets the flag and takes the lock, of
which the first acquirer wins; `release_global_story_lock` releases the lock, clears the flag,
flushes the queue into the manager in order, and sends the unlock record on `quest_lock`, or on
`story_lock_release_forced` when the heartbeat's fail-safe `check_story_lock_timeout` releases a
lock held for more than 15 s; when the client's `g_loopback_enabled` is set, the release hands the
record to `receive_session_state_safe` instead of sending it. The fact message is sent in both
modes.

This file runs those operations one at a time: `NarrativeState.step` is one call of a bridge
function, `NarrativeState.run` a sequence of them. Every operation takes the clock reading it
makes as `now` (the same reading for every read inside one call).

## Main definitions

* `ClientEnv`: the string hash, the protocol tag and the local guid, which the sources use but do
  not define.
* `Emission`: `network::send`, or a loopback call of a handler.
* `GlobalStoryLock` with `acquireLock` and `releaseLock`.
* `NarrativeState` with `queueFactDuringSync`, `flushPendingFacts`, `broadcastQuestFact`,
  `acquireGlobalStoryLock`, `releaseGlobalStoryLock`, `w3mAtomicAddFact`,
  `checkStoryLockTimeout`, `setLoopbackMode`, and `NarrativeOp`, `step`, `run`.

Source: `quest_sync.cpp` (the globals, lines 33–299 of the component) and `quest_sync.hpp`
(`class global_story_lock`); `g_loopback_enabled` and `W3mSetLoopback` are the client's, in
`src/unnamed/part_011`.
-/

namespace WitcherSeamless

/-- What the narrative code takes from outside the sources: `std::hash<std::string>`, the tag
`game::PROTOCOL`, and the local player's `utils::identity::get_guid()`. -/
structure ClientEnv where
  stdHash : StdString → UInt64
  protocol : UInt32
  localGuid : UInt64

/-- A client whose string hash is constant, with protocol tag `0` and guid `1`: the environment
of the concrete runs below, where one fact name is enough. -/
def constHashEnv : ClientEnv := ⟨fun _ => 0, 0, 1⟩

/-- A message handed to `network::send(network::get_master_server(), channel, payload)`. -/
structure Message where
  channel : String
  payload : List UInt8
  deriving DecidableEq

/-- What becomes of a written buffer. -/
inductive Emission
  /-- `network::send(network::get_master_server(), channel, buffer)`. -/
  | sent (m : Message)
  /-- The channel's `receive_*_safe(network::get_master_server(), buffer)`, in loopback mode. -/
  | loopback (m : Message)
  deriving DecidableEq

namespace Emission

/-- The channel and buffer of an emission. -/
def message : Emission → Message
  | sent m => m
  | loopback m => m

/-- The emission of a buffer in the given mode. -/
def of (loopbackEnabled : Bool) (m : Message) : Emission :=
  if loopbackEnabled then loopback m else sent m

@[simp] theorem message_of (b : Bool) (m : Message) : (of b m).message = m := by
  unfold of; split <;> rfl

end Emission

/-! ### The story lock -/

/-- `quest_sync::global_story_lock`. -/
structure GlobalStoryLock where
  lockActive : Bool
  initiatorGuid : UInt64
  sceneId : UInt32
  lockTimestamp : UInt64
  deriving DecidableEq

namespace GlobalStoryLock

/-- A default-constructed lock. -/
def init : GlobalStoryLock := ⟨false, 0, 0, 0⟩

/-- `acquire_lock(initiator_guid, scene_id)`: a no-op while locked. -/
def acquireLock (l : GlobalStoryLock) (initiatorGuid : UInt64) (sceneId : UInt32) (now : UInt64) :
    GlobalStoryLock :=
  if l.lockActive then l else ⟨true, initiatorGuid, sceneId, now⟩

/-- `release_lock()`: a no-op while unlocked; the stamp is left as it was. -/
def releaseLock (l : GlobalStoryLock) : GlobalStoryLock :=
  if l.lockActive then { l with lockActive := false, initiatorGuid := 0, sceneId := 0 } else l

@[simp] theorem lockActive_acquireLock (l : GlobalStoryLock) (g : UInt64) (sc : UInt32)
    (now : UInt64) : (l.acquireLock g sc now).lockActive = true := by
  unfold acquireLock; split_ifs with h <;> simp [h]

@[simp] theorem lockActive_releaseLock (l : GlobalStoryLock) : l.releaseLock.lockActive = false := by
  unfold releaseLock; split_ifs with h <;> simp [h]

end GlobalStoryLock

/-! ### Messages -/

/-- `STORY_LOCK_TIMEOUT_MS`. -/
def storyLockTimeoutMs : UInt64 := 15000

/-- The message of `broadcast_quest_fact(fact_name, value)`: the tag and a `W3mFactPacket` whose
name is `copy_string`'d into the zeroed `fact_name` field. -/
def factMessage (protocol : UInt32) (factName : StdString) (value : BitVec 32) (now : UInt64) :
    Message :=
  ⟨"fact", tagged protocol
    (FactPacket.bytes ⟨copyString (by decide) (CharArray.zero _) factName, value, now⟩)⟩

/-- The unlock message of `release_global_story_lock(forced)`. -/
def unlockMessage (protocol : UInt32) (forced : Bool) (sceneId : UInt32) (initiatorGuid : UInt64)
    (now : UInt64) : Message :=
  ⟨if forced then "story_lock_release_forced" else "quest_lock",
    tagged protocol (QuestLockPacket.bytes ⟨false, sceneId, initiatorGuid, UInt32.ofNat now.toNat⟩)⟩

/-! ### The narrative globals -/

/-- The globals of `quest_sync.cpp`, the client's `g_loopback_enabled`, which the release reads,
and the messages emitted so far, oldest first. -/
structure NarrativeState where
  storyLock : GlobalStoryLock
  factManager : QuestFactManager
  syncInProgress : Bool
  pendingFacts : List QuestFact
  loopbackEnabled : Bool
  emitted : List Emission

namespace NarrativeState

variable (env : ClientEnv)

/-- The globals at load time. -/
def init : NarrativeState := ⟨.init, .empty, false, [], false, []⟩

/-- `queue_fact_during_sync(fact_name, value, player_guid)`. -/
def queueFactDuringSync (s : NarrativeState) (factName : StdString) (value : BitVec 32)
    (playerGuid now : UInt64) : NarrativeState :=
  { s with pendingFacts := s.pendingFacts ++
      [⟨factName, value, now, playerGuid, computeFactHash env.stdHash factName⟩] }

/-- Registering queued facts one after the other, as the loop of `flush_pending_facts` does. -/
def registerAll (m : QuestFactManager) (facts : List QuestFact) (now : UInt64) : QuestFactManager :=
  facts.foldl (fun m f => m.registerFact env.stdHash f.factName f.value f.playerGuid now) m

/-- `flush_pending_facts()`: register every queued fact in order, then clear the queue. -/
def flushPendingFacts (s : NarrativeState) (now : UInt64) : NarrativeState :=
  if s.pendingFacts.isEmpty then s
  else { s with factManager := registerAll env s.factManager s.pendingFacts now, pendingFacts := [] }

/-- `broadcast_quest_fact(fact_name, value)`. -/
def broadcastQuestFact (s : NarrativeState) (factName : StdString) (value : BitVec 32)
    (now : UInt64) : NarrativeState :=
  if s.syncInProgress then s.queueFactDuringSync env factName value env.localGuid now
  else { s with
    factManager := s.factManager.registerFact env.stdHash factName value env.localGuid now
    emitted := s.emitted ++ [.sent (factMessage env.protocol factName value now)] }

/-- `W3mAtomicAddFact(fact_name, value)`: queue while the flag is set, otherwise
`W3mBroadcastFact`, which is `broadcast_quest_fact`. -/
def w3mAtomicAddFact (s : NarrativeState) (factName : StdString) (value : BitVec 32)
    (now : UInt64) : NarrativeState :=
  if s.syncInProgress then s.queueFactDuringSync env factName value env.localGuid now
  else s.broadcastQuestFact env factName value now

/-- `acquire_global_story_lock(initiator_guid, scene_id)`: set the flag, then take the lock. -/
def acquireGlobalStoryLock (s : NarrativeState) (initiatorGuid : UInt64) (sceneId : UInt32)
    (now : UInt64) : NarrativeState :=
  { s with syncInProgress := true, storyLock := s.storyLock.acquireLock initiatorGuid sceneId now }

/-- `release_global_story_lock(forced)`: release the lock, clear the flag, flush the queue, and
emit the unlock record with the initiator and scene read before the release: in loopback mode it
is handed to `receive_session_state_safe`, otherwise sent. -/
def releaseGlobalStoryLock (s : NarrativeState) (forced : Bool) (now : UInt64) : NarrativeState :=
  let s' := flushPendingFacts env
    { s with storyLock := s.storyLock.releaseLock, syncInProgress := false } now
  { s' with emitted := s'.emitted ++ [.of s'.loopbackEnabled
      (unlockMessage env.protocol forced s.storyLock.sceneId s.storyLock.initiatorGuid now)] }

/-- Whether `check_story_lock_timeout` finds the lock expired at `now`:
`(now - lock_timestamp) / 1000000 > STORY_LOCK_TIMEOUT_MS`, in `uint64_t` arithmetic. -/
def lockExpired (lockTimestamp now : UInt64) : Bool := (now - lockTimestamp) / 1000000 > storyLockTimeoutMs

/-- `check_story_lock_timeout()`: force the release of a lock held too long. -/
def checkStoryLockTimeout (s : NarrativeState) (now : UInt64) : NarrativeState :=
  if !s.storyLock.lockActive then s
  else if lockExpired s.storyLock.lockTimestamp now then s.releaseGlobalStoryLock env true now
  else s

/-- `W3mClearFactCache()`. -/
def clearFactCache (s : NarrativeState) : NarrativeState :=
  { s with factManager := s.factManager.clearCache }

/-- `W3mSetLoopback(enabled)`: `set_loopback_mode(enabled)`. -/
def setLoopbackMode (s : NarrativeState) (enabled : Bool) : NarrativeState :=
  { s with loopbackEnabled := enabled }

end NarrativeState

/-- The bridge functions of the narrative component, each with the clock reading it makes. -/
inductive NarrativeOp
  /-- `W3mBroadcastFact(fact_name, value)`. -/
  | broadcastFact (factName : StdString) (value : BitVec 32) (now : UInt64)
  /-- `W3mAtomicAddFact(fact_name, value)`. -/
  | atomicAddFact (factName : StdString) (value : BitVec 32) (now : UInt64)
  /-- `W3mAcquireStoryLock(initiator_guid, scene_id)`. -/
  | acquireStoryLock (initiatorGuid : UInt64) (sceneId : UInt32) (now : UInt64)
  /-- `W3mReleaseStoryLock()`. -/
  | releaseStoryLock (now : UInt64)
  /-- `broadcast_narrative_heartbeat()`, whose only effect is `check_story_lock_timeout()`. -/
  | heartbeat (now : UInt64)
  /-- `W3mClearFactCache()`. -/
  | clearFactCache
  /-- `W3mSetLoopback(enabled)`. -/
  | setLoopback (enabled : Bool)
  deriving DecidableEq

namespace NarrativeState

variable (env : ClientEnv)

/-- One call of a bridge function. -/
def step (s : NarrativeState) : NarrativeOp → NarrativeState
  | .broadcastFact n v now => s.broadcastQuestFact env n v now
  | .atomicAddFact n v now => s.w3mAtomicAddFact env n v now
  | .acquireStoryLock g sc now => s.acquireGlobalStoryLock g sc now
  | .releaseStoryLock now => s.releaseGlobalStoryLock env false now
  | .heartbeat now => s.checkStoryLockTimeout env now
  | .clearFactCache => s.clearFactCache
  | .setLoopback b => s.setLoopbackMode b

/-- A sequence of calls, one at a time. -/
def run (s : NarrativeState) (ops : List NarrativeOp) : NarrativeState := ops.foldl (step env) s

@[simp] theorem run_nil (s : NarrativeState) : run env s [] = s := rfl

@[simp] theorem run_append_singleton (s : NarrativeState) (ops : List NarrativeOp)
    (op : NarrativeOp) : run env s (ops ++ [op]) = step env (run env s ops) op :=
  List.foldl_append _ _ _ _

/-! ### What each operation does to the globals -/

@[simp] theorem queueFactDuringSync_storyLock (s : NarrativeState) (n : StdString) (v : BitVec 32)
    (g now : UInt64) : (s.queueFactDuringSync env n v g now).storyLock = s.storyLock := rfl

@[simp] theorem queueFactDuringSync_syncInProgress (s : NarrativeState) (n : StdString)
    (v : BitVec 32) (g now : UInt64) :
    (s.queueFactDuringSync env n v g now).syncInProgress = s.syncInProgress := rfl

@[simp] theorem queueFactDuringSync_factManager (s : NarrativeState) (n : StdString)
    (v : BitVec 32) (g now : UInt64) :
    (s.queueFactDuringSync env n v g now).factManager = s.factManager := rfl

@[simp] theorem queueFactDuringSync_pendingFacts (s : NarrativeState) (n : StdString)
    (v : BitVec 32) (g now : UInt64) :
    (s.queueFactDuringSync env n v g now).pendingFacts =
      s.pendingFacts ++ [⟨n, v, now, g, computeFactHash env.stdHash n⟩] := rfl

@[simp] theorem registerAll_nil (m : QuestFactManager) (now : UInt64) :
    registerAll env m [] now = m := rfl

theorem broadcastQuestFact_of_sync {s : NarrativeState} (h : s.syncInProgress = true)
    (n : StdString) (v : BitVec 32) (now : UInt64) :
    s.broadcastQuestFact env n v now = s.queueFactDuringSync env n v env.localGuid now := by
  simp [broadcastQuestFact, h]

/-- With the flag clear, an add registers at once and leaves lock, flag and queue alone. -/
theorem broadcastQuestFact_of_not_sync {s : NarrativeState} (h : s.syncInProgress = false)
    (n : StdString) (v : BitVec 32) (now : UInt64) :
    let s' := s.broadcastQuestFact env n v now
    s'.storyLock = s.storyLock ∧ s'.syncInProgress = false ∧ s'.pendingFacts = s.pendingFacts ∧
      s'.factManager = s.factManager.registerFact env.stdHash n v env.localGuid now := by
  simp [broadcastQuestFact, h]

@[simp] theorem acquireGlobalStoryLock_storyLock (s : NarrativeState) (g : UInt64) (sc : UInt32)
    (now : UInt64) :
    (s.acquireGlobalStoryLock g sc now).storyLock = s.storyLock.acquireLock g sc now := rfl

@[simp] theorem acquireGlobalStoryLock_syncInProgress (s : NarrativeState) (g : UInt64)
    (sc : UInt32) (now : UInt64) : (s.acquireGlobalStoryLock g sc now).syncInProgress = true := rfl

@[simp] theorem acquireGlobalStoryLock_pendingFacts (s : NarrativeState) (g : UInt64)
    (sc : UInt32) (now : UInt64) :
    (s.acquireGlobalStoryLock g sc now).pendingFacts = s.pendingFacts := rfl

@[simp] theorem acquireGlobalStoryLock_factManager (s : NarrativeState) (g : UInt64)
    (sc : UInt32) (now : UInt64) :
    (s.acquireGlobalStoryLock g sc now).factManager = s.factManager := rfl

/-- A release, cooperative or forced, leaves the lock released, the flag clear, the queue empty
and every queued fact registered in order, and emits only the unlock record: looped back in
loopback mode, sent otherwise. -/
theorem releaseGlobalStoryLock_spec (s : NarrativeState) (forced : Bool) (now : UInt64) :
    let s' := s.releaseGlobalStoryLock env forced now
    s'.storyLock = s.storyLock.releaseLock ∧ s'.syncInProgress = false ∧ s'.pendingFacts = [] ∧
      s'.factManager = registerAll env s.factManager s.pendingFacts now ∧
      s'.emitted = s.emitted ++ [.of s.loopbackEnabled
        (unlockMessage env.protocol forced s.storyLock.sceneId s.storyLock.initiatorGuid now)] := by
  unfold releaseGlobalStoryLock flushPendingFacts
  by_cases h : s.pendingFacts = [] <;> simp [h]

/-- When the flag is set the two add paths agree: both queue. When it is clear,
`W3mAtomicAddFact` goes through `broadcast_quest_fact`, which loads the flag again. -/
theorem w3mAtomicAddFact_eq (s : NarrativeState) (n : StdString) (v : BitVec 32) (now : UInt64) :
    s.w3mAtomicAddFact env n v now = s.broadcastQuestFact env n v now := by
  unfold w3mAtomicAddFact broadcastQuestFact
  split_ifs <;> rfl

end NarrativeState

end WitcherSeamless
