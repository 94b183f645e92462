import WitcherSeamless.Narrative.QuestSync

/-!
# The WitcherScript hooks into the narrative component

`W3M_CombatSync.ws` forwards the quest system's fact writes to the C++ registry. The wrapped
`CQuestsSystem.AddFact` and `CQuestsSystem.SetFact` first let the engine write its own fact
database, then call `W3mAtomicAddFact(factId, value)` only when `W3mIsGlobalSyncInProgress()` is
false. `AddFactWrapper` does the opposite test: during a sync it calls `W3mAtomicAddFact`, which
queues the fact; otherwise it calls the quest system's `AddFact`, which goes through the hook.
Dialogue and cutscene hooks acquire and release the story lock.

The engine's own fact database is outside the model; `ScriptCall.step` is what a script call does
to the narrative globals. A hooked write made inside a lock window never reaches the registry
(`hookedAddFact_of_sync`), while `AddFactWrapper` queues it (`addFactWrapper_of_sync`);
`hooked_write_in_lock_window_is_lost` runs both.

Source: `src/scripts/W3M_CombatSync.ws`, the `CQuestsSystem` wrappers, `OnDialogueStart`,
`OnDialogueEnd` and `AddFactWrapper`.
-/

namespace WitcherSeamless

namespace NarrativeState

variable (env : ClientEnv)

/-- The forwarding shared by the `AddFact` and `SetFact` wrappers: `W3mAtomicAddFact` unless
`W3mIsGlobalSyncInProgress()`. -/
def forwardUnlessSyncing (s : NarrativeState) (factId : StdString) (value : BitVec 32)
    (now : UInt64) : NarrativeState :=
  if !s.syncInProgress then s.w3mAtomicAddFact env factId value now else s

/-- The wrapped `CQuestsSystem.AddFact(factId, value, validFor)`; `isLocalPlayer` is always
true. -/
def hookedAddFact (s : NarrativeState) (factId : StdString) (value : BitVec 32) (now : UInt64) :
    NarrativeState :=
  s.forwardUnlessSyncing env factId value now

/-- The wrapped `CQuestsSystem.SetFact(factId, value)`. -/
def hookedSetFact (s : NarrativeState) (factId : StdString) (value : BitVec 32) (now : UInt64) :
    NarrativeState :=
  s.forwardUnlessSyncing env factId value now

/-- `AddFactWrapper(factId, value, validFor)`: queue during a sync, otherwise go through the
quest system's wrapped `AddFact`. -/
def addFactWrapper (s : NarrativeState) (factId : StdString) (value : BitVec 32) (now : UInt64) :
    NarrativeState :=
  if s.syncInProgress then s.w3mAtomicAddFact env factId value now
  else s.hookedAddFact env factId value now

/-- A hooked write made while a sync is in progress leaves the narrative globals as they were:
nothing is queued, so the release has nothing of it to flush. -/
theorem hookedAddFact_of_sync {s : NarrativeState} (h : s.syncInProgress = true)
    (n : StdString) (v : BitVec 32) (now : UInt64) : s.hookedAddFact env n v now = s := by
  simp [hookedAddFact, forwardUnlessSyncing, h]

/-- `AddFactWrapper` during a sync queues the fact. -/
theorem addFactWrapper_of_sync {s : NarrativeState} (h : s.syncInProgress = true)
    (n : StdString) (v : BitVec 32) (now : UInt64) :
    s.addFactWrapper env n v now = s.queueFactDuringSync env n v env.localGuid now := by
  simp [addFactWrapper, w3mAtomicAddFact, h]

/-- Outside a sync, all three paths are `W3mAtomicAddFact`. -/
theorem addFactWrapper_of_not_sync {s : NarrativeState} (h : s.syncInProgress = false)
    (n : StdString) (v : BitVec 32) (now : UInt64) :
    s.addFactWrapper env n v now = s.w3mAtomicAddFact env n v now ∧
      s.hookedAddFact env n v now = s.w3mAtomicAddFact env n v now := by
  simp [addFactWrapper, hookedAddFact, forwardUnlessSyncing, h]

end NarrativeState

/-- A script call that reaches the narrative component. -/
inductive ScriptCall
  /-- The wrapped `CQuestsSystem.AddFact`. -/
  | addFact (factId : StdString) (value : BitVec 32) (now : UInt64)
  /-- The wrapped `CQuestsSystem.SetFact`. -/
  | setFact (factId : StdString) (value : BitVec 32) (now : UInt64)
  /-- `AddFactWrapper`. -/
  | addFactWrapper (factId : StdString) (value : BitVec 32) (now : UInt64)
  /-- `W3mAcquireStoryLock`, from the dialogue and cutscene start hooks. -/
  | acquireStoryLock (initiatorGuid : UInt64) (sceneId : UInt32) (now : UInt64)
  /-- `W3mReleaseStoryLock`, from the dialogue and cutscene end hooks. -/
  | releaseStoryLock (now : UInt64)

namespace ScriptCall

variable (env : ClientEnv)

/-- What a script call does to the narrative globals. -/
def step (s : NarrativeState) : ScriptCall → NarrativeState
  | .addFact n v now => s.hookedAddFact env n v now
  | .setFact n v now => s.hookedSetFact env n v now
  | .addFactWrapper n v now => s.addFactWrapper env n v now
  | .acquireStoryLock g sc now => s.acquireGlobalStoryLock g sc now
  | .releaseStoryLock now => s.releaseGlobalStoryLock env false now

/-- Script calls one after the other. -/
def run (s : NarrativeState) (calls : List ScriptCall) : NarrativeState := calls.foldl (step env) s

end ScriptCall

/-- A dialogue writes the fact `q = 1` while it holds the story lock, then ends. Written through
the wrapped `AddFact`, the fact is missing from the registry once the lock is free; written through
`AddFactWrapper`, it is there. -/
theorem hooked_write_in_lock_window_is_lost :
    let hooked : NarrativeState := ScriptCall.run constHashEnv .init
      [.acquireStoryLock 7 1 0, .addFact [113] 1 5, .releaseStoryLock 10]
    let wrapped : NarrativeState := ScriptCall.run constHashEnv .init
      [.acquireStoryLock 7 1 0, .addFactWrapper [113] 1 5, .releaseStoryLock 10]
    hooked.storyLock.lockActive = false ∧
      hooked.factManager.getFact constHashEnv.stdHash [113] = none ∧
      (wrapped.factManager.getFact constHashEnv.stdHash [113]).map (·.value) = some 1 := by
  decide

end WitcherSeamless
