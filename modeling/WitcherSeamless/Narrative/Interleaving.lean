import WitcherSeamless.Narrative.QuestSync

/-!
# Narrative operations as interleaved atomic steps

The narrative bridge functions run on the script thread, and the heartbeat's fail-safe runs on
the scheduler's async pipeline, so their steps can interleave. Each operation is a sequence of
atomic steps on the shared globals:

* a fact add loads `g_W3mGlobalSyncInProgress`, then either appends to the queue under its mutex
  or registers the fact under the manager's mutex (and sends it); `W3mAtomicAddFact` loads the
  flag once more inside `broadcast_quest_fact` before it registers;
* an acquire stores the flag, then takes the lock;
* a release (cooperative, or forced by the heartbeat after its check) releases the lock, stores
  the flag, then flushes the queue under its mutex (and emits the unlock record: sent, or handed
  to `receive_session_state_safe` in loopback mode);
* `W3mSetLoopback` stores the client's loopback flag.

A `Task` is where a running operation is; `Task.next` is its next atomic step. A `System` is the
shared globals and the tasks; a schedule is the list of the tasks that take a step, in order.
`Task.runSolo_ofOp` shows that an operation run alone is the one-call step of
`NarrativeState.step`; `release_race_loses_fact_updates` shows what two schedules that interleave
an add with a release do.

Source: `quest_sync.cpp`, `broadcast_quest_fact`, `W3mAtomicAddFact`,
`acquire_global_story_lock`, `release_global_story_lock`, `check_story_lock_timeout`.
-/

namespace WitcherSeamless

/-- A running narrative operation, at the atomic step it takes next. -/
inductive Task
  /-- `W3mAtomicAddFact`, before it loads the flag. -/
  | atomicAdd (n : StdString) (v : BitVec 32) (now : UInt64)
  /-- `broadcast_quest_fact`, before it loads the flag. -/
  | broadcast (n : StdString) (v : BitVec 32) (now : UInt64)
  /-- An add that loaded the flag as set, before it appends to the queue. -/
  | enqueue (n : StdString) (v : BitVec 32) (now : UInt64)
  /-- An add that loaded the flag as clear, before it registers and sends the fact. -/
  | register (n : StdString) (v : BitVec 32) (now : UInt64)
  /-- An acquire, before it stores the flag. -/
  | acquireStore (g : UInt64) (sc : UInt32) (now : UInt64)
  /-- An acquire, before it takes the lock. -/
  | acquireLock (g : UInt64) (sc : UInt32) (now : UInt64)
  /-- The heartbeat's `check_story_lock_timeout`, before it reads the lock. -/
  | timeoutCheck (now : UInt64)
  /-- A release, before it reads the initiator and scene and releases the lock. -/
  | releaseLock (forced : Bool) (now : UInt64)
  /-- A release, before it clears the flag. -/
  | releaseStore (forced : Bool) (sc : UInt32) (g : UInt64) (now : UInt64)
  /-- A release, before it flushes the queue and sends the unlock record. -/
  | releaseFlush (forced : Bool) (sc : UInt32) (g : UInt64) (now : UInt64)
  /-- `W3mClearFactCache`, before it clears the cache under its mutex. -/
  | clear
  /-- `W3mSetLoopback`, before it stores the flag. -/
  | setLoopback (enabled : Bool)
  /-- A completed operation. -/
  | done
  deriving DecidableEq

namespace Task

variable (env : ClientEnv)

/-- The task that runs a bridge call from its start. -/
def ofOp : NarrativeOp → Task
  | .broadcastFact n v now => .broadcast n v now
  | .atomicAddFact n v now => .atomicAdd n v now
  | .acquireStoryLock g sc now => .acquireStore g sc now
  | .releaseStoryLock now => .releaseLock false now
  | .heartbeat now => .timeoutCheck now
  | .clearFactCache => .clear
  | .setLoopback b => .setLoopback b

/-- One atomic step of a task on the shared globals, and the task after it. -/
def next (s : NarrativeState) : Task → NarrativeState × Task
  | .atomicAdd n v now => (s, if s.syncInProgress then .enqueue n v now else .broadcast n v now)
  | .broadcast n v now => (s, if s.syncInProgress then .enqueue n v now else .register n v now)
  | .enqueue n v now => (s.queueFactDuringSync env n v env.localGuid now, .done)
  | .register n v now =>
    ({ s with
      factManager := s.factManager.registerFact env.stdHash n v env.localGuid now
      emitted := s.emitted ++ [.sent (factMessage env.protocol n v now)] }, .done)
  | .acquireStore g sc now => ({ s with syncInProgress := true }, .acquireLock g sc now)
  | .acquireLock g sc now => ({ s with storyLock := s.storyLock.acquireLock g sc now }, .done)
  | .timeoutCheck now =>
    (s, if s.storyLock.lockActive && NarrativeState.lockExpired s.storyLock.lockTimestamp now
      then .releaseLock true now else .done)
  | .releaseLock forced now =>
    ({ s with storyLock := s.storyLock.releaseLock },
      .releaseStore forced s.storyLock.sceneId s.storyLock.initiatorGuid now)
  | .releaseStore forced sc g now => ({ s with syncInProgress := false }, .releaseFlush forced sc g now)
  | .releaseFlush forced sc g now =>
    let s' := s.flushPendingFacts env now
    ({ s' with emitted := s'.emitted ++
      [.of s'.loopbackEnabled (unlockMessage env.protocol forced sc g now)] }, .done)
  | .clear => (s.clearFactCache, .done)
  | .setLoopback b => (s.setLoopbackMode b, .done)
  | .done => (s, .done)

/-- A task run alone for at most `k` steps. -/
def runSolo : Nat → NarrativeState → Task → NarrativeState
  | 0, s, _ => s
  | k + 1, s, t => runSolo k (t.next env s).1 (t.next env s).2

@[simp] theorem runSolo_done (k : Nat) (s : NarrativeState) : runSolo env k s .done = s := by
  induction k with
  | zero => rfl
  | succ k ih => exact ih

/-- An operation run alone, with no other step in between, is one call of the sequential model:
the atomic steps compose to `NarrativeState.step`. -/
theorem runSolo_ofOp (s : NarrativeState) (op : NarrativeOp) :
    runSolo env 4 s (ofOp op) = s.step env op := by
  cases op with
  | broadcastFact n v now =>
    by_cases h : s.syncInProgress <;>
      simp [ofOp, runSolo, next, h, NarrativeState.step, NarrativeState.broadcastQuestFact]
  | atomicAddFact n v now =>
    by_cases h : s.syncInProgress <;>
      simp [ofOp, runSolo, next, h, NarrativeState.step, NarrativeState.w3mAtomicAddFact,
        NarrativeState.broadcastQuestFact]
  | acquireStoryLock g sc now => rfl
  | releaseStoryLock now => rfl
  | heartbeat now =>
    by_cases h : s.storyLock.lockActive <;>
    by_cases he : NarrativeState.lockExpired s.storyLock.lockTimestamp now <;>
      simp [ofOp, runSolo, next, h, he, NarrativeState.step, NarrativeState.checkStoryLockTimeout,
        NarrativeState.releaseGlobalStoryLock]
  | clearFactCache | setLoopback => rfl

end Task

/-- The shared globals and the running operations. -/
structure System where
  shared : NarrativeState
  tasks : List Task

namespace System

variable (env : ClientEnv)

/-- Task `i` takes its next atomic step; an index with no task changes nothing. -/
def step (sys : System) (i : Nat) : System :=
  match sys.tasks[i]? with
  | some t => ⟨(t.next env sys.shared).1, sys.tasks.set i (t.next env sys.shared).2⟩
  | none => sys

/-- The steps of a schedule, in order. -/
def run (sys : System) (sched : List Nat) : System := sched.foldl (step env) sys

/-- Every operation has completed. -/
def allDone (sys : System) : Bool := sys.tasks.all (· == .done)

end System

/-- Two schedules of `W3mAtomicAddFact` calls against a release, from load time. In the first, an
add loads the flag while the lock is held, the release then runs to the end, and the add appends
afterwards: every operation has completed and the lock is free, yet the fact sits in the queue,
invisible to `get_fact`, with no flush left to apply it. In the second, an add queued inside the
window (`q = 1`) is flushed after an add made directly once the flag was cleared (`q = 2`), and
overwrites it: `get_fact("q")` ends at `1`. -/
theorem release_race_loses_fact_updates :
    let stranded : System := System.run constHashEnv
      ⟨.init, [.acquireStore 7 1 0, .atomicAdd [113] 1 5, .releaseLock false 10]⟩
      [0, 0, 1, 2, 2, 2, 1]
    let overwritten : System := System.run constHashEnv
      ⟨.init, [.acquireStore 7 1 0, .atomicAdd [113] 1 5, .releaseLock false 10,
        .atomicAdd [113] 2 20]⟩
      [0, 0, 1, 1, 2, 2, 3, 3, 3, 2]
    (stranded.allDone ∧ stranded.shared.storyLock.lockActive = false ∧
      stranded.shared.pendingFacts ≠ []) ∧
    (overwritten.allDone ∧ overwritten.shared.storyLock.lockActive = false ∧
      overwritten.shared.pendingFacts = [] ∧
      (overwritten.shared.factManager.getFact constHashEnv.stdHash [113]).map (·.value) = some 1) := by
  decide

end WitcherSeamless
