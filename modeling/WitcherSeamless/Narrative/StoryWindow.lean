import WitcherSeamless.Narrative.QuestSync

/-!
# The story-lock window: a reference registry, and the code refines it

What the narrative core is for, said without a flag, a lock record and a queue: a registry that
applies a fact add when it is issued outside a lock window, applies a cache clear where it is
issued, and holds the adds issued inside a window until the window closes, applying them then,
once, in the order they were issued. A window opens at an acquire when none is open, recording the
initiator, the scene and the time; further acquires change nothing; it closes at a release, or at a
heartbeat 15 s after it opened.

`ReferenceState.step` is that registry. `Refines s r` ties a state of the code to one of the
reference: the flag mirrors the lock, the queue is empty when the lock is free, the lock record
and the queue are the reference's open window, and the two fact managers are equal.
`NarrativeState.run_refines_reference` shows that every run of the code from load time is related
to the reference's run on the same calls.

## Main definitions

* `StoryWindow`, `ReferenceState`, `ReferenceState.step`, `ReferenceState.run`.
* `NarrativeState.window`: the window the code's lock record and queue describe.
* `Refines`.

## Main results

* `Refines.step`: one call keeps the relation.
* `NarrativeState.run_refines_reference`: it holds after every sequence of calls.
-/

namespace WitcherSeamless

/-- An open lock window: the first acquire's initiator, scene and clock reading, and the adds
issued since, oldest first, each as (name, value, owner). -/
structure StoryWindow where
  initiator : UInt64
  scene : UInt32
  acquiredAt : UInt64
  deferred : List (StdString × BitVec 32 × UInt64)
  deriving DecidableEq

/-- The reference registry: its fact manager and the open window, if any. -/
structure ReferenceState where
  registry : QuestFactManager
  window : Option StoryWindow

namespace ReferenceState

variable (env : ClientEnv)

/-- The reference at load time. -/
def init : ReferenceState := ⟨.empty, none⟩

/-- Apply deferred adds in order, each as `register_fact` at `now`. -/
def applyDeferred (m : QuestFactManager) (ds : List (StdString × BitVec 32 × UInt64))
    (now : UInt64) : QuestFactManager :=
  ds.foldl (fun m d => m.registerFact env.stdHash d.1 d.2.1 d.2.2 now) m

/-- A fact add: deferred inside a window, applied outside one. -/
def add (r : ReferenceState) (n : StdString) (v : BitVec 32) (now : UInt64) : ReferenceState :=
  match r.window with
  | some w => { r with window := some { w with deferred := w.deferred ++ [(n, v, env.localGuid)] } }
  | none => { r with registry := r.registry.registerFact env.stdHash n v env.localGuid now }

/-- Closing the window applies what it deferred. -/
def close (r : ReferenceState) (now : UInt64) : ReferenceState :=
  match r.window with
  | some w => ⟨applyDeferred env r.registry w.deferred now, none⟩
  | none => r

/-- One call, on the reference. -/
def step (r : ReferenceState) : NarrativeOp → ReferenceState
  | .broadcastFact n v now | .atomicAddFact n v now => r.add env n v now
  | .acquireStoryLock g sc now =>
    match r.window with
    | none => { r with window := some ⟨g, sc, now, []⟩ }
    | some _ => r
  | .releaseStoryLock now => r.close env now
  | .heartbeat now =>
    match r.window with
    | some w => if NarrativeState.lockExpired w.acquiredAt now then r.close env now else r
    | none => r
  | .clearFactCache => { r with registry := .empty }
  | .setLoopback _ => r

/-- A sequence of calls, on the reference. -/
def run (r : ReferenceState) (ops : List NarrativeOp) : ReferenceState := ops.foldl (step env) r

@[simp] theorem registry_step_acquireStoryLock (r : ReferenceState) (g : UInt64) (sc : UInt32)
    (now : UInt64) : (r.step env (.acquireStoryLock g sc now)).registry = r.registry := by
  cases h : r.window <;> simp [step, h]

theorem registry_add_of_window {r : ReferenceState} {w : StoryWindow} (hw : r.window = some w)
    (n : StdString) (v : BitVec 32) (now : UInt64) : (r.add env n v now).registry = r.registry := by
  simp [add, hw]

end ReferenceState

namespace NarrativeState

/-- A queued fact as the flush uses it: name, value and owner. -/
def deferredOf (f : QuestFact) : StdString × BitVec 32 × UInt64 := (f.factName, f.value, f.playerGuid)

/-- The window that the lock record and the queue describe. -/
def window (s : NarrativeState) : Option StoryWindow :=
  if s.storyLock.lockActive then
    some ⟨s.storyLock.initiatorGuid, s.storyLock.sceneId, s.storyLock.lockTimestamp,
      s.pendingFacts.map deferredOf⟩
  else none

theorem registerAll_eq_applyDeferred (env : ClientEnv) (m : QuestFactManager)
    (fs : List QuestFact) (now : UInt64) :
    registerAll env m fs now = ReferenceState.applyDeferred env m (fs.map deferredOf) now := by
  simp [registerAll, ReferenceState.applyDeferred, List.foldl_map, deferredOf]

end NarrativeState

/-- The code's globals `s` implement the reference state `r`. -/
structure Refines (s : NarrativeState) (r : ReferenceState) : Prop where
  /-- (a) `g_W3mGlobalSyncInProgress` equals `g_story_lock.is_locked()`. -/
  flag_eq_locked : s.syncInProgress = s.storyLock.lockActive
  /-- (b) The pending queue is empty whenever the lock is free. -/
  pending_nil_of_free : s.storyLock.lockActive = false → s.pendingFacts = []
  /-- (c) The lock record and the queue are the reference's open window: while locked, the
  initiator, scene and stamp of the first acquire since the last release, and the adds issued
  since, in order. -/
  window_eq : r.window = s.window
  /-- (d) The fact manager is the reference's registry. -/
  registry_eq : s.factManager = r.registry

namespace Refines

variable {env : ClientEnv} {s : NarrativeState} {r : ReferenceState}

theorem init : Refines .init .init := ⟨rfl, fun _ => rfl, rfl, rfl⟩

theorem add (h : Refines s r) (n : StdString) (v : BitVec 32) (now : UInt64) :
    Refines (s.broadcastQuestFact env n v now) (r.add env n v now) := by
  cases hl : s.storyLock.lockActive
  · have hs : s.syncInProgress = false := h.flag_eq_locked.trans hl
    obtain ⟨h1, h2, h3, h4⟩ := NarrativeState.broadcastQuestFact_of_not_sync env hs n v now
    have hw : r.window = none := by simp [h.window_eq, NarrativeState.window, hl]
    refine ⟨by rw [h2, h1, hl], fun _ => h3.trans (h.pending_nil_of_free hl), ?_, ?_⟩
    · simp [ReferenceState.add, hw, NarrativeState.window, h1, hl]
    · simp [ReferenceState.add, hw, h4, h.registry_eq]
  · have hs : s.syncInProgress = true := h.flag_eq_locked.trans hl
    have hw : r.window = s.window := h.window_eq
    simp only [NarrativeState.window, hl, if_true] at hw
    rw [NarrativeState.broadcastQuestFact_of_sync env hs]
    refine ⟨by simpa using h.flag_eq_locked, by simp [hl], ?_, ?_⟩
    · simp [ReferenceState.add, hw, NarrativeState.window, hl, NarrativeState.deferredOf]
    · simpa [ReferenceState.registry_add_of_window env hw] using h.registry_eq

theorem release (h : Refines s r) (forced : Bool) (now : UInt64) :
    Refines (s.releaseGlobalStoryLock env forced now) (r.close env now) := by
  obtain ⟨h1, h2, h3, h4, -⟩ := NarrativeState.releaseGlobalStoryLock_spec env s forced now
  refine ⟨by simp [h1, h2], fun _ => h3, ?_, ?_⟩
  · cases hl : s.storyLock.lockActive <;>
      simp [ReferenceState.close, h.window_eq, NarrativeState.window, h1, hl]
  · cases hl : s.storyLock.lockActive
    · have hw : r.window = none := by simp [h.window_eq, NarrativeState.window, hl]
      simp [ReferenceState.close, hw, h4, h.pending_nil_of_free hl, h.registry_eq]
    · simp [ReferenceState.close, h.window_eq, NarrativeState.window, hl, h4, h.registry_eq,
        NarrativeState.registerAll_eq_applyDeferred]

theorem acquire (h : Refines s r) (g : UInt64) (sc : UInt32) (now : UInt64) :
    Refines (s.acquireGlobalStoryLock g sc now) (r.step env (.acquireStoryLock g sc now)) := by
  refine ⟨by simp, by simp, ?_, by simpa using h.registry_eq⟩
  cases hl : s.storyLock.lockActive
  · have hw : r.window = none := by simp [h.window_eq, NarrativeState.window, hl]
    simp [ReferenceState.step, hw, NarrativeState.window, GlobalStoryLock.acquireLock, hl,
      h.pending_nil_of_free hl]
  · simp [ReferenceState.step, h.window_eq, NarrativeState.window, GlobalStoryLock.acquireLock, hl]

theorem heartbeat (h : Refines s r) (now : UInt64) :
    Refines (s.checkStoryLockTimeout env now) (r.step env (.heartbeat now)) := by
  cases hl : s.storyLock.lockActive
  · have hw : r.window = none := by simp [h.window_eq, NarrativeState.window, hl]
    simpa [NarrativeState.checkStoryLockTimeout, ReferenceState.step, hw, hl] using h
  · have hw : r.window = s.window := h.window_eq
    simp only [NarrativeState.window, hl, if_true] at hw
    by_cases he : NarrativeState.lockExpired s.storyLock.lockTimestamp now
    · simpa [NarrativeState.checkStoryLockTimeout, ReferenceState.step, hw, hl, he] using
        h.release true now
    · simpa [NarrativeState.checkStoryLockTimeout, ReferenceState.step, hw, hl, he] using h

/-- One call keeps the relation. -/
theorem step (h : Refines s r) (op : NarrativeOp) : Refines (s.step env op) (r.step env op) := by
  cases op with
  | broadcastFact n v now => exact h.add n v now
  | atomicAddFact n v now =>
    rw [NarrativeState.step, NarrativeState.w3mAtomicAddFact_eq]
    exact h.add n v now
  | acquireStoryLock g sc now => exact h.acquire g sc now
  | releaseStoryLock now => exact h.release false now
  | heartbeat now => exact h.heartbeat now
  | clearFactCache =>
    exact ⟨h.flag_eq_locked, h.pending_nil_of_free, h.window_eq, rfl⟩
  | setLoopback b =>
    exact ⟨h.flag_eq_locked, h.pending_nil_of_free, h.window_eq, h.registry_eq⟩

end Refines

/-- Every sequence of narrative calls, run one at a time from load time, keeps the globals an
implementation of the reference registry run on the same calls: the flag equals the lock, the
queue is empty while the lock is free, the lock record and the queue are the reference's window
(the first acquire since the last release, and the adds issued since), and the fact managers are
equal, so their name-to-value views agree. -/
theorem NarrativeState.run_refines_reference (env : ClientEnv) (ops : List NarrativeOp) :
    Refines (NarrativeState.init.run env ops) (ReferenceState.init.run env ops) := by
  induction ops using List.reverseRecOn with
  | nil => exact Refines.init
  | append_singleton ops op ih =>
    simp only [NarrativeState.run, ReferenceState.run, List.foldl_append, List.foldl_cons,
      List.foldl_nil]
    exact ih.step op

end WitcherSeamless
