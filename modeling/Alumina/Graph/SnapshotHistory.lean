import Alumina.ForStd.Except

/-!
# Bounded snapshot history

Undo and redo around one current session keep complete canonical encodings on two stacks, oldest
first, with one counter of the bytes that both retain. `GraphAuthoringSessionHistory` and
`GraphWorkspaceHistory` are the same machine. They differ in what the current session is and in how
it is encoded and replayed, which is the parameter `SnapshotCodec`.

The counter is lowered by an unchecked subtraction when a snapshot is evicted. Here it can fail, with
`HistoryStop.underflow`, so that a statement can say that it never does.
-/

namespace Alumina.Graph

open Except (failIf)

/-! ## Pointer-sized integers -/

/-- `usize::MAX` of the platform. -/
class Usize where
  maximum : Nat

namespace Usize

def checkedAdd [Usize] (a b : Nat) : Option Nat :=
  if a + b ≤ maximum then some (a + b) else none

def checkedSub (a b : Nat) : Option Nat :=
  if b ≤ a then some (a - b) else none

end Usize

/-! ## Codecs, limits and errors -/

/-- One complete canonical encoding (`GraphAuthoringSessionSnapshot`). -/
abbrev Snapshot := List UInt8

/-- How a current session becomes a snapshot and a snapshot is replayed. Replay encodes what it
decoded and refuses bytes that differ, so the session it returns encodes to those bytes. -/
structure SnapshotCodec (Current Admission Replay ε : Type) where
  encode : Current → Except ε Snapshot
  replay : Snapshot → Admission → Except ε Replay
  current : Replay → Current
  canonical : ∀ {snapshot : Snapshot} {admission : Admission} {replayed : Replay},
    replay snapshot admission = .ok replayed → encode (current replayed) = .ok snapshot

/-- Bounded retention policy. -/
structure SnapshotHistoryLimits [Usize] where
  maximumSnapshotsPerDirection : Nat
  maximumHistoryBytes : Nat
  bytes_le : maximumHistoryBytes ≤ Usize.maximum

/-- Rejection at the bounded history boundary. -/
inductive SnapshotHistoryError (ε : Type) where
  | zeroLimit | snapshotTooLarge | byteAccounting
  | session (error : ε)
  deriving DecidableEq

/-- How an operation stops: with a rejection, or in an unchecked subtraction. -/
inductive HistoryStop (ε : Type) where
  | rejected (error : SnapshotHistoryError ε)
  | underflow
  deriving DecidableEq

def SnapshotHistoryLimits.validate [Usize] {ε : Type} (limits : SnapshotHistoryLimits) :
    Except (SnapshotHistoryError ε) Unit :=
  failIf (limits.maximumSnapshotsPerDirection = 0 ∨ limits.maximumHistoryBytes = 0) .zeroLimit

/-! ## Eviction -/

section Eviction

variable {ε : Type}

/-- `while exceeds { removed = stack.remove(0); retained_bytes -= removed.len() }`; `exceeds` looks
at the number of snapshots on the stack and at the counter. -/
def evictWhile (exceeds : Nat → Nat → Bool) :
    List Snapshot → Nat → Except (HistoryStop ε) (List Snapshot × Nat)
  | [], retained => .ok ([], retained)
  | oldest :: stack, retained =>
    if exceeds (oldest :: stack).length retained then do
      let retained ← (Usize.checkedSub retained oldest.length).okOr .underflow
      evictWhile exceeds stack retained
    else .ok (oldest :: stack, retained)

/-- Combined length of a stack (`snapshot_bytes`). -/
def snapshotBytes [Usize] (snapshots : List Snapshot) : Except (HistoryStop ε) Nat :=
  snapshots.foldlM (fun total snapshot =>
    (Usize.checkedAdd total snapshot.length).okOr (.rejected .byteAccounting)) 0

end Eviction

/-! ## Histories -/

/-- Bounded ephemeral history around one current session. -/
structure SnapshotHistory [Usize] where
  limits : SnapshotHistoryLimits
  undo : List Snapshot
  redo : List Snapshot
  retainedBytes : Nat

namespace SnapshotHistory

variable [Usize] {Current Admission Replay ε : Type}

/-- Empty history under an explicit retention policy. -/
def tryNew (limits : SnapshotHistoryLimits) : Except (SnapshotHistoryError ε) SnapshotHistory := do
  limits.validate
  return ⟨limits, [], [], 0⟩

/-- Evict oldest snapshots until every bound holds. The last loop of the source takes from the redo
side only once the undo side is empty. -/
def enforceLimits (history : SnapshotHistory) : Except (HistoryStop ε) SnapshotHistory := do
  let excess := fun count (_ : Nat) => decide (count > history.limits.maximumSnapshotsPerDirection)
  let overBudget := fun (_ : Nat) retained => decide (retained > history.limits.maximumHistoryBytes)
  let (undo, retained) ← evictWhile excess history.undo history.retainedBytes
  let (redo, retained) ← evictWhile excess history.redo retained
  let (undo, retained) ← evictWhile overBudget undo retained
  if undo.isEmpty then
    let (redo, retained) ← evictWhile overBudget redo retained
    return { history with undo, redo, retainedBytes := retained }
  return { history with undo, redo, retainedBytes := retained }

def requireSnapshotSize (history : SnapshotHistory) (snapshot : Snapshot) :
    Except (HistoryStop ε) Unit :=
  failIf (snapshot.length > history.limits.maximumHistoryBytes) (.rejected .snapshotTooLarge)

/-- Record a replaced prior session and clear the abandoned redo branch. -/
def record (history : SnapshotHistory) (prior : Snapshot) :
    Except (HistoryStop ε) SnapshotHistory := do
  history.requireSnapshotSize prior
  let redoBytes ← snapshotBytes history.redo
  let retainedWithoutRedo ← (Usize.checkedSub history.retainedBytes redoBytes).okOr
    (.rejected .byteAccounting)
  let retainedWithPrior ← (Usize.checkedAdd retainedWithoutRedo prior.length).okOr
    (.rejected .byteAccounting)
  enforceLimits { history with
    redo := []
    retainedBytes := retainedWithPrior
    undo := history.undo ++ [prior] }

/-- Replay the newest snapshot of one side and move the current session to the other. -/
def navigate (codec : SnapshotCodec Current Admission Replay ε) (history : SnapshotHistory)
    (current : Current) (admission : Admission) (redo : Bool) :
    Except (HistoryStop ε) (SnapshotHistory × Option Replay) :=
  match if redo then history.redo.getLast? else history.undo.getLast? with
  | none => .ok (history, none)
  | some target => do
    let replayed ← (codec.replay target admission).mapError fun error =>
      .rejected (.session error)
    let current ← (codec.encode current).mapError fun error => .rejected (.session error)
    history.requireSnapshotSize current
    let retainedWithoutTarget ← (Usize.checkedSub history.retainedBytes target.length).okOr
      (.rejected .byteAccounting)
    let retainedWithCurrent ← (Usize.checkedAdd retainedWithoutTarget current.length).okOr
      (.rejected .byteAccounting)
    let moved := if redo then
        { history with redo := history.redo.dropLast, undo := history.undo ++ [current] }
      else { history with undo := history.undo.dropLast, redo := history.redo ++ [current] }
    let settled ← enforceLimits { moved with retainedBytes := retainedWithCurrent }
    return (settled, some replayed)

/-- Replay the next target of one side without navigating (`preview_undo`, `preview_redo`). -/
def preview (codec : SnapshotCodec Current Admission Replay ε) (stack : List Snapshot)
    (admission : Admission) : Except (HistoryStop ε) (Option Replay) :=
  match stack.getLast? with
  | none => .ok none
  | some target => do
    let replayed ← (codec.replay target admission).mapError fun error =>
      .rejected (.session error)
    return some replayed

/-- Clear all navigation state. -/
def clear (history : SnapshotHistory) : SnapshotHistory :=
  { history with undo := [], redo := [], retainedBytes := 0 }

end SnapshotHistory

/-! ## Operations -/

/-- One call of the history. -/
inductive HistoryOperation (Current Admission : Type) where
  | record (prior : Snapshot)
  | undo (current : Current) (admission : Admission)
  | redo (current : Current) (admission : Admission)
  | previewUndo (admission : Admission)
  | previewRedo (admission : Admission)
  | clear

namespace SnapshotHistory

variable [Usize] {Current Admission Replay ε : Type}

/-- The history after a call that goes through, with the session it replayed. -/
def operated (codec : SnapshotCodec Current Admission Replay ε) (history : SnapshotHistory) :
    HistoryOperation Current Admission →
      Except (HistoryStop ε) (SnapshotHistory × Option Replay)
  | .record prior => do
    let next ← history.record prior
    return (next, none)
  | .undo current admission => history.navigate codec current admission false
  | .redo current admission => history.navigate codec current admission true
  | .previewUndo admission => do
    let replayed ← preview codec history.undo admission
    return (history, replayed)
  | .previewRedo admission => do
    let replayed ← preview codec history.redo admission
    return (history, replayed)
  | .clear => .ok (history.clear, none)

/-- Perform one call; one that stops leaves the history as it was. -/
def perform (codec : SnapshotCodec Current Admission Replay ε) (history : SnapshotHistory)
    (operation : HistoryOperation Current Admission) :
    SnapshotHistory × Except (HistoryStop ε) (Option Replay) :=
  match history.operated codec operation with
  | .ok (next, replayed) => (next, .ok replayed)
  | .error stop => (history, .error stop)

end SnapshotHistory

end Alumina.Graph
