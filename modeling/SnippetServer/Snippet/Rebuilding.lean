import SnippetServer.Snippet.Store

namespace SnippetServer.Snippet

/-!
# Rebuilds at the same time

Any number of calls may rebuild a store at the same time, while its source is set and the file tree
changes.  A call takes the lock of the store, reads the source and then the directory, puts its
index in the place of the current one, counts it, and gives the lock back.  Between two actions of a
call anything else may happen, but no other call takes the lock.

* `Stage`, `Action` — how far a call has come, and what it can do;
* `World` — a store with its lock and its calls, and the file tree;
* `World.perform?`, `World.step?` — the world after an action of a call, and after any other move;
* `World.run?` — the world after several moves.
-/

/-! ### Publishing in two halves -/

namespace Store

/-- Puts an index in the place of the current one. -/
def swap (store : Store) (index : Index) : Store := { store with index }

/-- Counts one more published index. -/
def count (store : Store) : Store := { store with generation := store.generation + 1 }

/-- Both halves of publishing an index make up the whole. -/
theorem count_swap (store : Store) (index : Index) :
    (store.swap index).count = store.publish index := rfl

end Store

/-! ### Calls -/

/-- How far a call has come. -/
inductive Stage where
  /-- It has not taken the lock yet. -/
  | waiting
  /-- It has taken the lock. -/
  | locked
  /-- It has read the source. -/
  | configured (source : Source)
  /-- It has read the directory. -/
  | loaded (index : Index)
  /-- It has put its index in place, which has so many entries. -/
  | swapped (entries : Nat)
  /-- It has counted its index. -/
  | counted (entries : Nat)
  /-- It has given the lock back and returns the number of entries. -/
  | returned (entries : Nat)
  deriving DecidableEq, Repr

/-- Whether a call has the lock. -/
def Stage.holds : Stage → Bool
  | .waiting => false
  | .returned _ => false
  | _ => true

/-- What a call can do. -/
inductive Action where
  /-- It takes the lock. -/
  | lock
  /-- It reads the source. -/
  | readSource
  /-- It reads the directory. -/
  | readDirectory
  /-- It puts its index in place. -/
  | swap
  /-- It counts its index. -/
  | count
  /-- It gives the lock back. -/
  | unlock
  deriving DecidableEq, Repr

/-- What a call does, in order. -/
def Action.all : List Action := [.lock, .readSource, .readDirectory, .swap, .count, .unlock]

/-! ### A store that several calls rebuild -/

/-- What can happen. -/
inductive Move (Call : Type) where
  /-- A call does something. -/
  | call (c : Call) (action : Action)
  /-- The file tree changes. -/
  | edit (tree : FileTree)
  /-- The store takes another source. -/
  | setSource (source : Source)

/-- A store with its lock and its calls, and the file tree. -/
structure World (Call : Type) where
  /-- The store. -/
  store : Store
  /-- The file tree. -/
  tree : FileTree
  /-- The call that has the lock. -/
  holder : Option Call
  /-- How far every call has come. -/
  stage : Call → Stage

namespace World

variable {Call : Type}

/-- A store that has not published anything, whose calls all wait. -/
def start (source : Source) (tree : FileTree) : World Call :=
  { store := Store.new source, tree, holder := none, stage := fun _ => .waiting }

variable [DecidableEq Call]

/-- A call has come to a stage. -/
def put (w : World Call) (c : Call) (stage : Stage) : World Call :=
  { w with stage := fun d => if d = c then stage else w.stage d }

/-- The world after an action of a call, if that is what the call does next.  The lock can be taken
only while no call has it. -/
def perform? (w : World Call) (c : Call) (action : Action) : Option (World Call) :=
  match action, w.stage c with
  | .lock, .waiting =>
    if w.holder.isNone then some ({ w with holder := some c }.put c .locked) else none
  | .readSource, .locked => some (w.put c (.configured w.store.source))
  | .readDirectory, .configured source => some (w.put c (.loaded (source.load w.tree)))
  | .swap, .loaded index =>
    some ({ w with store := w.store.swap index }.put c (.swapped index.size))
  | .count, .swapped entries => some ({ w with store := w.store.count }.put c (.counted entries))
  | .unlock, .counted entries => some ({ w with holder := none }.put c (.returned entries))
  | _, _ => none

/-- The world after a move. -/
def step? (w : World Call) : Move Call → Option (World Call)
  | .call c action => w.perform? c action
  | .edit tree => some { w with tree }
  | .setSource source => some { w with store := w.store.setSource source }

/-- The world after several moves. -/
def run? (w : World Call) (moves : List (Move Call)) : Option (World Call) := moves.foldlM step? w

/-- A call is at the stage that it has been put at. -/
@[simp] theorem stage_put_self (w : World Call) (c : Call) (stage : Stage) :
    (w.put c stage).stage c = stage := if_pos rfl

/-- The other calls stay where they are. -/
theorem stage_put_of_ne (w : World Call) {c d : Call} (stage : Stage) (h : d ≠ c) :
    (w.put c stage).stage d = w.stage d := if_neg h

/-- Where the calls are does not say who holds the lock. -/
@[simp] theorem put_holder (w : World Call) (c : Call) (stage : Stage) :
    (w.put c stage).holder = w.holder := rfl

/-- Moves behind other moves start where those end. -/
theorem run?_append (w : World Call) (moves more : List (Move Call)) :
    w.run? (moves ++ more) = (w.run? moves).bind fun v => v.run? more :=
  List.foldlM_append

/-- One more move is a step from where the others end. -/
theorem run?_concat (w : World Call) (moves : List (Move Call)) (m : Move Call) :
    w.run? (moves ++ [m]) = (w.run? moves).bind fun v => v.step? m := by
  have hone : ∀ v : World Call, v.run? [m] = v.step? m := fun v => bind_pure (v.step? m)
  rw [run?_append]
  exact bind_congr hone

end World

end SnippetServer.Snippet
