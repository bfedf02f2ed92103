import SnippetServer.Proofs.History
import SnippetServer.Snippet.Rebuilding
import Mathlib.Data.List.Induction

namespace SnippetServer.Snippet

/-!
# What rebuilds publish

A call reads the source and the directory and publishes the index all while it has the lock.  So
whatever else happens in between, the calls publish in the order in which they take the lock, and
nothing that was read earlier takes the place of what was read later.

* `World.Step`, `World.run_induction` — what a move does, and how to show something of every run;
* `World.exclusive_run` — only one call has the lock;
* `World.HasLoaded`, `World.reached_run` — what calls have read;
* `World.published_run`, `World.generation_run` — what is published, and how often;
* `World.UpToDate`, `World.upToDate_run` — when the index is that of the directory;
* `World.run?_alone` — what a call does that nothing comes between;
* `World.SerializesRebuilds`, `World.serializesRebuilds_start` — all of this for every run.
-/

variable {Call : Type} [DecidableEq Call]

/-! ### Moves -/

namespace Move

omit [DecidableEq Call]

/-- Whether a call does something. -/
def isCall : Move Call → Bool
  | .call _ _ => true
  | _ => false

/-- Whether a call puts its index in place. -/
def swaps : Move Call → Bool
  | .call _ .swap => true
  | _ => false

/-- Whether a call counts its index. -/
def counts : Move Call → Bool
  | .call _ .count => true
  | _ => false

end Move

/-- How many indexes are in place at a stage and not counted yet. -/
def Stage.uncounted : Stage → Nat
  | .swapped _ => 1
  | _ => 0

namespace World

variable {w₀ w w' : World Call} {moves : List (Move Call)} {m : Move Call} {c : Call}

/-- What a move does. -/
inductive Step (w : World Call) : Move Call → World Call → Prop where
  /-- A call takes the lock, which no call has. -/
  | lock (c : Call) (holder_eq : w.holder = none) (stage_eq : w.stage c = .waiting) :
    Step w (.call c .lock) ({ w with holder := some c }.put c .locked)
  /-- A call reads the source. -/
  | readSource (c : Call) (stage_eq : w.stage c = .locked) :
    Step w (.call c .readSource) (w.put c (.configured w.store.source))
  /-- A call reads the directory. -/
  | readDirectory (c : Call) (source : Source) (stage_eq : w.stage c = .configured source) :
    Step w (.call c .readDirectory) (w.put c (.loaded (source.load w.tree)))
  /-- A call puts its index in place. -/
  | swap (c : Call) (index : Index) (stage_eq : w.stage c = .loaded index) :
    Step w (.call c .swap) ({ w with store := w.store.swap index }.put c (.swapped index.size))
  /-- A call counts its index. -/
  | count (c : Call) (entries : Nat) (stage_eq : w.stage c = .swapped entries) :
    Step w (.call c .count) ({ w with store := w.store.count }.put c (.counted entries))
  /-- A call gives the lock back. -/
  | unlock (c : Call) (entries : Nat) (stage_eq : w.stage c = .counted entries) :
    Step w (.call c .unlock) ({ w with holder := none }.put c (.returned entries))
  /-- The file tree changes. -/
  | edit (tree : FileTree) : Step w (.edit tree) { w with tree }
  /-- The store takes another source. -/
  | setSource (source : Source) :
    Step w (.setSource source) { w with store := w.store.setSource source }

/-- What a call does at its stage is one of the six steps. -/
theorem step_of_perform? {action : Action} (h : w.perform? c action = some w') :
    w.Step (.call c action) w' := by
  -- each stage admits one action, and the first one only while the lock is free
  unfold perform? at h
  split at h
  · rename_i hstage
    obtain ⟨hholder, hw⟩ := Option.ite_none_right_eq_some.1 h
    obtain rfl := Option.some.inj hw
    exact .lock c (Option.isNone_iff_eq_none.1 hholder) hstage
  · rename_i hstage
    obtain rfl := Option.some.inj h
    exact .readSource c hstage
  · rename_i source hstage
    obtain rfl := Option.some.inj h
    exact .readDirectory c source hstage
  · rename_i index hstage
    obtain rfl := Option.some.inj h
    exact .swap c index hstage
  · rename_i entries hstage
    obtain rfl := Option.some.inj h
    exact .count c entries hstage
  · rename_i entries hstage
    obtain rfl := Option.some.inj h
    exact .unlock c entries hstage
  · cases h

/-- Every move that can be made is a step. -/
theorem step_of_step? (h : w.step? m = some w') : w.Step m w' := by
  cases m with
  | call c action => exact step_of_perform? h
  | edit tree =>
    obtain rfl := Option.some.inj h
    exact .edit tree
  | setSource source =>
    obtain rfl := Option.some.inj h
    exact .setSource source

/-- A call stays where it is while it does nothing. -/
theorem Step.stage_of_ne (hstep : w.Step m w') (hm : ∀ action, m ≠ .call c action) :
    w'.stage c = w.stage c := by
  have hne {d : Call} {action : Action} (h : m = .call d action) : c ≠ d := by
    rintro rfl
    exact hm action h
  cases hstep with
  | edit tree => rfl
  | setSource source => rfl
  | _ => exact stage_put_of_ne _ _ (hne rfl)

/-- What is true at the start and stays true with every step is true after every run. -/
theorem run_induction {P : List (Move Call) → World Call → Prop} (nil : P [] w₀)
    (step : ∀ moves w m w', w₀.run? moves = some w → P moves w → w.Step m w' →
      P (moves ++ [m]) w')
    (h : w₀.run? moves = some w) : P moves w := by
  -- a run is a fold from the left, so its last move is taken off
  induction moves using List.reverseRecOn generalizing w with
  | nil =>
    obtain rfl := Option.some.inj h
    exact nil
  | append_singleton moves m ih =>
    rw [run?_concat] at h
    obtain ⟨v, hv, hstep⟩ := Option.bind_eq_some_iff.1 h
    exact step moves v m w hv (ih hv) (step_of_step? hstep)

/-! ### The lock -/

/-- The call that has the lock is the only one that has come to a stage with the lock. -/
def Exclusive (w : World Call) : Prop := ∀ c, (w.stage c).holds = true ↔ w.holder = some c

omit [DecidableEq Call] in
/-- A call that has come to a stage with the lock has it. -/
theorem Exclusive.holder_eq (h : w.Exclusive) {stage : Stage} (hstage : w.stage c = stage)
    (hholds : stage.holds = true) : w.holder = some c := (h c).1 (hstage ▸ hholds)

omit [DecidableEq Call] in
/-- While the lock is free or a call has it, no other call has it. -/
theorem Exclusive.others (h : w.Exclusive) (hholder : w.holder = none ∨ w.holder = some c)
    (d : Call) (hd : d ≠ c) : (w.stage d).holds = false := by
  rw [Bool.eq_false_iff]
  intro hholds
  have hd' : w.holder = some d := (h d).1 hholds
  rcases hholder with hfree | hc
  · rw [hfree] at hd'
    cases hd'
  · exact hd (Option.some.inj (hd'.symm.trans hc))

/-- A call may come to any stage if no other call has the lock, and it has the lock itself if it has
to. -/
theorem exclusive_put {stage : Stage} (hothers : ∀ d, d ≠ c → (w.stage d).holds = false)
    (hholder : w.holder = if stage.holds then some c else none) : (w.put c stage).Exclusive := by
  intro d
  rw [put_holder, hholder]
  -- only the call itself has come to another stage
  by_cases hd : d = c
  · subst hd
    rw [stage_put_self]
    cases stage.holds <;> simp
  · rw [stage_put_of_ne w stage hd, hothers d hd]
    cases stage.holds <;> simp [Ne.symm hd]

/-- **Step.**  One call at most has the lock. -/
theorem Exclusive.step (h : w.Exclusive) (hstep : w.Step m w') : w'.Exclusive := by
  cases hstep with
  | lock c holder_eq stage_eq => exact exclusive_put (h.others (Or.inl holder_eq)) rfl
  | readSource c stage_eq
  | readDirectory c source stage_eq
  | swap c index stage_eq
  | count c entries stage_eq =>
    have hholder : w.holder = some c := h.holder_eq stage_eq rfl
    exact exclusive_put (h.others (Or.inr hholder)) hholder
  | unlock c entries stage_eq =>
    have hholder : w.holder = some c := h.holder_eq stage_eq rfl
    exact exclusive_put (h.others (Or.inr hholder)) rfl
  | edit tree => exact h
  | setSource source => exact h

/-- **Run.**  One call at most has the lock. -/
theorem exclusive_run (hstart : w₀.Exclusive) (h : w₀.run? moves = some w) : w.Exclusive :=
  run_induction (P := fun _ w => w.Exclusive) hstart
    (fun _ _ _ _ _ hexclusive hstep => hexclusive.step hstep) h

omit [DecidableEq Call] in
/-- At the start no call has come to any stage. -/
theorem exclusive_start (source : Source) (tree : FileTree) :
    (start source tree : World Call).Exclusive := fun _ => ⟨nofun, nofun⟩

/-! ### What calls have read -/

/-- A call that had the lock has read this source. -/
def HasConfigured (w₀ : World Call) (c : Call) (source : Source) : List (Move Call) → Prop :=
  Since (fun before m => m = .call c .readSource ∧
    ∃ w, w₀.run? before = some w ∧ w.holder = some c ∧ w.store.source = source) fun _ => True

/-- A call that had the lock has read a source and then the directory, and this is its index. -/
def HasLoaded (w₀ : World Call) (c : Call) (index : Index) : List (Move Call) → Prop :=
  Since (fun before m => m = .call c .readDirectory ∧
    ∃ w source, w₀.run? before = some w ∧ w.holder = some c ∧ HasConfigured w₀ c source before ∧
      source.load w.tree = index) fun _ => True

/-- What a call has read that has come to a stage. -/
def Reached (w₀ : World Call) (moves : List (Move Call)) (c : Call) : Stage → Prop
  | .waiting => True
  | .locked => True
  | .configured source => HasConfigured w₀ c source moves
  | .loaded index => HasLoaded w₀ c index moves
  | .swapped entries => ∃ index, HasLoaded w₀ c index moves ∧ index.size = entries
  | .counted entries => ∃ index, HasLoaded w₀ c index moves ∧ index.size = entries
  | .returned entries => ∃ index, HasLoaded w₀ c index moves ∧ index.size = entries

/-- What has been read stays so. -/
theorem Reached.concat {stage : Stage} (h : Reached w₀ moves c stage) (m : Move Call) :
    Reached w₀ (moves ++ [m]) c stage := by
  -- nothing is asked of what comes after, so one more move changes nothing
  have hlater {p : List (Move Call) → Move Call → Prop} (hp : Since p (fun _ => True) moves) :
      Since p (fun _ => True) (moves ++ [m]) := since_concat.2 (Or.inr ⟨trivial, hp⟩)
  cases stage with
  | waiting => trivial
  | locked => trivial
  | configured source => exact hlater h
  | loaded index => exact hlater h
  | swapped entries => exact h.imp fun _ => And.imp_left hlater
  | counted entries => exact h.imp fun _ => And.imp_left hlater
  | returned entries => exact h.imp fun _ => And.imp_left hlater

/-- **Step.**  A call knows what it has read. -/
theorem reached_step (hrun : w₀.run? moves = some w) (hexclusive : w.Exclusive)
    (h : Reached w₀ moves c (w.stage c)) (hstep : w.Step m w') :
    Reached w₀ (moves ++ [m]) c (w'.stage c) := by
  by_cases hc : ∃ action, m = .call c action
  · obtain ⟨action, rfl⟩ := hc
    cases hstep with
    | lock _ holder_eq stage_eq =>
      rw [stage_put_self]
      trivial
    | readSource _ stage_eq =>
      rw [stage_put_self]
      exact since_concat.2 (Or.inl ⟨rfl, w, hrun, hexclusive.holder_eq stage_eq rfl, rfl⟩)
    | readDirectory _ source stage_eq =>
      have hsource : Reached w₀ moves c (.configured source) := stage_eq ▸ h
      rw [stage_put_self]
      exact since_concat.2
        (Or.inl ⟨rfl, w, source, hrun, hexclusive.holder_eq stage_eq rfl, hsource, rfl⟩)
    | swap _ index stage_eq =>
      have hindex : Reached w₀ moves c (.loaded index) := stage_eq ▸ h
      rw [stage_put_self]
      exact ⟨index, hindex.concat _, rfl⟩
    | count _ entries stage_eq =>
      have hentries : Reached w₀ moves c (.swapped entries) := stage_eq ▸ h
      rw [stage_put_self]
      exact hentries.concat _
    | unlock _ entries stage_eq =>
      have hentries : Reached w₀ moves c (.counted entries) := stage_eq ▸ h
      rw [stage_put_self]
      exact hentries.concat _
  · rw [hstep.stage_of_ne fun action hm => hc ⟨action, hm⟩]
    exact h.concat m

/-- **Run.**  A call knows what it has read. -/
theorem reached_run {source : Source} {tree : FileTree}
    (h : (start source tree).run? moves = some w) (c : Call) :
    Reached (start source tree) moves c (w.stage c) := by
  refine run_induction (P := fun moves w => Reached _ moves c (w.stage c)) ?_ ?_ h
  · exact trivial
  · intro moves w m w' hrun hreached hstep
    exact reached_step hrun (exclusive_run (exclusive_start source tree) hrun) hreached hstep

/-! ### What is published -/

/-- A call has put its index in place, and no call has done so since. -/
def PublishedLast (w₀ : World Call) (c : Call) (index : Index) : List (Move Call) → Prop :=
  Since (fun before m => m = .call c .swap ∧ HasLoaded w₀ c index before) fun m => m.swaps = false

/-- What a store serves: the empty index as long as no index has been put in place, and then the one
that some call has read as a whole. -/
def Serves (w₀ : World Call) (moves : List (Move Call)) (index : Index) : Prop :=
  ((∀ m ∈ moves, m.swaps = false) ∧ index = Index.empty) ∨ ∃ c, PublishedLast w₀ c index moves

/-- Only putting an index in place changes what is served. -/
theorem Step.index_eq (hstep : w.Step m w') (hm : m.swaps = false) :
    w'.store.index = w.store.index := by
  cases hstep with
  | swap c index stage_eq => cases hm
  | _ => rfl

/-- What is served stays so until another index is put in place. -/
theorem Serves.concat {index : Index} (h : Serves w₀ moves index) (hm : m.swaps = false) :
    Serves w₀ (moves ++ [m]) index := by
  rcases h with ⟨hnone, hempty⟩ | ⟨c, hc⟩
  · refine Or.inl ⟨?_, hempty⟩
    intro k hk
    rcases List.mem_append.1 hk with hk | hk
    · exact hnone k hk
    · exact List.mem_singleton.1 hk ▸ hm
  · exact Or.inr ⟨c, since_concat.2 (Or.inr ⟨hm, hc⟩)⟩

/-- **Run.**  A store serves nothing, or the index that a call has read and put in place last. -/
theorem published_run {source : Source} {tree : FileTree}
    (h : (start source tree).run? moves = some w) :
    Serves (start source tree) moves w.store.index := by
  refine run_induction (P := fun moves w => Serves _ moves w.store.index) ?_ ?_ h
  · exact Or.inl ⟨nofun, rfl⟩
  · intro moves w m w' hrun hserves hstep
    -- a move that is no swap leaves what is served, and a swap puts the index of its call in place
    cases hm : m.swaps with
    | false =>
      rw [hstep.index_eq hm]
      exact hserves.concat hm
    | true =>
      cases hstep with
      | swap c index stage_eq =>
        have hloaded : Reached _ moves c (.loaded index) := stage_eq ▸ reached_run hrun c
        exact Or.inr ⟨c, since_concat.2 (Or.inl ⟨rfl, hloaded⟩)⟩
      | _ => cases hm

/-- **Step.**  Only counting an index counts. -/
theorem Step.generation_eq (hstep : w.Step m w') :
    w'.store.generation = w.store.generation + if m.counts then 1 else 0 := by
  cases hstep <;> rfl

/-- **Run.**  The generation is the number of indexes that have been counted. -/
theorem generation_run {source : Source} {tree : FileTree}
    (h : (start source tree : World Call).run? moves = some w) :
    w.store.generation = moves.countP Move.counts := by
  refine run_induction (P := fun moves w => w.store.generation = moves.countP Move.counts) rfl ?_ h
  intro moves w m w' _ hgeneration hstep
  rw [hstep.generation_eq, hgeneration, List.countP_append, List.countP_singleton]

/-- How many indexes are in place and not counted yet. -/
def uncounted (w : World Call) : Nat :=
  match w.holder with
  | some c => (w.stage c).uncounted
  | none => 0

omit [DecidableEq Call] in
/-- The stage of the call that has the lock tells how many indexes are not counted. -/
theorem Exclusive.uncounted_eq (h : w.Exclusive) {stage : Stage} (hstage : w.stage c = stage)
    (hholds : stage.holds = true) : w.uncounted = stage.uncounted := by
  rw [uncounted, h.holder_eq hstage hholds, ← hstage]

/-- **Step.**  An index is put in place before it is counted. -/
theorem Step.swaps_eq (hstep : w.Step m w') (hexclusive : w.Exclusive) :
    w'.store.generation + w'.uncounted =
      w.store.generation + w.uncounted + if m.swaps then 1 else 0 := by
  -- the stage of the call that acts tells what is uncounted before and after
  have hexclusive' : w'.Exclusive := hexclusive.step hstep
  cases hstep with
  | lock c holder_eq stage_eq =>
    have hnone : w.uncounted = 0 := by rw [uncounted, holder_eq]
    rw [hnone, hexclusive'.uncounted_eq (stage_put_self ..) rfl]
    rfl
  | readSource c stage_eq
  | readDirectory c source stage_eq
  | swap c index stage_eq
  | count c entries stage_eq =>
    rw [hexclusive.uncounted_eq stage_eq rfl, hexclusive'.uncounted_eq (stage_put_self ..) rfl]
    rfl
  | unlock c entries stage_eq =>
    rw [hexclusive.uncounted_eq stage_eq rfl]
    rfl
  | edit tree => rfl
  | setSource source => rfl

/-- **Run.**  The generation is the number of indexes that have been put in place, of which the last
one may not be counted yet. -/
theorem swaps_run {source : Source} {tree : FileTree}
    (h : (start source tree : World Call).run? moves = some w) :
    w.store.generation + w.uncounted = moves.countP Move.swaps := by
  refine run_induction
    (P := fun moves w => w.store.generation + w.uncounted = moves.countP Move.swaps) rfl ?_ h
  intro moves w m w' hrun hswaps hstep
  have hexclusive := exclusive_run (exclusive_start source tree) hrun
  rw [hstep.swaps_eq hexclusive, hswaps, List.countP_append, List.countP_singleton]

/-! ### When the index is that of the directory -/

/-- A call has taken the lock, and since then neither has the file tree changed nor has the store
taken another source. -/
def LockedSinceChange : List (Move Call) → Prop :=
  Since (fun _ m => ∃ c, m = .call c .lock) fun m => m.isCall = true

/-- What a call has read by a stage is what it would read now. -/
def Agrees (w : World Call) : Stage → Prop
  | .waiting => True
  | .locked => True
  | .configured source => source = w.store.source
  | .loaded index => index = w.store.source.load w.tree
  | _ => w.store.index = w.store.source.load w.tree

/-- The index is that of the directory, or will be when the lock is given back. -/
structure UpToDate (w : World Call) : Prop where
  /-- While no call has the lock, the index is that of the directory. -/
  free : w.holder = none → w.store.index = w.store.source.load w.tree
  /-- While a call has the lock, what it has read is what it would read now. -/
  held : ∀ c, w.holder = some c → w.Agrees (w.stage c)

/-- A call that has the lock comes to a stage by which it has read what it would read now. -/
theorem upToDate_put {stage : Stage} (hholder : w.holder = some c) (h : w.Agrees stage) :
    (w.put c stage).UpToDate where
  free := by
    intro hfree
    rw [put_holder, hholder] at hfree
    cases hfree
  held := by
    intro d hd
    rw [put_holder, hholder] at hd
    obtain rfl := Option.some.inj hd
    rw [stage_put_self]
    exact h

/-- A call that takes the lock has not read anything yet. -/
theorem Step.upToDate_lock (hstep : w.Step (.call c .lock) w') : w'.UpToDate := by
  cases hstep with
  | lock holder_eq stage_eq => exact upToDate_put rfl trivial

/-- **Step.**  What calls read and publish is that of the directory, as long as nothing changes. -/
theorem UpToDate.step (h : w.UpToDate) (hexclusive : w.Exclusive) (hm : m.isCall = true)
    (hstep : w.Step m w') : w'.UpToDate := by
  -- the call that does something has the lock, or takes it
  have hagrees {c : Call} {stage : Stage} (hstage : w.stage c = stage)
      (hholds : stage.holds = true) : w.holder = some c ∧ w.Agrees stage := by
    have hholder : w.holder = some c := hexclusive.holder_eq hstage hholds
    exact ⟨hholder, hstage ▸ h.held c hholder⟩
  cases hstep with
  | lock c holder_eq stage_eq => exact Step.upToDate_lock (.lock c holder_eq stage_eq)
  | readSource c stage_eq =>
    obtain ⟨hholder, -⟩ := hagrees stage_eq rfl
    exact upToDate_put hholder rfl
  | readDirectory c source stage_eq =>
    obtain ⟨hholder, hsource⟩ := hagrees stage_eq rfl
    exact upToDate_put hholder (congrArg (Source.load · w.tree) hsource)
  | swap c index stage_eq =>
    obtain ⟨hholder, hindex⟩ := hagrees stage_eq rfl
    exact upToDate_put hholder hindex
  | count c entries stage_eq =>
    obtain ⟨hholder, hindex⟩ := hagrees stage_eq rfl
    exact upToDate_put hholder hindex
  | unlock c entries stage_eq =>
    -- the index that is left is that of the call
    obtain ⟨-, hindex⟩ := hagrees stage_eq rfl
    exact ⟨fun _ => hindex, nofun⟩
  | edit tree => cases hm
  | setSource source => cases hm

/-- **Run.**  Once a call has taken the lock, the index is that of the directory or will be when the
lock is given back, as long as nothing changes. -/
theorem upToDate_run {source : Source} {tree : FileTree}
    (h : (start source tree : World Call).run? moves = some w) (hlocked : LockedSinceChange moves) :
    w.UpToDate := by
  refine run_induction (P := fun moves w => LockedSinceChange moves → w.UpToDate) ?_ ?_ h hlocked
  · -- at the start no call has taken the lock
    intro hnil
    exact absurd hnil not_since_nil
  · intro moves w m w' hrun hupToDate hstep hsince
    rcases since_concat.1 hsince with ⟨c, rfl⟩ | ⟨hm, hbefore⟩
    · exact hstep.upToDate_lock
    · have hexclusive := exclusive_run (exclusive_start source tree) hrun
      exact (hupToDate hbefore).step hexclusive hm hstep

/-! ### Every run -/

/-- A call between whose actions nothing else happens rebuilds the store. -/
theorem run?_alone (hfree : w.holder = none) (hwaiting : w.stage c = .waiting) :
    w.run? (Action.all.map (.call c)) =
      some ({ w with store := w.store.rebuild w.tree }.put c
        (.returned (w.store.source.load w.tree).size)) := by
  obtain ⟨store, tree, holder, stage⟩ := w
  obtain rfl : holder = none := hfree
  have hstage : stage c = .waiting := hwaiting
  -- one action after the other
  simp only [run?, Action.all, List.map_cons, List.map_nil, List.foldlM_cons, step?, perform?,
    hstage, put, ↓reduceIte, Option.isNone_none, List.foldlM_nil, Option.pure_def,
    Option.bind_eq_bind, Option.bind_fun_some, Option.bind_some, Option.some.injEq, mk.injEq,
    true_and]
  refine ⟨Store.count_swap _ _, ?_⟩
  funext d
  by_cases hd : d = c
  · rw [if_pos hd, if_pos hd]
  · simp only [if_neg hd]

/-- What is published along every run of a world, whichever calls take part and in whatever order
they act. -/
structure SerializesRebuilds (w₀ : World Call) : Prop where
  /-- One call at most has the lock. -/
  exclusive : ∀ moves w, w₀.run? moves = some w → w.Exclusive
  /-- The index is empty at first, and then it is always one that a call has read as a whole. -/
  serves : ∀ moves w, w₀.run? moves = some w → Serves w₀ moves w.store.index
  /-- The generation is the number of indexes that have been published. -/
  generation_eq : ∀ moves w, w₀.run? moves = some w →
    w.store.generation = moves.countP Move.counts
  /-- An index is counted before another one is put in place. -/
  swaps_eq : ∀ moves w, w₀.run? moves = some w →
    w.store.generation + w.uncounted = moves.countP Move.swaps
  /-- A call that finds the lock free can rebuild the store. -/
  rebuilds : ∀ moves w c, w₀.run? moves = some w → w.holder = none → w.stage c = .waiting →
    ∃ w', w₀.run? (moves ++ Action.all.map (.call c)) = some w' ∧
      w'.store = w.store.rebuild w.tree ∧ w'.holder = none
  /-- A call returns the number of entries of the index that it has read. -/
  returned_eq : ∀ moves w c entries, w₀.run? moves = some w → w.stage c = .returned entries →
    ∃ index, HasLoaded w₀ c index moves ∧ index.size = entries
  /-- Whenever no call has the lock, and one has taken it since the directory and the source have
  changed last, the index is that of the directory. -/
  index_eq : ∀ moves w, w₀.run? moves = some w → w.holder = none → LockedSinceChange moves →
    w.store.index = w.store.source.load w.tree

/-- **Rebuilds.**  However calls that rebuild a store come between each other, and whatever changes
meanwhile, what is read earlier is published earlier. -/
theorem serializesRebuilds_start (source : Source) (tree : FileTree) :
    (start source tree : World Call).SerializesRebuilds where
  exclusive := fun _ _ h => exclusive_run (exclusive_start source tree) h
  serves := fun _ _ h => published_run h
  generation_eq := fun _ _ h => generation_run h
  swaps_eq := fun _ _ h => swaps_run h
  rebuilds := by
    intro moves w c h hfree hwaiting
    have hrun := run?_append (start source tree) moves (Action.all.map (.call c))
    rw [h, Option.bind_some, run?_alone hfree hwaiting] at hrun
    exact ⟨_, hrun, rfl, hfree⟩
  returned_eq := by
    intro moves w c entries h hstage
    have hreached := reached_run h c
    rwa [hstage] at hreached
  index_eq := fun _ _ h hfree hlocked => (upToDate_run h hlocked).free hfree

end World

namespace LateEdit

/-- Snippets are in the root. -/
def source : Source := .ofDirectory (Path.ofText ['/'])

/-- A tree without files. -/
def bare : FileTree where
  home := []
  nodes := []

/-- A tree with a file that holds one snippet. -/
def filled : FileTree where
  home := []
  nodes := [([Text.encode "a.snippet".toList], .file (Text.encode "#t=A\n#g=a\nx".toList) none)]

/-- One call reads the directory before the file is written and publishes afterwards.  Then another
call rebuilds the store. -/
def moves : List (Move Bool) :=
  [.call false .lock, .call false .readSource, .call false .readDirectory, .edit filled,
    .call false .swap, .call false .count, .call false .unlock] ++
    Action.all.map (.call true)

end LateEdit

open LateEdit in
/-- The store ends up with the index of the second call. -/
theorem serializesRebuilds_start_late_edit :
    ∃ w, (World.start source bare).run? moves = some w ∧
      w.store.index = source.load filled ∧ w.store.generation = 2 := by
  have hserializes : (World.start source bare : World Bool).SerializesRebuilds :=
    World.serializesRebuilds_start source bare
  have hview : ((World.start source bare).run? moves).map
      (fun w => (w.holder, w.store.source, w.tree)) = some (none, source, filled) := by rfl
  obtain ⟨w, hw, hview⟩ := Option.map_eq_some_iff.1 hview
  simp only [Prod.mk.injEq] at hview
  obtain ⟨hfree, hsource, htree⟩ := hview
  have hlocked : World.LockedSinceChange moves :=
    ⟨moves.take 7, .call true .lock, moves.drop 8, rfl, ⟨true, rfl⟩, by decide⟩
  refine ⟨w, hw, ?_, ?_⟩
  · rw [hserializes.index_eq moves w hw hfree hlocked, hsource, htree]
  · rw [hserializes.generation_eq moves w hw]
    rfl

end SnippetServer.Snippet
