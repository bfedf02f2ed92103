import SnippetServer.Proofs.Settings.Written
import SnippetServer.Proofs.Text.Blank
import SnippetServer.Settings.Basic
import Mathlib.Data.List.Induction

namespace SnippetServer.Settings

open Snippet

/-!
# Which settings are in force

What the command line gives stays.  Of everything else the value that was supplied last counts, for
each setting on its own; options that do not decode count for none of them.

* `Supply` — what a client or a program can supply; `Supply.directory?` and so on are the values
  that it holds;
* `Settings.take`, `Settings.takeAll` — the settings after a supply, and after several;
* `lastGiven given supplies` — the value of one kind that was supplied last;
* `take_eq` — everything that a supply changes;
* `get_takeAll` — a setting that takes the values of one kind follows the last of them;
* `FollowsPrecedence`, `followsPrecedence_takeAll` — the settings after any supplies.
-/

/-! ### Supplies -/

/-- What can be supplied to settings. -/
inductive Supply where
  /-- A client initializes the server with these options. -/
  | options (payload : Json)
  /-- The compiler is set to this path. -/
  | compiler (path : Text)
  /-- The configuration of a client has changed to this one. -/
  | configuration (payload : Json)

namespace Supply

/-- The options of a supply, if they decode. -/
def options? : Supply → Option Options
  | .options payload => Options.decode? payload
  | _ => none

/-- The snippet directory in a supply. -/
def directory? (u : Supply) : Option Text := u.options?.bind Options.directory

/-- The load order in a supply. -/
def loadOrder? (u : Supply) : Option (List Text) := u.options?.bind Options.loadOrder

/-- The extension in a supply. -/
def extension? (u : Supply) : Option Text := u.options?.bind Options.extension

/-- The path of the compiler in a supply, be it blank or not. -/
def compiler? : Supply → Option Text
  | .options payload => (Options.decode? payload).bind Options.compiler
  | .compiler path => some path
  | .configuration payload => compilerSetting? payload

end Supply

/-- The settings after a supply. -/
def take (s : Settings) : Supply → Settings
  | .options payload =>
    match Options.decode? payload with
    | some o => s.applyOptions o
    | none => s
  | .compiler path => s.setCompiler path
  | .configuration payload =>
    match compilerSetting? payload with
    | some path => s.setCompiler path
    | none => s

/-- The settings after several supplies, one after the other. -/
def takeAll (s : Settings) (supplies : List Supply) : Settings := supplies.foldl take s

/-- Supplies behind other supplies start with the settings after those. -/
theorem takeAll_append (s : Settings) (supplies more : List Supply) :
    s.takeAll (supplies ++ more) = (s.takeAll supplies).takeAll more := List.foldl_append

/-- One more supply is taken last. -/
theorem takeAll_concat (s : Settings) (supplies : List Supply) (u : Supply) :
    s.takeAll (supplies ++ [u]) = (s.takeAll supplies).take u := s.takeAll_append supplies [u]

/-- A supply that no settings take could as well have been left out. -/
theorem takeAll_append_cons {u : Supply} (h : ∀ s : Settings, s.take u = s) (s : Settings)
    (before after : List Supply) :
    s.takeAll (before ++ u :: after) = s.takeAll (before ++ after) := by
  rw [takeAll_append, takeAll_append, takeAll, List.foldl_cons, h]
  rfl

/-! ### What a supply changes -/

/-- The compiler that a client asks for: the path without the blanks around it, or none if it is
blank. -/
def compilerOf (path : Text) : Option Path :=
  if Text.isBlankText path then none else some (Path.ofText (Text.trim path))

/-- Where snippets come from after a supply. -/
def sourceAfter (s : Settings) (u : Supply) : Source where
  directory :=
    if s.pinsDirectory then s.source.directory
    else u.directory?.elim s.source.directory Path.ofText
  extension := u.extension?.getD s.source.extension
  loadOrder := u.loadOrder?.getD s.source.loadOrder

section

variable (s : Settings) (u : Supply)

/-- Setting the compiler changes nothing else. -/
theorem setCompiler_eq (path : Text) :
    s.setCompiler path =
      { s with compiler := if s.pinsCompiler then s.compiler else compilerOf path } := by
  -- field by field, so that only the pin is left to decide
  obtain ⟨source, compiler, pinsDirectory, pinsCompiler⟩ := s
  rw [setCompiler, compilerOf, ← Text.isEmpty_trim]
  cases pinsCompiler <;> rfl

/-- Setting the directory changes nothing else. -/
theorem setDirectory_eq (path : Text) :
    s.setDirectory path =
      { s with source.directory :=
          if s.pinsDirectory then s.source.directory else Path.ofText path } := by
  rw [setDirectory]
  split <;> rfl

/-- Whatever is supplied, every setting takes its own value. -/
theorem take_eq : s.take u =
    { s with
      source := s.sourceAfter u
      compiler :=
        if s.pinsCompiler then s.compiler else u.compiler?.elim s.compiler compilerOf } := by
  cases u with
  | options payload =>
    rw [take, sourceAfter, Supply.directory?, Supply.extension?, Supply.loadOrder?,
      Supply.compiler?, Supply.options?]
    cases Options.decode? payload with
    | none => simp
    | some o =>
      -- options are taken one after the other, each of them if it is there
      obtain ⟨directory, compiler, loadOrder, extension⟩ := o
      cases directory <;> cases compiler <;> cases loadOrder <;> cases extension <;>
        simp [applyOptions, setDirectory_eq, setCompiler_eq]
  | compiler path => simp [take, setCompiler_eq, sourceAfter, Supply.directory?,
      Supply.extension?, Supply.loadOrder?, Supply.compiler?, Supply.options?]
  | configuration payload =>
    rw [take, Supply.compiler?]
    cases compilerSetting? payload <;>
      simp [setCompiler_eq, sourceAfter, Supply.directory?, Supply.extension?, Supply.loadOrder?,
        Supply.options?]

end

/-! ### What was supplied last -/

section

variable {α β : Type}

/-- The value of one kind that was supplied last. -/
def lastGiven (given : Supply → Option α) (supplies : List Supply) : Option α :=
  (supplies.filterMap given).getLast?

/-- The supply at the end comes first, if it holds a value of this kind. -/
theorem lastGiven_concat (given : Supply → Option α) (supplies : List Supply) (u : Supply) :
    lastGiven given (supplies ++ [u]) = (given u).or (lastGiven given supplies) := by
  rw [lastGiven, List.filterMap_append, List.getLast?_append, lastGiven]
  -- a supply without such a value is left out
  cases h : given u <;> simp [h]

/-- **Run.**  What every supply keeps is kept by all of them. -/
theorem keeps_takeAll {P : Settings → Prop} (step : ∀ s u, P s → P (take s u)) {s : Settings}
    (hs : P s) (supplies : List Supply) : P (s.takeAll supplies) := by
  induction supplies using List.reverseRecOn with
  | nil => exact hs
  | append_singleton supplies u ih =>
    rw [takeAll_concat]
    exact step _ u ih

/-- **Run.**  A setting that takes every value of one kind follows the last of them, and stays as
long as there is none. -/
theorem get_takeAll (given : Supply → Option α) (get : Settings → β) (ofValue : α → β)
    {P : Settings → Prop} (keeps : ∀ s u, P s → P (take s u))
    (step : ∀ s u, P s → get (take s u) = (given u).elim (get s) ofValue)
    {s : Settings} (hs : P s) (supplies : List Supply) :
    get (s.takeAll supplies) = (lastGiven given supplies).elim (get s) ofValue := by
  -- from the end, since the last supply decides
  induction supplies using List.reverseRecOn with
  | nil => rfl
  | append_singleton supplies u ih =>
    rw [takeAll_concat, lastGiven_concat, step _ u (keeps_takeAll keeps hs supplies), ih]
    cases given u <;> rfl

end

/-! ### The settings in force -/

/-- The settings after supplies, for a server in the directory `home` whose command line gives these
values. -/
structure FollowsPrecedence (home : Path) (directory compiler : Option Path)
    (supplies : List Supply) (s : Settings) : Prop where
  /-- A directory of the command line stays. -/
  directory_pinned : ∀ path, directory = some path → s.source.directory = path
  /-- Without one it is the directory that was supplied last, or the one next to the server. -/
  directory_last : directory = none → s.source.directory =
    match lastGiven Supply.directory? supplies with
    | some path => Path.ofText path
    | none => home.join defaultDirectoryName
  /-- A compiler of the command line stays, be its path empty or not. -/
  compiler_pinned : ∀ path, compiler = some path → s.compiler = some path
  /-- Without one it is the compiler that was supplied last; a blank path stands for none. -/
  compiler_last : compiler = none → s.compiler =
    match lastGiven Supply.compiler? supplies with
    | some path =>
      if Text.isBlankText path then none else some (Path.ofText (Text.trim path))
    | none => none
  /-- A compiler that was supplied has a path, with no blanks around it. -/
  compiler_trimmed : compiler = none → ∀ path, s.compiler = some path →
    ∃ text, path = Path.ofText text ∧ text ≠ [] ∧ Text.IsTrimmed text
  /-- The extension is the one that was supplied last. -/
  extension_last : s.source.extension =
    (lastGiven Supply.extension? supplies).getD defaultExtension
  /-- The load order is the one that was supplied last. -/
  loadOrder_last : s.source.loadOrder =
    (lastGiven Supply.loadOrder? supplies).getD defaultLoadOrder

/-- A compiler that is asked for has a path, with no blanks around it. -/
theorem compilerOf_eq_some {path : Text} {p : Path} (h : compilerOf path = some p) :
    ∃ text, p = Path.ofText text ∧ text ≠ [] ∧ Text.IsTrimmed text := by
  rw [compilerOf, ← Text.isEmpty_trim] at h
  split at h
  · cases h
  · rename_i hne
    exact ⟨_, (Option.some.inj h).symm, by simpa using hne, Text.isTrimmed_trim path⟩

section

variable {s : Settings} (supplies : List Supply)

/-- A pinned directory stays, and it stays pinned. -/
theorem directory_takeAll_of_pinned (h : s.pinsDirectory = true) :
    (s.takeAll supplies).source.directory = s.source.directory := by
  -- that it is pinned has to be kept along with it
  refine (keeps_takeAll (P := fun t => t.pinsDirectory = true ∧
    t.source.directory = s.source.directory) ?_ ⟨h, rfl⟩ supplies).2
  rintro t u ⟨ht, hd⟩
  rw [take_eq, sourceAfter, ht]
  exact ⟨rfl, hd⟩

/-- Without a pin the directory is the one that was supplied last. -/
theorem directory_takeAll (h : s.pinsDirectory = false) :
    (s.takeAll supplies).source.directory =
      (lastGiven Supply.directory? supplies).elim s.source.directory Path.ofText := by
  refine get_takeAll Supply.directory? (fun t => t.source.directory) Path.ofText
    (P := fun t => t.pinsDirectory = false) ?_ ?_ h supplies
  · intro t u ht
    rw [take_eq]
    exact ht
  · intro t u ht
    rw [take_eq, sourceAfter, ht]
    rfl

/-- A pinned compiler stays, and it stays pinned. -/
theorem compiler_takeAll_of_pinned (h : s.pinsCompiler = true) :
    (s.takeAll supplies).compiler = s.compiler := by
  refine (keeps_takeAll (P := fun t => t.pinsCompiler = true ∧ t.compiler = s.compiler) ?_
    ⟨h, rfl⟩ supplies).2
  rintro t u ⟨ht, hc⟩
  rw [take_eq, ht]
  exact ⟨rfl, hc⟩

/-- Without a pin the compiler is the one that was supplied last. -/
theorem compiler_takeAll (h : s.pinsCompiler = false) :
    (s.takeAll supplies).compiler =
      (lastGiven Supply.compiler? supplies).elim s.compiler compilerOf := by
  refine get_takeAll Supply.compiler? Settings.compiler compilerOf
    (P := fun t => t.pinsCompiler = false) ?_ ?_ h supplies
  · intro t u ht
    rw [take_eq]
    exact ht
  · intro t u ht
    rw [take_eq, ht]
    rfl

/-- What the command line cannot give follows the clients alone. -/
theorem get_takeAll_of_getD {α : Type} (given : Supply → Option α) (get : Settings → α)
    (step : ∀ t u, get (take t u) = (given u).getD (get t)) :
    get (s.takeAll supplies) = (lastGiven given supplies).getD (get s) := by
  have h := get_takeAll given get id (P := fun _ => True) (fun _ _ _ => trivial) ?_ (s := s) trivial
    supplies
  · rw [h]
    cases lastGiven given supplies <;> rfl
  · intro t u _
    rw [step]
    cases given u <;> rfl

/-- The extension is the one that was supplied last. -/
theorem extension_takeAll : (s.takeAll supplies).source.extension =
    (lastGiven Supply.extension? supplies).getD s.source.extension :=
  get_takeAll_of_getD supplies Supply.extension? (fun t => t.source.extension) fun t u => by
    rw [take_eq]
    rfl

/-- The load order is the one that was supplied last. -/
theorem loadOrder_takeAll : (s.takeAll supplies).source.loadOrder =
    (lastGiven Supply.loadOrder? supplies).getD s.source.loadOrder :=
  get_takeAll_of_getD supplies Supply.loadOrder? (fun t => t.source.loadOrder) fun t u => by
    rw [take_eq]
    rfl

end

/-- Whatever is supplied, the settings keep to the order of precedence. -/
theorem followsPrecedence_takeAll (home : Path) (directory compiler : Option Path)
    (supplies : List Supply) :
    FollowsPrecedence home directory compiler supplies
      ((ofCommandLine home directory compiler).takeAll supplies) where
  directory_pinned := by
    rintro path rfl
    exact directory_takeAll_of_pinned supplies rfl
  directory_last := by
    rintro rfl
    rw [directory_takeAll supplies rfl]
    cases lastGiven Supply.directory? supplies <;> rfl
  compiler_pinned := by
    rintro path rfl
    exact compiler_takeAll_of_pinned supplies rfl
  compiler_last := by
    rintro rfl
    rw [compiler_takeAll supplies rfl]
    cases lastGiven Supply.compiler? supplies <;> rfl
  compiler_trimmed := by
    rintro rfl path h
    rw [compiler_takeAll supplies rfl] at h
    cases hlast : lastGiven Supply.compiler? supplies with
    | none =>
      rw [hlast] at h
      cases h
    | some text =>
      rw [hlast] at h
      exact compilerOf_eq_some h
  extension_last := extension_takeAll supplies
  loadOrder_last := loadOrder_takeAll supplies

/-- What is not written as options could as well not have been sent, whatever some of it holds. -/
theorem takeAll_of_not_written {payload : Json} (h : ∀ o, ¬ Options.Written payload o)
    (s : Settings) (before after : List Supply) :
    s.takeAll (before ++ .options payload :: after) = s.takeAll (before ++ after) := by
  have hnone : Options.decode? payload = none := by
    cases hdecode : Options.decode? payload with
    | none => rfl
    | some o => exact absurd (Options.decode?_eq_some_iff.1 hdecode) (h o)
  refine takeAll_append_cons (fun t => ?_) s before after
  rw [take, hnone]

end SnippetServer.Settings
