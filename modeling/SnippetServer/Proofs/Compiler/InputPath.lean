import SnippetServer.Compiler.Basic
import SnippetServer.Proofs.Text.Validity

namespace SnippetServer.Compiler

/-!
# The path that the compiler is told

A path is any byte string, but the arguments of the compiler are texts.  So it is told the path of a
document as it is exactly if that is UTF-8.  Otherwise it is told another path, in which U+FFFD
stands for what is lost, and nothing that it is told keeps the two apart.

* `Tells args told` — the path that a command line tells;
* `tells_arguments_iff` — the command line of a path tells the bytes of its text, and no others;
* `arguments_eq_iff` — two paths have one command line if they have one text;
* `compile_congr` — a compilation runs nothing but the command line of its document;
* `TellsPath path` and `arguments_tell_path` — what comes of every path.
-/

/-! ### The fourth argument -/

/-- What stands in front of the path. -/
def inputOption : Text := "--input=".toList

/-- The fourth argument is the option with these bytes behind it. -/
def Tells (args : List Text) (told : Bytes) : Prop :=
  args[3]?.map Text.encode = some (Text.encode inputOption ++ told)

/-- The fourth argument is the option with the text of the path behind it. -/
theorem getElem?_arguments (path : Path) :
    (arguments path)[3]? = some (inputOption ++ path.display) := rfl

/-- The command line of a path tells the bytes of the text that is shown for it, and no others. -/
theorem tells_arguments_iff {path : Path} {told : Bytes} :
    Tells (arguments path) told ↔ Text.encode path.display = told := by
  rw [Tells, getElem?_arguments, Option.map_some, Text.encode_append, Option.some_inj,
    List.append_right_inj]

/-- Two paths have the same command line exactly if the same text is shown for them. -/
theorem arguments_eq_iff {path other : Path} :
    arguments other = arguments path ↔ other.display = path.display := by
  constructor
  · intro h
    -- only the fourth argument depends on the path
    have hfourth := congrArg (fun args : List Text => args[3]?) h
    show other.display = path.display
    exact List.append_cancel_left (Option.some.inj hfourth)
  · intro h
    rw [arguments, arguments, h]

/-- The path with a text is shown as that text. -/
theorem display_ofText (t : Text) : (Path.ofText t).display = t := Text.decodeLossy_encode t

/-- The text of a path that is UTF-8 has the bytes of the path. -/
theorem encode_display {path : Path} (h : Text.IsUtf8 path.bytes) :
    Text.encode path.display = path.bytes := Text.encode_decodeLossy_eq_iff.2 h

/-! ### The compilation of a document -/

section

variable {launch launch' : Launcher} {tree : FileTree} {uri : Uri} {path : Path}

/-- A compilation runs nothing but the command line of its document: what the system would do with
any other one is never asked. -/
theorem compile_congr (hpath : uri.toPath? = some path)
    (h : ∀ program, launch tree program (arguments path) = launch' tree program (arguments path))
    (compiler : Option Path) :
    compile launch tree compiler (some uri) = compile launch' tree compiler (some uri) := by
  -- all checks but the last one do not ask the system
  have hstart : start launch tree compiler (some uri) =
      start launch' tree compiler (some uri) := by
    cases compiler with
    | none => rfl
    | some program => simp only [start, hpath, h]
  rw [compile, compile, hstart]

end

/-- What the compiler is told of the document with a path. -/
structure TellsPath (path : Path) : Prop where
  /-- The command line tells the path itself exactly if the path is UTF-8. -/
  own_iff : Tells (arguments path) path.bytes ↔ Text.IsUtf8 path.bytes
  /-- Two paths that are UTF-8 never have the same command line. -/
  apart : Text.IsUtf8 path.bytes → ∀ other : Path, Text.IsUtf8 other.bytes →
    arguments other = arguments path → other = path
  /-- A path that is not UTF-8 is told as one with other bytes: U+FFFD stands there for each run of
  bytes that is lost.  Both have the same command line. -/
  another : ¬ Text.IsUtf8 path.bytes → ∃ t, Text.ReadsAs path.bytes t ∧
    Text.replacement ∈ t ∧ Text.encode t ≠ path.bytes ∧
      Tells (arguments path) (Text.encode t) ∧ arguments (Path.ofText t) = arguments path
  /-- When the document is compiled, no other command line is run. -/
  runs_only : ∀ launch launch' tree compiler uri, Uri.toPath? uri = some path →
    (∀ program, launch tree program (arguments path) = launch' tree program (arguments path)) →
      compile launch tree compiler (some uri) = compile launch' tree compiler (some uri)

/-- **The path of the document.**  The compiler is told the path of the document byte by byte if
that is UTF-8, and another path if it is not. -/
theorem arguments_tell_path (path : Path) : TellsPath path where
  own_iff := by
    rw [tells_arguments_iff]
    exact Text.encode_decodeLossy_eq_iff
  apart := by
    intro h other hother harguments
    have hdisplay := arguments_eq_iff.1 harguments
    have hbytes : other.bytes = path.bytes := by
      rw [← encode_display hother, ← encode_display h, hdisplay]
    cases path
    cases other
    exact congrArg Path.mk hbytes
  another := by
    intro h
    have hne : Text.encode path.display ≠ path.bytes := fun heq =>
      h (Text.encode_decodeLossy_eq_iff.1 heq)
    have hsame : arguments (Path.ofText path.display) = arguments path :=
      arguments_eq_iff.2 (display_ofText path.display)
    exact ⟨path.display, Text.readsAs_iff.2 rfl, Text.replacement_mem_decodeLossy h, hne,
      tells_arguments_iff.2 rfl, hsame⟩
  runs_only := fun _ _ _ compiler _ hpath h => compile_congr hpath h compiler

namespace TruncatedPath

/-- A path with a U+FFFD of its own. -/
def marked : Path := ⟨[0x2F, 0x61, 0xEF, 0xBF, 0xBD]⟩

/-- The same path with a truncated character in that place. -/
def truncated : Path := ⟨[0x2F, 0x61, 0xE4, 0xBD]⟩

/-- The same path without it. -/
def plain : Path := ⟨[0x2F, 0x61]⟩

/-- A document with the truncated path. -/
def document : Uri where
  scheme := "file".toList
  authority := some ⟨[], none, none⟩
  location := .segments [['a', '%', 'E', '4', '%', 'B', 'D']]
  query := none
  fragment := none

/-- A tree with a compiler. -/
def tree : FileTree where
  home := []
  nodes := [([Text.encode compilerName], .file [] none)]

/-- The compiler of the tree. -/
def compiler : Path := Path.ofText ('/' :: compilerName)

/-- A system where every program ends at once. -/
def anything : Launcher := fun _ _ _ => .ok ⟨[], .ok (.exited 0)⟩

/-- A system that runs programs on the path with the U+FFFD, and on nothing else. -/
def guarded : Launcher := fun tree program args =>
  if args = arguments marked then anything tree program args else .error .denied

end TruncatedPath

open TruncatedPath in
/-- The compiler is told the path with the U+FFFD as it is, and the truncated one as that path: what
is compiled is another file. -/
theorem arguments_tell_path_truncated :
    Text.IsUtf8 marked.bytes ∧ Tells (arguments marked) marked.bytes ∧
      Text.IsUtf8 plain.bytes ∧ arguments plain ≠ arguments marked ∧
      ¬ Text.IsUtf8 truncated.bytes ∧ ¬ Tells (arguments truncated) truncated.bytes ∧
      arguments marked = arguments truncated ∧ document.toPath? = some truncated ∧
      compile guarded tree (some compiler) (some document) = ⟨[], .ok (.exited 0)⟩ := by
  have hmarked : Text.IsUtf8 marked.bytes := by decide
  have hplain : Text.IsUtf8 plain.bytes := by decide
  have htruncated : ¬ Text.IsUtf8 truncated.bytes := by decide
  have hdocument : document.toPath? = some truncated := by decide
  have hapart : arguments plain ≠ arguments marked := fun h =>
    absurd ((arguments_tell_path marked).apart hmarked plain hplain h) (by decide)
  have hsame : arguments marked = arguments truncated := by
    obtain ⟨t, hreads, -, -, -, hsame⟩ := (arguments_tell_path truncated).another htruncated
    obtain rfl : ['/', 'a', '\ufffd'] = t :=
      (show ['/', 'a', '\ufffd'] = Text.decodeLossy truncated.bytes by decide).trans
        (Text.readsAs_iff.1 hreads)
    rw [← hsame]
    rfl
  refine ⟨hmarked, (arguments_tell_path marked).own_iff.2 hmarked, hplain, hapart, htruncated,
    fun h => htruncated ((arguments_tell_path truncated).own_iff.1 h), hsame, hdocument, ?_⟩
  -- the system is never asked for anything that it would refuse
  have hunguarded : compile guarded tree (some compiler) (some document) =
      compile anything tree (some compiler) (some document) :=
    (arguments_tell_path truncated).runs_only guarded anything tree _ document hdocument
      fun _ => if_pos hsame.symm
  have hname : hasCompilerName compiler = true := by decide
  have hcontains : tree.contains compiler = true := by decide
  have hstart : start anything tree (some compiler) (some document) =
      .ok ⟨[], .ok (.exited 0)⟩ := by
    simp [start, validate, hname, hcontains, hdocument, anything, bind, Except.bind,
      Except.mapError]
  rw [hunguarded, compile, hstart]
  rfl

end SnippetServer.Compiler
