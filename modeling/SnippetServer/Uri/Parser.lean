import SnippetServer.Uri.Basic

namespace SnippetServer.Uri

/-!
# Reading URIs

A URI is read as the URL Standard says, without a base: controls and spaces around it are left
out, and so are tabs and line ends inside it.  Some schemes are *special*: their URIs have a host,
which `file` may leave empty, and a backslash in them is a slash.

* `parse?` — the URI of a text.
-/

/-- Whether the characters around a URI that are left out include this one. -/
def isOuter (c : Char) : Bool := c.toNat ≤ 0x20

/-- The text without what is left out around a URI. -/
def tidy (t : Text) : Text := dropTrailing isOuter (t.dropWhile isOuter)

/-! ### Schemes -/

/-- Whether a character may stand in a scheme. -/
def isSchemeChar (c : Char) : Bool := c.isAlphanum || c == '+' || c == '-' || c == '.'

/-- The scheme of a text, in lower case, and what follows its colon. -/
def scheme? (t : Text) : Option (Text × Text) :=
  let inScheme (c : Char) : Bool := isSchemeChar c || isBreak c
  if t.head?.any Char.isAlpha then
    match t.dropWhile inScheme with
    | ':' :: rest => some ((withoutBreaks (t.takeWhile inScheme)).map Char.toLower, rest)
    | _ => none
  else none

/-- The scheme of files. -/
def fileScheme : Text := ['f', 'i', 'l', 'e']

/-- The special schemes other than that of files, with the ports that they stand for. -/
def networkSchemes : List (Text × Nat) :=
  [(['h', 't', 't', 'p'], 80), (['h', 't', 't', 'p', 's'], 443), (['w', 's'], 80),
    (['w', 's', 's'], 443), (['f', 't', 'p'], 21)]

/-! ### Parts -/

/-- The part in front of the first occurrence of a character, and what follows it. -/
def splitAtFirst (mark : Char) (t : Text) : Text × Option Text :=
  match t.dropWhile (· != mark) with
  | [] => (t, none)
  | _ :: rest => (t.takeWhile (· != mark), some rest)

/-- Whether a character is a slash, as which special schemes also take a backslash. -/
def isSlash (special : Bool) (c : Char) : Bool := c == '/' || (special && c == '\\')

/-- User name and password, percent-encoded, with the `@` behind them unless both are empty. -/
def userinfoText (t : Text) : Text :=
  let (name, password) := splitAtFirst ':' t
  let written := encode userinfoSet name ++
    (match password with
      | none => []
      | some [] => []
      | some p => ':' :: encode userinfoSet p)
  if written.isEmpty then [] else written ++ ['@']

/-- The texts in front of and behind the last `@`. -/
def splitUserinfo (t : Text) : Option Text × Text :=
  if t.contains '@' then
    (some (dropTrailing (· != '@') t).dropLast, trailingRun (· != '@') t)
  else (none, t)

/-- The host and the port of an authority: they are separated by the first colon outside of
brackets. -/
def splitPort : (inBrackets : Bool) → Text → Text × Option Text
  | _, [] => ([], none)
  | inside, c :: r =>
    if c = ':' ∧ inside = false then ([], some r)
    else
      let (host, port) := splitPort (c = '[' ∨ (inside ∧ c ≠ ']')) r
      (c :: host, port)

/-- The value of a port: at most 65535, or none if there are no digits. -/
def port? (t : Text) : Option (Option Nat) :=
  if t.isEmpty then some none
  else ((digitsValue? 10 t).filter (· ≤ 65535)).map some

/-- The authority in front of a text without slashes, and what follows it: a backslash ends the
digits of a port.  `usual` is the port that the scheme stands for.  A host may be missing, but not
behind a user name or in front of a port; nor behind a lone `@`, unless the URI ends there, as it
does if `atEnd`. -/
def authority? (special : Bool) (usual : Option Nat) (atEnd : Bool) (t : Text) :
    Option (Authority × Text) := do
  let (info, rest) := splitUserinfo t
  let userinfo := (info.map userinfoText).getD []
  let (name, portText) := splitPort false rest
  let hostNeeded := special || portText.isSome || !userinfo.isEmpty || (info == some [] && !atEnd)
  if name.isEmpty && hostNeeded then none
  let host ← if name.isEmpty then pure none
    else (if special then Host.parse? name else Host.parseRaw? name).map some
  let digits := (portText.getD []).takeWhile (· != '\\')
  let port ← port? digits
  some ({ userinfo, host, port := if port = usual then none else port },
    (portText.getD []).drop digits.length)

/-- The segments of what follows an authority; the slash in front belongs to the first one. -/
def segmentsAfter (special : Bool) (t : Text) : List Text :=
  match t with
  | [] => if special then [[]] else []
  | c :: r =>
    (resolve false (segmentsOf special (if isSlash special c then r else c :: r))).segments

/-! ### Files -/

/-- What follows the slash at the start of a text, if there is one. -/
def afterSlash? (t : Text) : Option Text :=
  match t.dropWhile isBreak with
  | c :: rest => if isSlash true c then some rest else none
  | [] => none

/-- The host and the segments of a URI of a file, in which breaks have not been left out yet.  A
drive letter in front makes the host go. -/
def fileParts? (t : Text) : Option (Option Host × List Text) :=
  let route (path : Text) : Route := resolve true (segmentsOf true path)
  match afterSlash? t with
  | none => some (none, (route t).segments)
  | some path =>
    match afterSlash? path with
    | none => some (none, (route path).segments)
    | some rest =>
      let name := withoutBreaks (rest.takeWhile (!isSlash true ·))
      let path := rest.dropWhile (!isSlash true ·)
      if isDriveLetter name then some (none, (route rest).segments)
      else if name.isEmpty then some (none, (route path).segments)
      else do
        let host ← Host.parse? name
        if host = localhost then some (none, (route path).segments)
        else
          let inside := route (path.drop 1)
          some (if inside.onDrive then none else some host, inside.segments)

/-! ### Whole URIs -/

/-- The authority and the path in a text without breaks that follows a scheme other than that of
files; `atEnd` tells that nothing follows them. -/
def parts? (scheme : Text) (atEnd : Bool) (t : Text) : Option (Option Authority × Location) :=
  match networkSchemes.lookup scheme with
    | some usual => do
      let rest := t.dropWhile (isSlash true)
      let (a, _) ← authority? true (some usual) false (rest.takeWhile (!isSlash true ·))
      some (some a, .segments (segmentsAfter true (rest.dropWhile (!isSlash true ·))))
    | none =>
      match t with
      | '/' :: '/' :: rest => do
        let path := rest.dropWhile (· != '/')
        let (a, more) ← authority? false none (atEnd && path.isEmpty) (rest.takeWhile (· != '/'))
        some (some a, .segments (segmentsAfter false (more ++ path)))
      | '/' :: rest => some (none, .segments (resolve false (segmentsOf false rest)).segments)
      | t => some (none, .rootless (encode [] t))

/-- The authority and the path of a URI of a file. -/
def partsOfFile? (t : Text) : Option (Option Authority × Location) :=
  (fileParts? t).map fun (host, segments) =>
    (some { userinfo := [], host, port := none }, .segments (withoutEmptyFront segments))

/-- The URI of a text. -/
def parse? (t : Text) : Option Uri := do
  let (scheme, rest) ← scheme? (tidy t)
  let (main, fragment) := splitAtFirst '#' rest
  let (main, query) := splitAtFirst '?' main
  let (authority, location) ← if scheme = fileScheme then partsOfFile? main
    else parts? scheme (query.isNone && fragment.isNone) (withoutBreaks main)
  let special := scheme == fileScheme || (networkSchemes.lookup scheme).isSome
  some
    { scheme, authority, location
      query := query.map fun q => encode (if special then specialQuerySet else querySet)
        (withoutBreaks q)
      fragment := fragment.map fun f => encode fragmentSet (withoutBreaks f) }

end SnippetServer.Uri
