import SnippetServer.Settings.Options

namespace SnippetServer.Settings

/-!
# What options and configurations hold

What a client sends is JSON of any form.  What of it counts is said here without the functions that
read it, by how clients write it: a text is written as a string, a load order as an array of
strings, and a value that may be left out is missing or null, or it is written.

* `Gives write value? a?` — a value that may be left out gives this, when it is written by `write`;
* `Options.Written payload o` — a payload is an object or an array that holds the options `o`;
* `Configured payload path` — a configuration holds this path of the compiler.

The functions that read are shown to give exactly what is written (`Options.decode?_eq_some_iff`,
`compilerSetting?_eq_some_iff`), so they refuse what nobody would write.
-/

/-! ### Texts and lists of texts -/

/-- Only a string is read as a text. -/
theorem text?_eq_some_iff {j : Json} {t : Text} : j.text? = some t ↔ j = .str t := by
  cases j <;> simp [Json.text?]

/-- An array of strings holds their texts. -/
theorem mapM_text?_eq_some_iff {items : List Json} {texts : List Text} :
    items.mapM Json.text? = some texts ↔ items = texts.map .str := by
  induction items generalizing texts with
  | nil => cases texts <;> simp
  | cons j items ih =>
    -- the first item is a string, and the others are those of the other texts
    cases texts with
    | nil => simp [List.mapM_cons, Option.bind_eq_some_iff]
    | cons t texts => simp [List.mapM_cons, Option.bind_eq_some_iff, text?_eq_some_iff, ih]

/-- How a list of texts is written. -/
def writeTexts (texts : List Text) : Json := .arr (texts.map .str)

/-- Only an array of strings is read as a list of texts. -/
theorem texts?_eq_some_iff {j : Json} {texts : List Text} :
    texts? j = some texts ↔ j = writeTexts texts := by
  cases j <;> simp [texts?, Json.items?, writeTexts, mapM_text?_eq_some_iff]

/-! ### Values that may be left out -/

/-- What a value gives that may be left out: nothing if it is missing or null, and else what is
written in it. -/
inductive Gives {α : Type} (write : α → Json) : Option Json → Option α → Prop where
  /-- It is missing. -/
  | missing : Gives write none none
  /-- It is null. -/
  | null : Gives write (some .null) none
  /-- It is written. -/
  | written (a : α) : Gives write (some (write a)) (some a)

/-- Only null stands for a value that is left out. -/
theorem optional_of_ne_null {α : Type} (read : Json → Option α) {j : Json} (h : j ≠ .null) :
    optional read (some j) = (read j).map some := by
  cases j with
  | null => exact absurd rfl h
  | _ => rfl

/-- What reads the written values, and no others, reads them also if they may be left out. -/
theorem optional_eq_some_iff {α : Type} {read : Json → Option α} {write : α → Json}
    (hread : ∀ j a, read j = some a ↔ j = write a) (hnull : ∀ a, write a ≠ .null)
    {value? : Option Json} {a? : Option α} :
    optional read value? = some a? ↔ Gives write value? a? := by
  constructor
  · intro h
    -- three cases: missing, null, and a value that is read
    unfold optional at h
    split at h
    · obtain rfl := Option.some.inj h
      exact .missing
    · obtain rfl := Option.some.inj h
      exact .null
    · obtain ⟨a, ha, rfl⟩ := Option.map_eq_some_iff.1 h
      rw [(hread _ a).1 ha]
      exact .written a
  · intro h
    cases h with
    | missing => rfl
    | null => rfl
    | written a =>
      rw [optional_of_ne_null read (hnull a), (hread _ a).2 rfl]
      rfl

/-- What a text gives that may be left out. -/
theorem optional_text?_iff {value? : Option Json} {t? : Option Text} :
    optional Json.text? value? = some t? ↔ Gives .str value? t? :=
  optional_eq_some_iff (fun _ _ => text?_eq_some_iff) (fun _ => nofun)

/-- What a list of texts gives that may be left out. -/
theorem optional_texts?_iff {value? : Option Json} {texts? : Option (List Text)} :
    optional Settings.texts? value? = some texts? ↔ Gives writeTexts value? texts? :=
  optional_eq_some_iff (fun _ _ => texts?_eq_some_iff) (fun _ => nofun)

/-! ### Options -/

namespace Options

/-- Four values hold the options, each of them its own. -/
structure Holds (directory compiler loadOrder extension : Option Json) (o : Options) : Prop where
  /-- The directory is a text. -/
  directory : Gives .str directory o.directory
  /-- The compiler is a text. -/
  compiler : Gives .str compiler o.compiler
  /-- The load order is a list of texts. -/
  loadOrder : Gives writeTexts loadOrder o.loadOrder
  /-- The extension is a text. -/
  extension : Gives .str extension o.extension

/-- How options are written. -/
inductive Written : Json → Options → Prop where
  /-- An object holds the values under their names; its other members do not count. -/
  | object (members : List (Text × Json)) (o : Options)
    (h : Holds (members.lookup "snippetsDir".toList) (members.lookup "compilerPath".toList)
      (members.lookup "loadOrder".toList) (members.lookup "snippetExtension".toList) o) :
    Written (.obj members) o
  /-- An array holds at most four values, in this order. -/
  | array (items : List Json) (o : Options) (hlength : items.length ≤ 4)
    (h : Holds items[0]? items[1]? items[2]? items[3]? o) : Written (.arr items) o

/-- One value that is not written as it should be spoils all of them. -/
theorem ofValues?_eq_some_iff {directory compiler loadOrder extension : Option Json} {o : Options} :
    ofValues? directory compiler loadOrder extension = some o ↔
      Holds directory compiler loadOrder extension o := by
  obtain ⟨directory', compiler', loadOrder', extension'⟩ := o
  constructor
  · intro h
    simp only [ofValues?, Option.bind_eq_bind, Option.bind_eq_some_iff, Option.some.injEq,
      Options.mk.injEq] at h
    obtain ⟨_, hdirectory, _, hcompiler, _, horder, _, hextension, rfl, rfl, rfl, rfl⟩ := h
    exact ⟨optional_text?_iff.1 hdirectory, optional_text?_iff.1 hcompiler,
      optional_texts?_iff.1 horder, optional_text?_iff.1 hextension⟩
  · intro h
    rw [ofValues?, optional_text?_iff.2 h.directory, optional_text?_iff.2 h.compiler,
      optional_texts?_iff.2 h.loadOrder, optional_text?_iff.2 h.extension]
    rfl

/-- Options are read exactly as they are written. -/
theorem decode?_eq_some_iff {payload : Json} {o : Options} :
    decode? payload = some o ↔ Written payload o := by
  cases payload with
  | obj members =>
    show ofValues? _ _ _ _ = some o ↔ _
    rw [ofValues?_eq_some_iff]
    constructor
    · exact fun h => .object members o h
    · rintro ⟨⟩
      assumption
  | arr items =>
    rw [decode?]
    by_cases hlength : 4 < items.length
    · -- a fifth value is refused, and no options are written so
      rw [if_pos hlength]
      refine iff_of_false nofun ?_
      rintro ⟨⟩
      omega
    · rw [if_neg hlength, ofValues?_eq_some_iff]
      constructor
      · exact fun h => .array items o (Nat.not_lt.1 hlength) h
      · rintro ⟨⟩
        assumption
  | _ => exact iff_of_false (by simp [decode?]) (by rintro ⟨⟩)

end Options

/-! ### Configurations -/

/-- The path of the compiler that a configuration holds.  What stands in the section of this server
counts before what stands under one name with a dot. -/
inductive Configured : Json → Text → Prop where
  /-- The path stands in the section. -/
  | nested (members inner : List (Text × Json)) (path : Text)
    (hsection : members.lookup "taikou5".toList = some (.obj inner))
    (h : inner.lookup "compilerPath".toList = some (.str path)) : Configured (.obj members) path
  /-- The section has nothing under this name, or there is no section, and the path stands under the
  name with a dot. -/
  | flat (members : List (Text × Json)) (path : Text)
    (hsection : ∀ inner, members.lookup "taikou5".toList = some (.obj inner) →
      inner.lookup "compilerPath".toList = none)
    (h : members.lookup "taikou5.compilerPath".toList = some (.str path)) :
    Configured (.obj members) path

/-- The compiler is read exactly as it is configured. -/
theorem compilerSetting?_eq_some_iff {payload : Json} {path : Text} :
    compilerSetting? payload = some path ↔ Configured payload path := by
  cases payload with
  | obj members =>
    -- the first of two lookups that finds anything decides, be it a text or not
    have hname : sectionName ++ ['.'] ++ compilerKey = "taikou5.compilerPath".toList := by decide
    have hsetting : compilerSetting? (.obj members) =
        (((members.lookup "taikou5".toList).bind (Json.get? "compilerPath".toList)).or
          (members.lookup "taikou5.compilerPath".toList)).bind Json.text? := by
      rw [compilerSetting?, hname, Option.orElse_eq_orElse, Option.orElse_eq_or]
      rfl
    rw [hsetting]
    cases hinner : (members.lookup "taikou5".toList).bind (Json.get? "compilerPath".toList) with
    | none =>
      rw [Option.none_or]
      constructor
      · intro h
        obtain ⟨j, hj, htext⟩ := Option.bind_eq_some_iff.1 h
        rw [text?_eq_some_iff.1 htext] at hj
        -- the section holds no such name, so the path comes from the name with a dot
        refine .flat members path ?_ hj
        intro inner hsection
        rw [hsection] at hinner
        exact hinner
      · intro h
        cases h with
        | nested _ inner _ hsection hpath =>
          rw [hsection, Option.bind_some, Json.get?, hpath] at hinner
          cases hinner
        | flat _ _ _ hpath =>
          rw [hpath]
          rfl
    | some j =>
      -- something stands in the section, so nothing else is looked at
      rw [Option.some_or, Option.bind_some, text?_eq_some_iff]
      obtain ⟨value, hsection, hj⟩ := Option.bind_eq_some_iff.1 hinner
      cases value with
      | obj inner =>
        constructor
        · rintro rfl
          exact .nested members inner path hsection hj
        · intro h
          cases h with
          | nested _ inner' _ hsection' hpath =>
            have hsame : Json.obj inner = .obj inner' :=
              Option.some.inj (hsection.symm.trans hsection')
            obtain rfl := Json.obj.inj hsame
            exact Option.some.inj (hj.symm.trans hpath)
          | flat _ _ hnone _ => cases hj.symm.trans (hnone inner hsection)
      | _ => cases hj
  | _ => exact iff_of_false (by simp [compilerSetting?, Json.get?]) (by rintro ⟨⟩)

end SnippetServer.Settings
