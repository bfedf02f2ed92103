import SnippetServer.Proofs.Snippet.LoadOrder
import SnippetServer.Snippet.Index
import Mathlib.Data.List.Induction

namespace SnippetServer.Snippet

/-!
# What an index says about the records

An index is built record by record, with an ordered table, an ordered set of triggers and a counter
of ranks.  What comes out can be said without the run: it is the *summary* of the records.

* `Record.bodies rs` — the distinct bodies, each where it is first met;
* `Entry.summary rs rank body` — the entry of a body: the label of the first record with it and
  the triggers of all of them, without repeats;
* `Builder.foldl_add` — after any records the builder holds their summary; `Builder.add_summary`
  is the step;
* `Index.Summarizes rs index` — what an index has to say about records, field by field;
* `build_summarizes` — the index of files says it about the records of the files in load order.
-/

/-! ### Lists without repeats -/

section

variable {α : Type _} [BEq α] [LawfulBEq α]

/-- An element at the end is dropped exactly if it has been met before. -/
theorem eraseDups_concat (l : List α) (a : α) :
    (l ++ [a]).eraseDups =
      if a ∈ l.eraseDups then l.eraseDups else l.eraseDups ++ [a] := by
  rw [List.eraseDups_append]
  by_cases h : a ∈ l
  · simp [List.removeAll, h]
  · simp [List.removeAll, h, List.eraseDups_cons]

/-- What is left has no repeats. -/
theorem nodup_eraseDups (l : List α) : l.eraseDups.Nodup := by
  -- from the end, where an element is dropped if it has been met
  induction l using List.reverseRecOn with
  | nil => simp
  | append_singleton l a ih =>
    rw [eraseDups_concat]
    split
    · exact ih
    · rename_i ha
      rw [List.nodup_append]
      refine ⟨ih, by simp, ?_⟩
      rintro b hb c hc rfl
      rw [List.mem_singleton] at hc
      exact ha (hc ▸ hb)

end

/-- A function on what elements become in their places is applied to each. -/
theorem map_mapIdx {α β γ : Type _} (f : Nat → α → β) (g : β → γ) (l : List α) :
    (l.mapIdx f).map g = l.mapIdx fun i a => g (f i a) := by
  rw [eq_comm, List.mapIdx_eq_iff]
  intro i
  rw [List.getElem?_map, List.getElem?_mapIdx, Option.map_map]
  rfl

/-! ### The summary of a list of records -/

namespace Record

/-- The distinct bodies of records, each where it is first met. -/
def bodies (rs : List Record) : List Text := (rs.map bodyText).eraseDups

/-- The records that insert a body. -/
def withBody (body : Text) (rs : List Record) : List Record := rs.filter fun r => r.bodyText = body

/-- A body is among the bodies if some record inserts it. -/
theorem mem_bodies {rs : List Record} {body : Text} :
    body ∈ bodies rs ↔ ∃ r ∈ rs, r.bodyText = body := by
  rw [bodies, List.mem_eraseDups, List.mem_map]

/-- No body is repeated. -/
theorem nodup_bodies (rs : List Record) : (bodies rs).Nodup := nodup_eraseDups _

/-- One more record adds its body behind the others, unless it is there. -/
theorem bodies_concat (rs : List Record) (r : Record) :
    bodies (rs ++ [r]) =
      if r.bodyText ∈ bodies rs then bodies rs else bodies rs ++ [r.bodyText] := by
  rw [bodies, List.map_append, List.map_singleton, eraseDups_concat, bodies]

/-- One more record is one more with its own body. -/
theorem withBody_concat (body : Text) (rs : List Record) (r : Record) :
    withBody body (rs ++ [r]) =
      if r.bodyText = body then withBody body rs ++ [r] else withBody body rs := by
  rw [withBody, List.filter_append]
  by_cases h : r.bodyText = body <;> simp [withBody, h]

/-- A body has a record exactly if it is among the bodies. -/
theorem withBody_eq_nil_iff {rs : List Record} {body : Text} :
    withBody body rs = [] ↔ body ∉ bodies rs := by
  rw [withBody, List.filter_eq_nil_iff, mem_bodies]
  simp

/-- A body has a first record. -/
theorem exists_withBody_eq_cons {rs : List Record} {body : Text} (h : body ∈ bodies rs) :
    ∃ r t, withBody body rs = r :: t := by
  cases hw : withBody body rs with
  | nil => exact absurd h (withBody_eq_nil_iff.1 hw)
  | cons r t => exact ⟨r, t, rfl⟩

end Record

open Record (bodies withBody)

/-- The entry that records give a body; its label counts only if some record inserts it. -/
def Entry.summary (rs : List Record) (rank : Nat) (body : Text) : Entry where
  label := ((withBody body rs).head?.map Record.label).getD []
  triggers := ((withBody body rs).map Record.trigger).eraseDups
  rank := rank
  body := body

/-- The table and the counter after a list of records. -/
def Builder.summary (rs : List Record) : Builder where
  slots := (bodies rs).mapIdx fun rank body => (body, Entry.summary rs rank body)
  next := (bodies rs).length

namespace Entry

variable {rs : List Record} {r : Record} {body : Text} {rank : Nat}

/-- A record with another body does not change what is said of this one. -/
theorem summary_concat_of_ne (h : r.bodyText ≠ body) :
    summary (rs ++ [r]) rank body = summary rs rank body := by
  simp [summary, Record.withBody_concat, h]

/-- A record with a body that is known leaves the label and adds its trigger. -/
theorem summary_concat_of_eq (h : r.bodyText = body) (hb : body ∈ bodies rs) :
    summary (rs ++ [r]) rank body = (summary rs rank body).addTrigger r.trigger := by
  -- the first record with the body stays the first one
  obtain ⟨first, rest, hw⟩ := Record.exists_withBody_eq_cons hb
  rw [addTrigger, summary, Record.withBody_concat, if_pos h, List.map_append, List.map_singleton,
    eraseDups_concat, summary]
  dsimp only
  split <;> simp [hw]

/-- A record with a new body gives it the label and the only trigger. -/
theorem summary_concat_of_not_mem (h : r.bodyText = body) (hb : body ∉ bodies rs) :
    summary (rs ++ [r]) rank body = ofRecord rank r := by
  have hw := Record.withBody_eq_nil_iff.2 hb
  simp [summary, Record.withBody_concat, h, hw, ofRecord, List.eraseDups_cons]

end Entry

/-! ### The run of the builder -/

namespace Builder

/-- There is a slot for every body, in order. -/
theorem map_fst_summary (rs : List Record) : (summary rs).slots.map Prod.fst = bodies rs := by
  rw [summary, map_mapIdx, List.mapIdx_eq_iff]
  simp

/-- Exactly the bodies of records are looked up with success. -/
theorem lookup_summary_eq_none_iff {rs : List Record} {body : Text} :
    (summary rs).slots.lookup body = none ↔ body ∉ bodies rs := by
  rw [List.lookup_eq_none_iff, ← map_fst_summary rs, List.mem_map]
  constructor
  · rintro h ⟨s, hs, rfl⟩
    simpa using h s hs
  · intro h s hs
    rw [bne_iff_ne]
    exact fun e => h ⟨s, hs, e.symm⟩

/-- **Step.**  One more record turns the summary of the records so far into that of all of them. -/
theorem add_summary (rs : List Record) (r : Record) : (summary rs).add r = summary (rs ++ [r]) := by
  unfold add
  dsimp only
  split
  · -- the body is known: its slot takes the trigger, the others stay as they are
    rename_i e he
    have hb : r.bodyText ∈ bodies rs := by
      by_contra hb
      rw [lookup_summary_eq_none_iff.2 hb] at he
      exact absurd he (by simp)
    rw [summary, summary, Record.bodies_concat, if_pos hb, map_mapIdx]
    congr 1
    rw [List.mapIdx_eq_mapIdx_iff]
    intro i hi
    by_cases h : (bodies rs)[i] = r.bodyText
    · rw [if_pos h, Entry.summary_concat_of_eq h.symm (List.getElem_mem hi)]
    · rw [if_neg h, Entry.summary_concat_of_ne (fun e => h e.symm)]
  · -- the body is new: the slots stay as they are, and its own one is added
    rename_i he
    have hb := lookup_summary_eq_none_iff.1 he
    rw [summary, summary, Record.bodies_concat, if_neg hb, List.mapIdx_concat, List.length_append,
      List.length_singleton, Entry.summary_concat_of_not_mem rfl hb]
    congr 2
    rw [List.mapIdx_eq_mapIdx_iff]
    intro i hi
    have h : r.bodyText ≠ (bodies rs)[i] := fun e => hb (e ▸ List.getElem_mem hi)
    rw [Entry.summary_concat_of_ne h]

/-- **Run.**  After any list of records the builder holds their summary. -/
theorem foldl_add (rs : List Record) : rs.foldl add empty = summary rs := by
  -- from the end: the builder is a fold from the left
  induction rs using List.reverseRecOn with
  | nil => rfl
  | append_singleton rs r ih =>
    rw [List.foldl_append, List.foldl_cons, List.foldl_nil, ih, add_summary]

end Builder

/-! ### The index -/

/-- In a table without repeated keys, looking up a key gives what stands under it. -/
theorem lookup_eq_some_iff_mem {α β : Type _} [BEq α] [LawfulBEq α] {table : List (α × β)}
    (h : (table.map Prod.fst).Nodup) {key : α} {value : β} :
    table.lookup key = some value ↔ (key, value) ∈ table := by
  rw [List.lookup_eq_some_iff]
  constructor
  · rintro ⟨front, back, rfl, -⟩
    simp
  · intro hmem
    obtain ⟨front, back, rfl⟩ := List.append_of_mem hmem
    refine ⟨front, back, rfl, fun p hp => ?_⟩
    -- no slot in front has the same key
    rw [List.map_append, List.map_cons, List.nodup_append] at h
    rw [bne_iff_ne]
    exact fun e => h.2.2 p.1 (List.mem_map_of_mem hp) key (by simp) e.symm

namespace Index

variable {rs : List Record}

/-- The table of an index holds the summary of every body under that body. -/
theorem slots_ofRecords (rs : List Record) : (ofRecords rs).slots =
    (bodies rs).mapIdx fun rank body => (body, Entry.summary rs rank body) := by
  rw [ofRecords, Builder.foldl_add]
  rfl

/-- The keys of an index are the bodies. -/
theorem keys_ofRecords (rs : List Record) : (ofRecords rs).slots.map Prod.fst = bodies rs := by
  rw [ofRecords, Builder.foldl_add, Builder.map_fst_summary]

/-- No key of an index is repeated. -/
theorem nodup_keys_ofRecords (rs : List Record) : ((ofRecords rs).slots.map Prod.fst).Nodup := by
  rw [keys_ofRecords]
  exact Record.nodup_bodies rs

/-- The entries of an index are the summaries of the bodies. -/
theorem entries_ofRecords (rs : List Record) :
    (ofRecords rs).entries = (bodies rs).mapIdx (Entry.summary rs) := by
  rw [entries, slots_ofRecords, map_mapIdx]

/-- The entries of an index have the bodies of the records. -/
theorem map_body_ofRecords (rs : List Record) :
    (ofRecords rs).entries.map Entry.body = bodies rs := by
  rw [entries_ofRecords, map_mapIdx, List.mapIdx_eq_iff]
  simp [Entry.summary]

/-- What stands in the table of an index, and at which place. -/
theorem mem_slots_ofRecords {s : Text × Entry} : s ∈ (ofRecords rs).slots ↔
    ∃ rank, (bodies rs)[rank]? = some s.1 ∧ s.2 = Entry.summary rs rank s.1 := by
  rw [slots_ofRecords, List.mem_mapIdx]
  constructor
  · rintro ⟨rank, hr, rfl⟩
    exact ⟨rank, List.getElem?_eq_getElem hr, rfl⟩
  · rintro ⟨rank, hr, he⟩
    obtain ⟨hlt, hb⟩ := List.getElem?_eq_some_iff.1 hr
    exact ⟨rank, hlt, by rw [hb, ← he]⟩

/-- What is among the entries of an index, and at which place. -/
theorem mem_entries_ofRecords {e : Entry} : e ∈ (ofRecords rs).entries ↔
    ∃ rank, (bodies rs)[rank]? = some e.body ∧ e = Entry.summary rs rank e.body := by
  rw [entries, List.mem_map]
  constructor
  · rintro ⟨s, hs, rfl⟩
    obtain ⟨rank, hr, he⟩ := mem_slots_ofRecords.1 hs
    -- an entry has the body that is its key
    have hb : s.2.body = s.1 := by rw [he]; rfl
    exact ⟨rank, by rw [hb, hr], by rw [hb, ← he]⟩
  · rintro ⟨rank, hr, he⟩
    exact ⟨(e.body, e), mem_slots_ofRecords.2 ⟨rank, hr, he⟩, rfl⟩

/-- The records of files are those of each of them, whatever the order. -/
theorem mem_recordsOf {order : List Text} {files : List File} {r : Record} :
    r ∈ recordsOf order files ↔ ∃ f ∈ files, r ∈ Record.readAll f.content := by
  rw [recordsOf, List.mem_flatMap]
  have hperm := (isLoadOrder_inLoadOrder order files).perm
  simp only [hperm.mem_iff]

/-- What an index has to say about a list of records. -/
structure Summarizes (rs : List Record) (index : Index) : Prop where
  /-- There is one key for every distinct body, in the order in which these are first met. -/
  keys_eq : index.slots.map Prod.fst = (rs.map Record.bodyText).eraseDups
  /-- No key is repeated. -/
  keys_nodup : (index.slots.map Prod.fst).Nodup
  /-- The key of an entry is its body. -/
  body_eq_key : ∀ s ∈ index.slots, s.2.body = s.1
  /-- The rank of an entry is its position. -/
  rank_eq : ∀ (k : Nat) (e : Entry), index.entries[k]? = some e → e.rank = k
  /-- The first record with a body gives the label. -/
  label_eq : ∀ e ∈ index.entries,
    ∃ r, (rs.find? fun r => r.bodyText = e.body) = some r ∧ e.label = r.label
  /-- The records with a body give the triggers, in order and without later repeats. -/
  triggers_eq : ∀ e ∈ index.entries,
    e.triggers = ((rs.filter fun r => r.bodyText = e.body).map Record.trigger).eraseDups
  /-- An entry has a trigger. -/
  triggers_ne_nil : ∀ e ∈ index.entries, e.triggers ≠ []
  /-- No trigger of an entry is repeated. -/
  triggers_nodup : ∀ e ∈ index.entries, e.triggers.Nodup
  /-- Looking up a body gives the entry with it. -/
  get?_eq_some : ∀ (body : Text) (e : Entry),
    index.get? body = some e ↔ e ∈ index.entries ∧ e.body = body
  /-- Looking up a body gives nothing exactly if no record has it. -/
  get?_eq_none : ∀ body : Text, index.get? body = none ↔ ∀ r ∈ rs, r.bodyText ≠ body

/-- **The index of records.**  It says about them what it has to say. -/
theorem summarizes_ofRecords (rs : List Record) : (ofRecords rs).Summarizes rs where
  keys_eq := keys_ofRecords rs
  keys_nodup := nodup_keys_ofRecords rs
  body_eq_key := by
    intro s hs
    obtain ⟨rank, -, he⟩ := mem_slots_ofRecords.1 hs
    rw [he]
    rfl
  rank_eq := by
    -- the rank is the place by which the summary was made
    intro k e he
    rw [entries_ofRecords, List.getElem?_mapIdx] at he
    obtain ⟨body, -, rfl⟩ := Option.map_eq_some_iff.1 he
    rfl
  label_eq := by
    intro e he
    obtain ⟨rank, hr, he⟩ := mem_entries_ofRecords.1 he
    obtain ⟨r, rest, hw⟩ := Record.exists_withBody_eq_cons (List.mem_of_getElem? hr)
    refine ⟨r, ?_, ?_⟩
    · rw [← List.head?_filter]
      exact congrArg List.head? hw
    · rw [he, Entry.summary, hw]
      rfl
  triggers_eq := by
    intro e he
    obtain ⟨rank, -, he⟩ := mem_entries_ofRecords.1 he
    exact congrArg Entry.triggers he
  triggers_ne_nil := by
    intro e he
    obtain ⟨rank, hr, he⟩ := mem_entries_ofRecords.1 he
    obtain ⟨r, rest, hw⟩ := Record.exists_withBody_eq_cons (List.mem_of_getElem? hr)
    rw [he, Entry.summary, hw, List.map_cons, List.eraseDups_cons]
    exact List.cons_ne_nil _ _
  triggers_nodup := by
    intro e he
    obtain ⟨rank, -, he⟩ := mem_entries_ofRecords.1 he
    rw [he]
    exact nodup_eraseDups _
  get?_eq_some := by
    intro body e
    -- no key is repeated, so that a lookup finds what is in the table
    rw [get?, lookup_eq_some_iff_mem (nodup_keys_ofRecords rs), mem_slots_ofRecords,
      mem_entries_ofRecords]
    constructor
    · rintro ⟨rank, hr, he⟩
      have hb : e.body = body := congrArg Entry.body he
      exact ⟨⟨rank, by rw [hb, hr], by rw [hb, ← he]⟩, hb⟩
    · rintro ⟨⟨rank, hr, he⟩, rfl⟩
      exact ⟨rank, hr, he⟩
  get?_eq_none := by
    intro body
    rw [get?, ofRecords, Builder.foldl_add, Builder.lookup_summary_eq_none_iff, Record.mem_bodies]
    simp

/-- The index of files summarizes the records of the files in load order, whatever the files hold
and in whatever order they are listed. -/
theorem build_summarizes (order : List Text) (files : List File) :
    IsLoadOrder order files (inLoadOrder order files) ∧
      (build order files).Summarizes
        ((inLoadOrder order files).flatMap fun f => Record.readAll f.content) :=
  ⟨isLoadOrder_inLoadOrder order files, summarizes_ofRecords (recordsOf order files)⟩

end Index

end SnippetServer.Snippet
