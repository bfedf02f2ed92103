import SnippetServer.Completion.Candidate
import SnippetServer.Proofs.Completion.Ranking
import SnippetServer.Proofs.Text.LowerCase
import Mathlib.Data.List.Basic

namespace SnippetServer.Completion

open Snippet

/-!
# Which triggers fit what is typed

What is typed and the triggers are put in lower case one by one.  So a trigger fits each of its
beginnings, but for one that ends in a `Σ` inside a word: alone that `Σ` ends the word.  A trigger
that is typed as a whole always fits, and without `İ` nothing shorter does, so it leads the order
together with those that differ from it in case only.

* `ranking typed e` — the order of the triggers of an entry for a typed text;
* `Candidate.showing ranked replacement e` — the candidate that shows them in an order;
* `IsRanking.before_of_fits` — what stands before a trigger that fits;
* `beginning_fits_iff` — when a trigger fits one of its beginnings, and what then stands before it;
  `cut_sigma_hides_trigger` — it may come late if it does not;
* `IsRanking.eq_append_of_whole` — what leads the order when a whole trigger is typed;
* `whole_trigger_leads` — the same for the candidates of an index.
-/

/-! ### What a candidate shows -/

/-- The order in which the triggers of an entry are shown for a typed text. -/
def ranking (typed : Text) (e : Entry) : List Text := rank (Text.lower typed) e.triggers

/-- The candidate of an entry that shows its triggers in some order. -/
def Candidate.showing (ranked : List Text) (replacement : Option Span) (e : Entry) : Candidate where
  label := e.label
  filterText := Text.joinWith [' '] ranked
  detail := Text.joinWith [',', ' '] ranked
  sortText := sortKey e.rank
  body := e.body
  replacement := replacement

/-- The candidate of an entry stands in its place and shows its triggers as they are ranked. -/
theorem getElem?_query {index : Index} {k : Nat} {e : Entry} (h : index.entries[k]? = some e)
    (typed : Text) :
    (query index typed)[k]? = some (Candidate.showing (ranking typed e) none e) := by
  rw [query, List.getElem?_map, h]
  rfl

/-- The triggers of an entry are shown by the rule. -/
theorem isRanking_ranking (typed : Text) (e : Entry) :
    IsRanking (Text.lower typed) e.triggers (ranking typed e) :=
  isRanking_rank (Text.lower typed) e.triggers

section

variable {typed s t : Text} {triggers ranked : List Text}

/-! ### What stands before a trigger that fits -/

/-- What stands before something with the property has it too, and is in order with it. -/
theorem Grouped.pairwise {p : Text → Bool} {le le' : Text → Text → Prop} {l : List Text}
    (h : Grouped p le le' l) : l.Pairwise fun s t => p t = true → p s = true ∧ le s t := by
  have hfirst : ∀ t ∈ l.filter p, p t = true := fun t ht => (List.mem_filter.1 ht).2
  have hsecond : ∀ t ∈ l.filter (!p ·), ¬ p t = true := fun t ht => by
    simpa using (List.mem_filter.1 ht).2
  -- both in the first group, both in the second one, or one in each
  rw [← h.split, List.pairwise_append]
  refine ⟨?_, ?_, ?_⟩
  · exact h.first.imp_of_mem fun hs _ hst _ => ⟨hfirst _ hs, hst⟩
  · exact h.second.imp_of_mem fun _ ht _ hp => absurd hp (hsecond _ ht)
  · exact fun s _ t ht hp => absurd hp (hsecond t ht)

/-- Before a trigger that fits stand only others that fit, none of them longer. -/
theorem IsRanking.before_of_fits (h : IsRanking typed triggers ranked) (hne : typed ≠ [])
    (ht : t ∈ triggers) (hfits : Fits typed t) {front back : List Text}
    (hsplit : ranked = front ++ t :: back) (hs : s ∈ front) :
    s.length ≤ t.length ∧ Fits typed s := by
  have hpairs := (h.fitting ⟨hne, t, ht, hfits⟩).pairwise
  rw [hsplit, List.pairwise_append] at hpairs
  obtain ⟨-, -, hcross⟩ := hpairs
  obtain ⟨hfit, hlen⟩ := hcross s hs t List.mem_cons_self (decide_eq_true hfits)
  exact ⟨hlen, of_decide_eq_true hfit⟩

/-! ### What leads when a whole trigger is typed -/

/-- A trigger that is typed as a whole fits. -/
theorem someFits_whole (hne : t ≠ []) (ht : t ∈ triggers) : SomeFits (Text.lower t) triggers :=
  ⟨fun h => hne (Text.lower_eq_nil_iff.1 h), t, ht, List.prefix_refl _⟩

/-- Something no longer fits a whole trigger only if it is the same up to case. -/
theorem lower_eq_iff (hs : 'İ' ∉ s) (ht : 'İ' ∉ t) :
    Text.lower s = Text.lower t ↔ Fits (Text.lower t) s ∧ s.length ≤ t.length := by
  constructor
  · intro h
    have hlen := congrArg List.length h
    rw [Text.length_lower hs, Text.length_lower ht] at hlen
    exact ⟨h ▸ List.prefix_refl _, Nat.le_of_eq hlen⟩
  · -- without `İ` lengths stay, so a prefix that is as long is the whole
    rintro ⟨hfits, hlen⟩
    refine (List.IsPrefix.eq_of_length_le hfits ?_).symm
    rwa [Text.length_lower hs, Text.length_lower ht]

/-- The same up to case leads the order of triggers without `İ`, as the list has it. -/
theorem IsRanking.filter_whole (h : IsRanking (Text.lower t) triggers ranked)
    (hdot : ∀ s ∈ triggers, 'İ' ∉ s) (ht : t ∈ triggers) :
    (ranked.filter fun s => Text.lower s = Text.lower t) =
      triggers.filter fun s => Text.lower s = Text.lower t := by
  by_cases hnil : t = []
  · -- all of them are empty, so only their number counts
    subst hnil
    have hempty : ∀ s : Text, decide (Text.lower s = Text.lower []) = decide (s = []) := fun s => by
      simp only [Text.lower_nil, Text.lower_eq_nil_iff]
    simp only [hempty]
    have hall : ∀ s ∈ triggers.filter fun s => decide (s = []), s = [] := fun s hs =>
      of_decide_eq_true (List.mem_filter.1 hs).2
    have hperm := h.perm.filter fun s => decide (s = [])
    rw [List.eq_replicate_of_mem hall] at hperm ⊢
    exact List.perm_replicate.1 hperm
  · have hsome := someFits_whole hnil ht
    -- the same up to case is what fits and has the same length, and of that the rule keeps the
    -- order
    have hsame : ∀ s ∈ triggers, decide (Text.lower s = Text.lower t) =
        decide (Fits (Text.lower t) s ∧ s.length = t.length) := by
      intro s hs
      have hst := lower_eq_iff (hdot s hs) (hdot t ht)
      have hts := lower_eq_iff (hdot t ht) (hdot s hs)
      rw [decide_eq_decide]
      constructor
      · intro heq
        exact ⟨(hst.1 heq).1, Nat.le_antisymm (hst.1 heq).2 (hts.1 heq.symm).2⟩
      · rintro ⟨hfits, hlen⟩
        exact hst.2 ⟨hfits, Nat.le_of_eq hlen⟩
    rw [List.filter_congr hsame,
      List.filter_congr fun s hs => hsame s (h.perm.subset hs)]
    exact h.stable hsome t.length

/-- Typing a whole trigger puts the triggers that are the same up to case in front. -/
theorem IsRanking.eq_append_of_whole (h : IsRanking (Text.lower t) triggers ranked)
    (hdot : ∀ s ∈ triggers, 'İ' ∉ s) (ht : t ∈ triggers) :
    (triggers.filter fun s => Text.lower s = Text.lower t) ++
      (ranked.filter fun s => !decide (Text.lower s = Text.lower t)) = ranked := by
  rw [← h.filter_whole hdot ht]
  refine filter_append_filter_of_pairwise ?_
  by_cases hnil : t = []
  · subst hnil
    have hnone : ¬ SomeFits (Text.lower []) triggers := fun hsome => hsome.1 rfl
    refine (h.unfitting hnone).pairwise.imp fun {s s'} hs hs' => ?_
    -- an empty trigger is in ASCII, and nothing is shorter
    rw [decide_eq_true_eq, Text.lower_nil, Text.lower_eq_nil_iff] at hs' ⊢
    subst hs'
    obtain ⟨-, hlt | ⟨hlen, -⟩⟩ := hs (by simp [InAscii])
    · simp at hlt
    · exact List.length_eq_zero_iff.1 hlen
  · have hsome := someFits_whole hnil ht
    refine (h.fitting hsome).pairwise.imp_of_mem fun {s s'} hs hs' hpair hsame => ?_
    have hdots := hdot s (h.perm.subset hs)
    have hdots' := hdot s' (h.perm.subset hs')
    rw [decide_eq_true_eq] at hsame ⊢
    obtain ⟨hfits', hlen'⟩ := (lower_eq_iff hdots' (hdot t ht)).1 hsame
    obtain ⟨hfits, hlen⟩ := hpair (decide_eq_true hfits')
    exact (lower_eq_iff hdots (hdot t ht)).2 ⟨of_decide_eq_true hfits, Nat.le_trans hlen hlen'⟩

end

/-! ### The candidates of an index -/

section

variable {index : Index} {k : Nat} {e : Entry}

/-- **Typing the beginning of a trigger.**  A trigger fits one of its beginnings exactly if no `Σ`
inside a word is cut off.  If it fits, all triggers that are shown before it fit as well, and none
of them is longer. -/
theorem beginning_fits_iff (he : index.entries[k]? = some e) {u rest : Text} (hu : u ≠ [])
    (ht : u ++ rest ∈ e.triggers) :
    (query index u)[k]? = some (Candidate.showing (ranking u e) none e) ∧
      (ranking u e).Perm e.triggers ∧
      (Fits (Text.lower u) (u ++ rest) ↔ ¬ Text.SplitsSigma [] u rest) ∧
      (¬ Text.SplitsSigma [] u rest → ∀ front back, ranking u e = front ++ (u ++ rest) :: back →
        ∀ s ∈ front, s.length ≤ (u ++ rest).length ∧ Fits (Text.lower u) s) := by
  have hrule := isRanking_ranking u e
  have hlower : Text.lower u ≠ [] := fun h => hu (Text.lower_eq_nil_iff.1 h)
  refine ⟨getElem?_query he u, hrule.perm, Text.lower_prefix_iff, ?_⟩
  intro hcut front back hsplit s hs
  exact hrule.before_of_fits hlower ht (Text.lower_prefix_iff.2 hcut) hsplit hs

/-- **Typing a whole trigger.**  If no trigger of an entry holds an `İ`, those that are the typed
one up to case lead the order, as they were met, and all others follow. -/
theorem whole_trigger_leads (he : index.entries[k]? = some e) (hdot : ∀ s ∈ e.triggers, 'İ' ∉ s)
    {t : Text} (ht : t ∈ e.triggers) :
    (query index t)[k]? = some (Candidate.showing (ranking t e) none e) ∧
      t ∈ (e.triggers.filter fun s => Text.lower s = Text.lower t) ∧
      ∃ others, ranking t e =
          (e.triggers.filter fun s => Text.lower s = Text.lower t) ++ others ∧
        others.Perm (e.triggers.filter fun s => !decide (Text.lower s = Text.lower t)) := by
  have hrule := isRanking_ranking t e
  refine ⟨getElem?_query he t, by simp [ht], _, (hrule.eq_append_of_whole hdot ht).symm, ?_⟩
  exact hrule.perm.filter _

end

namespace GreekTriggers

/-- One body under four triggers; two of them are the same up to case. -/
def file : File :=
  ⟨"a".toList, "#t=L\n#g=ab\nx\n#t=L\n#g=ΑΣΑ\nx\n#t=L\n#g=ασ\nx\n#t=L\n#g=ΑΣα\nx\n".toList⟩

/-- The index of the file. -/
def index : Index := Index.build defaultLoadOrder [file]

/-- Its entry. -/
def entry : Entry :=
  ⟨['L'], ["ab".toList, "ΑΣΑ".toList, "ασ".toList, "ΑΣα".toList], 0, ['x']⟩

/-- The triggers are met in the order of the file. -/
theorem getElem?_index : index.entries[0]? = some entry := by
  rw [index, Index.build, Index.recordsOf, inLoadOrder, List.mergeSort_singleton]
  rfl

end GreekTriggers

open GreekTriggers in
/-- With one letter typed, what is shown before `ΑΣΑ` begins with that letter, too. -/
theorem beginning_fits_iff_letter :
    index.entries[0]? = some entry ∧ "Α".toList ++ "ΣΑ".toList ∈ entry.triggers ∧
      Fits (Text.lower "Α".toList) ("Α".toList ++ "ΣΑ".toList) ∧
      ranking "Α".toList entry =
        ["ασ".toList] ++ ("Α".toList ++ "ΣΑ".toList) :: ["ΑΣα".toList, "ab".toList] ∧
      ∀ s ∈ ["ασ".toList], s.length ≤ ("Α".toList ++ "ΣΑ".toList).length ∧
        Fits (Text.lower "Α".toList) s := by
  have hmem : "Α".toList ++ "ΣΑ".toList ∈ entry.triggers := by decide
  have hcut : ¬ Text.SplitsSigma [] "Α".toList "ΣΑ".toList := by
    rw [← Text.lower_prefix_iff]
    decide
  have hshown : ranking "Α".toList entry =
      ["ασ".toList] ++ ("Α".toList ++ "ΣΑ".toList) :: ["ΑΣα".toList, "ab".toList] := by
    rw [ranking, rank_eq_insertionSort]
    rfl
  obtain ⟨-, -, hfits, hbefore⟩ := beginning_fits_iff getElem?_index (by decide) hmem
  exact ⟨getElem?_index, hmem, hfits.2 hcut, hshown, hbefore hcut _ _ hshown⟩

open GreekTriggers in
/-- A `Σ` inside a word that is cut off hides the trigger: `ΑΣ` becomes `ας` and `ΑΣΑ` becomes
`ασα`, so nothing fits, and the order is the one for a text that nothing fits. -/
theorem cut_sigma_hides_trigger :
    ¬ ∀ (order : List Text) (files : List File), ∀ e ∈ (Index.build order files).entries,
      ∀ u rest : Text, u ≠ [] → u ++ rest ∈ e.triggers →
        ∀ front back, ranking u e = front ++ (u ++ rest) :: back →
          ∀ s ∈ front, s.length ≤ (u ++ rest).length ∧ Fits (Text.lower u) s := by
  intro h
  have hmem : entry ∈ (Index.build defaultLoadOrder [file]).entries :=
    List.mem_of_getElem? getElem?_index
  have hshown : ranking "ΑΣ".toList entry =
      ["ab".toList, "ασ".toList] ++ ("ΑΣ".toList ++ "Α".toList) :: ["ΑΣα".toList] := by
    rw [ranking, rank_eq_insertionSort]
    rfl
  have hab := (h _ _ entry hmem "ΑΣ".toList "Α".toList (by decide) (by decide) _ _ hshown
    "ab".toList (by decide)).2
  revert hab
  decide

open GreekTriggers in
/-- Both spellings of the typed trigger come first, as they were met. -/
theorem whole_trigger_leads_spellings :
    index.entries[0]? = some entry ∧ (∀ s ∈ entry.triggers, 'İ' ∉ s) ∧
      "ΑΣα".toList ∈ entry.triggers ∧
      (entry.triggers.filter fun s => Text.lower s = Text.lower "ΑΣα".toList) =
        ["ΑΣΑ".toList, "ΑΣα".toList] ∧
      ∃ others, ranking "ΑΣα".toList entry =
          (entry.triggers.filter fun s => Text.lower s = Text.lower "ΑΣα".toList) ++ others ∧
        others.Perm ["ab".toList, "ασ".toList] := by
  have hdot : ∀ s ∈ entry.triggers, 'İ' ∉ s := by decide
  have hmem : "ΑΣα".toList ∈ entry.triggers := by decide
  obtain ⟨-, -, others, hshown, hothers⟩ := whole_trigger_leads getElem?_index hdot hmem
  refine ⟨getElem?_index, hdot, hmem, rfl, others, hshown, ?_⟩
  have hrest : (entry.triggers.filter fun s =>
      !decide (Text.lower s = Text.lower "ΑΣα".toList)) = ["ab".toList, "ασ".toList] := rfl
  rwa [hrest] at hothers

end SnippetServer.Completion
