import SnippetServer.Completion.Ranking
import SnippetServer.Proofs.Sorting
import Mathlib.Data.List.Forall2

namespace SnippetServer.Completion

/-!
# The order of triggers

The triggers that begin with what is typed come first, by length only, and those of one length in
the order of the list; the others follow by length and text.  Without such triggers those in ASCII
come first, and both groups go by length and text.

* `NotAfter s t` — the order by length and text;
* `Fits typed t`, `SomeFits typed triggers` — whether triggers begin with what is typed;
* `InAscii t` — whether a text is in ASCII;
* `Grouped p le le' l` — a list in two groups, each in its own order;
* `IsRanking typed triggers ranked` — the whole rule, and `isRanking_rank` that the ranking follows
  it;
* `IsRanking.eq_of_perm`, `IsRanking.agree_of_perm` — what of a ranking depends on the order of the
  list;
* `rank_follows_rule` — both, for the rankings of any list.
-/

/-! ### The rule -/

/-- The first text is shorter, or both have one length and the first one comes no later by code
points. -/
def NotAfter (s t : Text) : Prop :=
  s.length < t.length ∨
    s.length = t.length ∧ (s = t ∨ List.Lex (fun a b => a.toNat < b.toNat) s t)

/-- A trigger begins with what is typed when it is in lower case. -/
def Fits (typed trigger : Text) : Prop := typed <+: Text.lower trigger

instance (typed trigger : Text) : Decidable (Fits typed trigger) :=
  inferInstanceAs (Decidable (_ <+: _))

/-- All characters of a text are in ASCII. -/
def InAscii (t : Text) : Prop := ∀ c ∈ t, c.toNat < 0x80

instance (t : Text) : Decidable (InAscii t) :=
  List.decidableBAll (fun c : Char => c.toNat < 0x80) t

/-- Something is typed, and some trigger begins with it. -/
def SomeFits (typed : Text) (triggers : List Text) : Prop :=
  typed ≠ [] ∧ ∃ t ∈ triggers, Fits typed t

/-- What has a property comes before everything else, and both groups are in order. -/
structure Grouped (p : Text → Bool) (le le' : Text → Text → Prop) (l : List Text) : Prop where
  /-- The two groups, one behind the other. -/
  split : l.filter p ++ l.filter (!p ·) = l
  /-- The order of the first group. -/
  first : (l.filter p).Pairwise le
  /-- The order of the second group. -/
  second : (l.filter (!p ·)).Pairwise le'

/-- The rule by which triggers are ranked. -/
structure IsRanking (typed : Text) (triggers ranked : List Text) : Prop where
  /-- No trigger is lost, made up or repeated. -/
  perm : ranked.Perm triggers
  /-- If some trigger fits, those come first, by length, and the others by length and text. -/
  fitting : SomeFits typed triggers →
    Grouped (fun t => Fits typed t) (fun s t => s.length ≤ t.length) NotAfter ranked
  /-- If some trigger fits, those of one length keep the order of the list. -/
  stable : SomeFits typed triggers → ∀ n,
    (ranked.filter fun t => Fits typed t ∧ t.length = n) =
      triggers.filter fun t => Fits typed t ∧ t.length = n
  /-- If none fits, those in ASCII come first, and both groups go by length and text. -/
  unfitting : ¬ SomeFits typed triggers →
    Grouped (fun t => InAscii t) NotAfter NotAfter ranked

/-! ### The orders that are sorted by -/

/-- By length and text is an order by a number and then by another order. -/
theorem shorterFirst_eq :
    Text.shorterFirst = byKeyThen List.length Text.precedes := rfl

/-- The order that is sorted by is the one of the rule. -/
theorem shorterFirst_iff {s t : Text} : Text.shorterFirst s t = true ↔ NotAfter s t := by
  rw [shorterFirst_eq, byKeyThen_iff, Text.precedes_iff, NotAfter]

/-- The order by length and text is transitive. -/
theorem shorterFirst_trans (s t u : Text) (hst : Text.shorterFirst s t = true)
    (htu : Text.shorterFirst t u = true) : Text.shorterFirst s u = true :=
  byKeyThen_trans Text.precedes_trans s t u hst htu

/-- Of two texts one comes no later by length and text. -/
theorem shorterFirst_total (s t : Text) :
    (Text.shorterFirst s t || Text.shorterFirst t s) = true :=
  byKeyThen_total Text.precedes_total s t

/-- Only one text stands at one place of the order by length and text. -/
theorem NotAfter.antisymm {s t : Text} (h : NotAfter s t) (h' : NotAfter t s) : s = t := by
  rw [← shorterFirst_iff, shorterFirst_eq] at h h'
  obtain ⟨hst, hts⟩ := byKeyThen_antisymm h h'
  exact Text.precedes_antisymm s t hst hts

/-- The order by length is transitive. -/
theorem noLonger_trans (s t u : Text) (hst : Text.noLonger s t = true)
    (htu : Text.noLonger t u = true) : Text.noLonger s u = true := by
  simp only [Text.noLonger, decide_eq_true_eq] at hst htu ⊢
  omega

/-- Of two texts one is no longer. -/
theorem noLonger_total (s t : Text) : (Text.noLonger s t || Text.noLonger t s) = true := by
  simp only [Text.noLonger, Bool.or_eq_true, decide_eq_true_eq]
  omega

/-- ASCII first is an order by a number, too. -/
theorem asciiFirst_eq :
    asciiFirst = byKeyThen (fun t => if isAsciiText t then 0 else 1) Text.shorterFirst := by
  funext s t
  -- the four cases of two texts in ASCII or not
  cases hs : isAsciiText s <;> cases ht : isAsciiText t <;> simp [asciiFirst, byKeyThen, hs, ht]

/-- The order with ASCII first is transitive. -/
theorem asciiFirst_trans (s t u : Text) (hst : asciiFirst s t = true)
    (htu : asciiFirst t u = true) : asciiFirst s u = true := by
  rw [asciiFirst_eq] at hst htu ⊢
  exact byKeyThen_trans shorterFirst_trans s t u hst htu

/-- Of two texts one comes no later with ASCII first. -/
theorem asciiFirst_total (s t : Text) : (asciiFirst s t || asciiFirst t s) = true := by
  rw [asciiFirst_eq]
  exact byKeyThen_total shorterFirst_total s t

/-- The test for ASCII decides that all characters are in ASCII. -/
theorem isAsciiText_eq_decide (t : Text) : isAsciiText t = decide (InAscii t) := by
  rw [← Bool.coe_iff_coe, decide_eq_true_eq]
  simp [isAsciiText, isAscii, InAscii]

/-- The test of a trigger decides whether it fits. -/
theorem begins_eq_decide (typed t : Text) : begins typed t = decide (Fits typed t) := by
  rw [← Bool.coe_iff_coe, decide_eq_true_eq, begins, List.isPrefixOf_iff_prefix, Fits]

/-! ### The ranking follows the rule -/

/-- If some trigger fits, those that fit are sorted by length and the others by length and text. -/
theorem rank_of_someFits {typed : Text} {triggers : List Text} (h : SomeFits typed triggers) :
    rank typed triggers =
      (triggers.filter fun t => Fits typed t).mergeSort Text.noLonger ++
        (triggers.filter fun t => !decide (Fits typed t)).mergeSort Text.shorterFirst := by
  obtain ⟨hne, t, ht, hfit⟩ := h
  have hselected : selected typed triggers = triggers.filter fun t => Fits typed t := by
    rw [selected, if_neg (by simpa using hne)]
    exact List.filter_congr fun t _ => begins_eq_decide typed t
  -- so something is selected, and the first branch is out
  have hmem : t ∈ triggers.filter fun t => Fits typed t := by simp [ht, hfit]
  unfold rank
  split
  · rename_i hnil
    rw [← hselected, hnil] at hmem
    cases hmem
  · simp only [hselected, begins_eq_decide]

/-- If none fits, all are sorted with ASCII first. -/
theorem rank_of_not_someFits {typed : Text} {triggers : List Text}
    (h : ¬ SomeFits typed triggers) : rank typed triggers = triggers.mergeSort asciiFirst := by
  have hselected : selected typed triggers = [] := by
    -- whatever were selected would fit
    rw [List.eq_nil_iff_forall_not_mem]
    intro t ht
    obtain ⟨hne, hmem, hbegins⟩ := mem_selected.1 ht
    rw [begins_eq_decide, decide_eq_true_eq] at hbegins
    exact h ⟨hne, t, hmem, hbegins⟩
  rw [rank, hselected]

/-- The ranking as it can be computed, with each trigger put in its place after the other. -/
theorem rank_eq_insertionSort (typed : Text) (triggers : List Text) :
    rank typed triggers =
      if selected typed triggers = [] then
        triggers.insertionSort fun s t => asciiFirst s t = true
      else
        (selected typed triggers).insertionSort (fun s t => Text.noLonger s t = true) ++
          (triggers.filter fun t => !begins typed t).insertionSort
            fun s t => Text.shorterFirst s t = true := by
  rw [rank, ← mergeSort_eq_insertionSort asciiFirst_trans asciiFirst_total,
    ← mergeSort_eq_insertionSort noLonger_trans noLonger_total,
    ← mergeSort_eq_insertionSort shorterFirst_trans shorterFirst_total]
  split
  · rename_i hnil
    rw [if_pos hnil]
  · rename_i hnil
    rw [if_neg hnil]

/-- Two lists, one of which has a property and the other of which has it nowhere, are two groups. -/
theorem Grouped.append {p : Text → Bool} {le le' : Text → Text → Prop} {front back : List Text}
    (hfront : ∀ t ∈ front, p t = true) (hback : ∀ t ∈ back, p t = false)
    (h : front.Pairwise le) (h' : back.Pairwise le') : Grouped p le le' (front ++ back) := by
  have hp : (front ++ back).filter p = front := by
    rw [List.filter_append, List.filter_eq_self.2 hfront, List.filter_eq_nil_iff.2, List.append_nil]
    exact fun t ht => by simp [hback t ht]
  have hnp : (front ++ back).filter (!p ·) = back := by
    rw [List.filter_append, List.filter_eq_nil_iff.2 fun t ht => by simp [hfront t ht],
      List.nil_append, List.filter_eq_self]
    exact fun t ht => by simp [hback t ht]
  exact ⟨by rw [hp, hnp], by rwa [hp], by rwa [hnp]⟩

/-- The ranking of a list with triggers that fit. -/
theorem grouped_rank_of_someFits {typed : Text} {triggers : List Text}
    (h : SomeFits typed triggers) :
    Grouped (fun t => Fits typed t) (fun s t => s.length ≤ t.length) NotAfter
      (rank typed triggers) := by
  rw [rank_of_someFits h]
  refine Grouped.append ?_ ?_ ?_ ?_
  · intro t ht
    exact (List.mem_filter.1 (List.mem_mergeSort.1 ht)).2
  · intro t ht
    simpa using (List.mem_filter.1 (List.mem_mergeSort.1 ht)).2
  · have hsorted := List.pairwise_mergeSort noLonger_trans noLonger_total
    exact (hsorted _).imp fun hst => of_decide_eq_true hst
  · have hsorted := List.pairwise_mergeSort shorterFirst_trans shorterFirst_total
    exact (hsorted _).imp shorterFirst_iff.1

/-- The ranking of a list in which nothing fits. -/
theorem grouped_rank_of_not_someFits {typed : Text} {triggers : List Text}
    (h : ¬ SomeFits typed triggers) :
    Grouped (fun t => InAscii t) NotAfter NotAfter (rank typed triggers) := by
  simp only [← isAsciiText_eq_decide]
  rw [rank_of_not_someFits h]
  have hsorted := List.pairwise_mergeSort asciiFirst_trans asciiFirst_total triggers
  -- in either group the first part of the order ties, so that the second one decides
  have hgroup : ∀ q : Text → Bool, (∀ s t, q s = true → q t = true →
      isAsciiText s = isAsciiText t) →
      ((triggers.mergeSort asciiFirst).filter q).Pairwise NotAfter := by
    intro q hq
    refine (hsorted.filter q).imp_of_mem fun {s t} hs ht hst => ?_
    have heq := hq s t (List.mem_filter.1 hs).2 (List.mem_filter.1 ht).2
    rw [asciiFirst, heq] at hst
    exact shorterFirst_iff.1 (by simpa using hst)
  refine ⟨filter_append_filter_of_pairwise (hsorted.imp fun {s t} hst ht => ?_), ?_, ?_⟩
  · by_contra hs
    simp [asciiFirst, ht, hs] at hst
  · exact hgroup _ fun s t hs ht => hs.trans ht.symm
  · exact hgroup _ fun s t hs ht => by simpa using hs.trans ht.symm

/-- **The ranking follows the rule.**  Nothing is asked of the triggers, nor of what is typed. -/
theorem isRanking_rank (typed : Text) (triggers : List Text) :
    IsRanking typed triggers (rank typed triggers) where
  perm := by
    by_cases h : SomeFits typed triggers
    · rw [rank_of_someFits h]
      have hperm := (List.mergeSort_perm (triggers.filter fun t => Fits typed t)
        Text.noLonger).append (List.mergeSort_perm
          (triggers.filter fun t => !decide (Fits typed t)) Text.shorterFirst)
      exact hperm.trans (List.filter_append_perm _ triggers)
    · rw [rank_of_not_someFits h]
      exact List.mergeSort_perm triggers asciiFirst
  fitting := grouped_rank_of_someFits
  stable := by
    intro h n
    have hties : ∀ s t : Text, decide (Fits typed s ∧ s.length = n) = true →
        decide (Fits typed t ∧ t.length = n) = true → Text.noLonger s t = true := by
      intro s t hs ht
      simp only [decide_eq_true_eq] at hs ht
      exact decide_eq_true (by omega)
    -- nothing that fits is among the others
    have hnone : ((triggers.filter fun t => !decide (Fits typed t)).mergeSort
        Text.shorterFirst).filter (fun t => Fits typed t ∧ t.length = n) = [] := by
      rw [List.filter_eq_nil_iff]
      intro t ht hfit
      have hnot := (List.mem_filter.1 (List.mem_mergeSort.1 ht)).2
      rw [Bool.not_eq_true', decide_eq_false_iff_not] at hnot
      exact hnot (of_decide_eq_true hfit).1
    rw [rank_of_someFits h, List.filter_append, hnone, List.append_nil,
      filter_mergeSort noLonger_trans noLonger_total _ hties, List.filter_filter]
    refine List.filter_congr fun t _ => ?_
    simpa using fun hfit _ => hfit
  unfitting := grouped_rank_of_not_someFits

/-! ### What depends on the order of the list -/

section

variable {typed : Text} {triggers triggers' ranked ranked' : List Text}

/-- Whether some trigger fits does not depend on the order of the list. -/
theorem someFits_congr (h : triggers'.Perm triggers) :
    SomeFits typed triggers' ↔ SomeFits typed triggers := by
  simp only [SomeFits, h.mem_iff]

/-- Two lists with the same members whose order decides on them are the same. -/
theorem eq_of_notAfter {l l' : List Text} (h : l.Pairwise NotAfter) (h' : l'.Pairwise NotAfter)
    (hperm : l'.Perm l) : l' = l :=
  hperm.eq_of_pairwise (fun _ _ _ _ => NotAfter.antisymm) h' h

/-- Two lists with the same members that go by length have the same lengths in all places. -/
theorem forall₂_length_of_perm {l l' : List Text}
    (h : l.Pairwise fun s t => s.length ≤ t.length)
    (h' : l'.Pairwise fun s t => s.length ≤ t.length) (hperm : l'.Perm l) :
    List.Forall₂ (fun s t => s.length = t.length) l' l := by
  have hlengths : l'.map List.length = l.map List.length :=
    (hperm.map List.length).eq_of_pairwise (fun _ _ _ _ => Nat.le_antisymm)
      (List.pairwise_map.2 h') (List.pairwise_map.2 h)
  rwa [← List.forall₂_eq_eq_eq, List.forall₂_map_left_iff, List.forall₂_map_right_iff] at hlengths

/-- If nothing fits, the order of the list does not matter. -/
theorem IsRanking.eq_of_perm (h : IsRanking typed triggers ranked)
    (h' : IsRanking typed triggers' ranked') (hperm : triggers'.Perm triggers)
    (hfits : ¬ SomeFits typed triggers) : ranked' = ranked := by
  have hg := h.unfitting hfits
  have hg' := h'.unfitting fun hsome => hfits ((someFits_congr hperm).1 hsome)
  have hranked : ranked'.Perm ranked := h'.perm.trans (hperm.trans h.perm.symm)
  rw [← hg.split, ← hg'.split, eq_of_notAfter hg.first hg'.first (hranked.filter _),
    eq_of_notAfter hg.second hg'.second (hranked.filter _)]

/-- Two rankings have the same trigger in every place, or two of one length that both fit. -/
def AgreeUpToTies (typed : Text) : List Text → List Text → Prop :=
  List.Forall₂ fun s t => s = t ∨ Fits typed s ∧ Fits typed t ∧ s.length = t.length

/-- The order of the list matters only among triggers of one length that fit. -/
theorem IsRanking.agree_of_perm (h : IsRanking typed triggers ranked)
    (h' : IsRanking typed triggers' ranked') (hperm : triggers'.Perm triggers) :
    AgreeUpToTies typed ranked' ranked := by
  have hrefl : ∀ l : List Text, AgreeUpToTies typed l l := fun l =>
    List.forall₂_same.2 fun t _ => Or.inl rfl
  by_cases hfits : SomeFits typed triggers
  · have hg := h.fitting hfits
    have hg' := h'.fitting ((someFits_congr hperm).2 hfits)
    have hranked : ranked'.Perm ranked := h'.perm.trans (hperm.trans h.perm.symm)
    rw [← hg.split, ← hg'.split, eq_of_notAfter hg.second hg'.second (hranked.filter _)]
    refine List.rel_append ?_ (hrefl _)
    obtain ⟨hlen, hties⟩ := List.forall₂_iff_zip.1
      (forall₂_length_of_perm hg.first hg'.first (hranked.filter _))
    refine List.forall₂_iff_zip.2 ⟨hlen, fun {s t} hst => Or.inr ?_⟩
    obtain ⟨hs, ht⟩ := List.of_mem_zip hst
    exact ⟨of_decide_eq_true (List.mem_filter.1 hs).2, of_decide_eq_true (List.mem_filter.1 ht).2,
      hties hst⟩
  · rw [h.eq_of_perm h' hperm hfits]
    exact hrefl ranked

end

/-- **The ranking of triggers.**  A list of triggers is ranked by the rule.  If nothing fits, the
order of the list does not matter, and otherwise it matters only among triggers of one length that
fit. -/
theorem rank_follows_rule (typed : Text) (triggers : List Text) :
    IsRanking typed triggers (rank typed triggers) ∧
      ∀ shuffled : List Text, shuffled.Perm triggers →
        (¬ SomeFits typed triggers → rank typed shuffled = rank typed triggers) ∧
          AgreeUpToTies typed (rank typed shuffled) (rank typed triggers) := by
  refine ⟨isRanking_rank typed triggers, fun shuffled hperm => ?_⟩
  have h := isRanking_rank typed triggers
  have h' := isRanking_rank typed shuffled
  exact ⟨h.eq_of_perm h' hperm, h.agree_of_perm h' hperm⟩

namespace RankedTriggers

/-- Three triggers that fit `a`, two of one length, and two that do not. -/
def triggers : List Text := ["Abc".toList, "x".toList, "aé".toList, "á".toList, "AB".toList]

/-- The same triggers in another order. -/
def shuffled : List Text := ["AB".toList, "á".toList, "aé".toList, "x".toList, "Abc".toList]

end RankedTriggers

open RankedTriggers in
/-- What fits keeps its order among triggers of one length; what fits nothing goes by the rule. -/
theorem rank_follows_rule_shuffled :
    shuffled.Perm triggers ∧ ¬ SomeFits ['z'] triggers ∧
      rank ['z'] shuffled = rank ['z'] triggers ∧
      AgreeUpToTies ['a'] (rank ['a'] shuffled) (rank ['a'] triggers) ∧
      rank ['z'] triggers =
        ["x".toList, "AB".toList, "Abc".toList, "á".toList, "aé".toList] ∧
      rank ['a'] triggers =
        ["aé".toList, "AB".toList, "Abc".toList, "x".toList, "á".toList] ∧
      rank ['a'] shuffled =
        ["AB".toList, "aé".toList, "Abc".toList, "x".toList, "á".toList] := by
  have hperm : shuffled.Perm triggers := by decide
  have hnone : ¬ SomeFits ['z'] triggers := by
    rintro ⟨-, t, ht, hfit⟩
    revert t
    decide
  refine ⟨hperm, hnone, ((rank_follows_rule ['z'] triggers).2 shuffled hperm).1 hnone,
    ((rank_follows_rule ['a'] triggers).2 shuffled hperm).2, ?_, ?_, ?_⟩
  all_goals
    rw [rank_eq_insertionSort]
    rfl

end SnippetServer.Completion
