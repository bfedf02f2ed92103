import SnippetServer.Completion.Token
import SnippetServer.Text.LowerCase
import SnippetServer.Text.Order

namespace SnippetServer.Completion

/-!
# Ranking triggers

The triggers of an entry are put in an order that shows the best one first.  When something is
typed and some trigger begins with it, up to case, those triggers come first, shortest first, and
the others follow by length and text.  When nothing is typed, or nothing fits, ASCII triggers come
before all others, each group by length and text.

* `begins typed trigger` — whether a trigger begins with what is typed;
* `rank` — the order.
-/

/-- Whether a trigger begins with the typed text, which is in lower case already. -/
def begins (typed trigger : Text) : Bool := typed.isPrefixOf (Text.lower trigger)

/-- Whether every character is an ASCII character. -/
def isAsciiText (t : Text) : Bool := t.all isAscii

/-- ASCII texts first, then by length, then by code points. -/
def asciiFirst (s t : Text) : Bool :=
  (isAsciiText s && !isAsciiText t) ||
    (isAsciiText s == isAsciiText t && Text.shorterFirst s t)

/-- The triggers that what is typed selects: none if nothing is typed. -/
def selected (typed : Text) (triggers : List Text) : List Text :=
  if typed.isEmpty then [] else triggers.filter (begins typed)

/-- The triggers in the order in which they are shown.  Selected triggers of one length keep the
order that they have in the list. -/
def rank (typed : Text) (triggers : List Text) : List Text :=
  match selected typed triggers with
  | [] => triggers.mergeSort asciiFirst
  | chosen =>
    chosen.mergeSort Text.noLonger ++
      (triggers.filter fun t => !begins typed t).mergeSort Text.shorterFirst

@[simp] theorem selected_nil_typed (triggers : List Text) : selected [] triggers = [] := rfl

/-- A trigger is selected when something is typed and the trigger begins with it. -/
theorem mem_selected {typed trigger : Text} {triggers : List Text} :
    trigger ∈ selected typed triggers ↔
      typed ≠ [] ∧ trigger ∈ triggers ∧ begins typed trigger = true := by
  cases typed <;> simp [selected]

end SnippetServer.Completion
