import Turnstile.Chat.Event
/-!
# Tokens — events up to how text is cut

Where text is cut into tokens is a matter of how it arrived. With adjacent
tokens joined (`joined`) two streams that differ in nothing else are the
same: the pieces of a text may be replaced by the text (`joined_pieces`),
whatever stands around them (`joined_append_congr`).
-/

namespace Turnstile

namespace ChatEvent

/-- An event put before others, joined to the first of them where both are
tokens. -/
def joinCons : ChatEvent → List ChatEvent → List ChatEvent
  | .token s, .token t :: es => .token (s ++ t) :: es
  | e, es => e :: es

/-- Adjacent tokens joined to one. -/
def joined : List ChatEvent → List ChatEvent
  | [] => []
  | e :: es => joinCons e (joined es)

/-- The token of a text, if there is any text. -/
def ofText (text : String) : List ChatEvent := if text.isEmpty then [] else [.token text]

theorem ofText_empty : ofText "" = [] := rfl

theorem ofText_of_ne {text : String} (h : text ≠ "") : ofText text = [.token text] := by
  rw [ofText, if_neg (by simpa using h)]

/-- What comes after may be replaced by what is the same once joined. -/
theorem joined_append_congr {es es' : List ChatEvent} (h : joined es = joined es')
    (before : List ChatEvent) : joined (before ++ es) = joined (before ++ es') := by
  induction before with
  | nil => exact h
  | cons e before ih => rw [List.cons_append, List.cons_append, joined, joined, ih]

/-- Two tokens before events are one token before them. -/
theorem joinCons_joinCons (s t : String) (es : List ChatEvent) :
    joinCons (.token s) (joinCons (.token t) es) = joinCons (.token (s ++ t)) es := by
  cases es with
  | nil => rfl
  | cons e es =>
    cases e with
    | token u => simp only [joinCons, String.append_assoc]
    | toolCall | done | error => rfl

/-- A text cut in two. -/
theorem joined_ofText_append (s t : String) (es : List ChatEvent) :
    joined (ofText s ++ (ofText t ++ es)) = joined (ofText (s ++ t) ++ es) := by
  by_cases hs : s = ""
  · subst hs
    rw [ofText_empty, String.empty_append, List.nil_append]
  · by_cases ht : t = ""
    · subst ht
      rw [ofText_empty, String.append_empty, List.nil_append]
    · have hst : s ++ t ≠ "" := by simp [hs]
      rw [ofText_of_ne hs, ofText_of_ne ht, ofText_of_ne hst]
      exact joinCons_joinCons s t (joined es)

/-- **A text cut into any pieces**, empty ones too. -/
theorem joined_pieces (pieces : List String) (es : List ChatEvent) :
    joined (pieces.flatMap ofText ++ es) = joined (ofText (String.join pieces) ++ es) := by
  induction pieces with
  | nil => rfl
  | cons s pieces ih =>
    rw [List.flatMap_cons, List.append_assoc, joined_append_congr ih, joined_ofText_append,
      String.join_cons]

end ChatEvent

end Turnstile
