import Turnstile.Stream.Pump
/-!
# Answers — a run of a normalizer, line by line

A run is the list of what is answered to each line and, last, to the end.
Keeping the answers apart says for which line an event is emitted
(`numberedCalls`).
-/

namespace Turnstile

namespace ChatEvent

/-- The call of an event. -/
def call? : ChatEvent → Option ToolCall
  | .toolCall call => some call
  | _ => none

@[simp] theorem filterMap_call?_map (calls : List ToolCall) :
    (calls.map ChatEvent.toolCall).filterMap call? = calls := by
  rw [List.filterMap_map]
  exact List.filterMap_some

/-- The calls among answers, each with the number of the line it is
emitted for. The first answer is to the line `n`. -/
def numberedCalls (n : Nat) : List (List ChatEvent) → List (Nat × ToolCall)
  | [] => []
  | es :: rest => (es.filterMap call?).map (n, ·) ++ numberedCalls (n + 1) rest

end ChatEvent

/-! ## Data lines -/

namespace Text

theorem stripList?_append (lead rest : List Char) : stripList? lead (lead ++ rest) = some rest := by
  induction lead with
  | nil => rfl
  | cons c lead ih => rw [List.cons_append, stripList?, if_pos rfl, ih]

theorem strip?_append (lead rest : String) : strip? lead (lead ++ rest) = some rest := by
  rw [strip?, String.toList_append, stripList?_append, Option.map_some, String.ofList_toList]

theorem stripList?_eq_none_iff {lead cs : List Char} :
    stripList? lead cs = none ↔ ¬ lead <+: cs := by
  fun_induction stripList? lead cs with
  | case1 cs => simp
  | case2 c lead => simp
  | case3 c lead cs ih => simp [List.cons_prefix_cons, ih]
  | case4 c lead d cs hne => simp [List.cons_prefix_cons, hne]

end Text

/-- A data line has its payload. -/
theorem EventLine.data?_append (payload : String) : data? ("data: " ++ payload) = some payload := by
  have hlead : "data: " ++ payload = "data:" ++ (" " ++ payload) := by
    rw [← String.append_assoc]
    exact congrArg (· ++ payload) (by decide)
  rw [data?, hlead, Text.strip?_append, Option.map_some, Text.strip?_append, Option.getD_some]

/-- And only a line that begins with the name of the field has one. -/
theorem EventLine.data?_eq_none_iff {line : String} :
    data? line = none ↔ ¬ "data:".toList <+: line.toList := by
  rw [data?, Option.map_eq_none_iff, Text.strip?, Option.map_eq_none_iff,
    Text.stripList?_eq_none_iff]

/-! ## Line by line -/

namespace Normalizer

variable (n : Normalizer) (s : n.State)

/-- What is answered to each line, and last to the end, from any state. -/
def answersFrom (lines : List String) : List (List ChatEvent) :=
  (n.feed s lines).2 ++ [n.onEnd (n.feed s lines).1]

/-- What is answered to each line of a whole list, and last to the end. -/
def answers (lines : List String) : List (List ChatEvent) := n.answersFrom n.start lines

theorem answersFrom_cons (line : String) (lines : List String) :
    n.answersFrom s (line :: lines) =
      (n.onLine s line).2 :: n.answersFrom (n.onLine s line).1 lines :=
  rfl

/-- The answers together are the events of the run. -/
theorem flatten_answersFrom (lines : List String) :
    (n.answersFrom s lines).flatten = n.runFrom s lines := by
  rw [answersFrom, List.flatten_append, List.flatten_singleton]
  rfl

theorem runFrom_cons (line : String) (lines : List String) :
    n.runFrom s (line :: lines) = (n.onLine s line).2 ++ n.runFrom (n.onLine s line).1 lines := by
  simp only [runFrom, feed, List.flatten_cons, List.append_assoc]

end Normalizer

end Turnstile
