import Turnstile.CommandLine.Order
import Turnstile.CommandLine.Trouble
import Turnstile.Json.Printer
import Turnstile.Tool.Dispatch
/-!
# Chatting on the command line

The events of an answer are shown as they come: text as output, the rest
as remarks. The tool calls among them are then run, if that is asked for,
until one fails in a way that ends the turn.
-/

namespace Turnstile

namespace CommandLine

/-- What an event shows. -/
structure Sight where
  output : String
  remark : String
  deriving DecidableEq, Repr, Inhabited

/-- What an event shows. -/
def sight : ChatEvent → Sight
  | .token text => ⟨text, ""⟩
  | .toolCall call =>
    ⟨"", "\n[tool call] " ++ call.name ++ " (" ++ call.id ++ ") " ++ call.input.compact ++ "\n"⟩
  | .done usage =>
    ⟨"\n", "[usage] input=" ++ toString usage.input ++ " output=" ++ toString usage.output ++
      " total=" ++ toString usage.total ++ "\n"⟩
  | .error e => ⟨"\n", "[error] " ++ e.message ++ "\n"⟩

/-- The tool calls among events. -/
def callsIn (events : List ChatEvent) : List ToolCall :=
  events.filterMap fun
    | .toolCall call => some call
    | _ => none

/-- An error is among events. -/
def hasError (events : List ChatEvent) : Bool :=
  events.any fun
    | .error _ => true
    | _ => false

/-- Show an event. -/
def showEvent (w : World) (event : ChatEvent) : World :=
  (w.print (sight event).output).complain (sight event).remark

/-- An answer that means yes. -/
def isYes (answer : String) : Bool :=
  let answer := Text.asciiLower (Text.trim answer)
  answer == "y" || answer == "yes"

/-- The first line of the standard input, with its end, and the rest. -/
def firstLine (input : Bytes) : Bytes × Bytes :=
  let line := input.takeWhile (· != 10)
  match input.drop line.length with
  | [] => (line, [])
  | b :: rest => (line ++ [b], rest)

/-- Ask at the terminal. -/
def askAtTerminal : Approver := fun call => do
  let (line, rest) := firstLine (← get).stdin
  modify fun w => { w.complain ("\nTool call: " ++ call.name ++ " " ++ call.input.compact ++
    "\nRun it? [y/N] ") with stdin := rest }
  return if (Utf8.decode? line).any isYes then .approved else .denied "denied by user"

/-- Show the outcome of a call; whether the turn goes on, and whether
something failed. -/
def showOutcome (name : String) : Except ToolError ToolResult → World → World × Bool × Bool
  | .ok result, w =>
    (w.print ("[" ++ (if result.isError then "tool error" else "tool result") ++ "] " ++ name ++
      "\n" ++ result.content ++ "\n"), true, result.isError)
  | .error e, w =>
    (w.complain ("[" ++ e.code ++ "] " ++ name ++ ": " ++ e.message ++ "\n"), !e.abortsTurn, true)

/-- Run calls in turn, telling whether one failed. -/
def runCalls (d : Dispatcher) (context : ToolContext) (policy : Policy) :
    List ToolCall → StateM World Bool
  | [] => return false
  | call :: rest => do
    let outcome ← (d.dispatch context call policy).run
    let (w, goesOn, failed) := showOutcome call.name outcome (← get)
    set w
    if goesOn then return (← runCalls d context policy rest) || failed else return failed

end CommandLine

end Turnstile
