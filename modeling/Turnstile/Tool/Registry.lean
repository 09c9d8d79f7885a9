import Turnstile.Keyed
import Turnstile.Text.Quoted
import Turnstile.Tool.Execution
/-!
# The registry — tools by name

At most one tool a name. A tool is kept with the definition it had when
it was registered.
-/

namespace Turnstile

/-- A tool as it is kept: with what it said it was when it was registered. -/
structure Registry.Entry where
  definition : ToolDefinition
  tool : Tool

/-- What is registered, in increasing order of name. -/
structure Registry where
  entries : List (String × Registry.Entry)

namespace Registry

/-- No tools. -/
def empty : Registry := ⟨[]⟩

/-- What is kept under a name. -/
def entry? (r : Registry) (name : String) : Option Entry := Keyed.find? name r.entries

/-- The tool of a name. -/
def find? (r : Registry) (name : String) : Option Tool := (r.entry? name).map (·.tool)

/-- The tool of a name, or the failure that there is none. -/
def get (r : Registry) (name : String) : Except ToolError Tool :=
  match r.find? name with
  | some tool => .ok tool
  | none => .error (.notFound name)

/-- Put a tool under the name it has at the moment; the tool that was there
is given back. -/
def register (r : Registry) (tool : Tool) (now : Moment := 0) : Option Tool × Registry :=
  let definition := tool.definition now
  (r.find? definition.name, ⟨Keyed.insert definition.name ⟨definition, tool⟩ r.entries⟩)

/-- Take the tool of a name away; it is given back. -/
def unregister (r : Registry) (name : String) : Option Tool × Registry :=
  (r.find? name, ⟨Keyed.erase name r.entries⟩)

/-- Put several tools in turn. -/
def registerAll (r : Registry) (tools : List Tool) (now : Moment := 0) : Registry :=
  tools.foldl (fun r tool => (r.register tool now).2) r

/-- There is a tool of that name. -/
def contains (r : Registry) (name : String) : Bool := (r.entry? name).isSome

/-- The names in order. -/
def names (r : Registry) : List String := r.entries.map (·.1)

/-- The definitions in order of name, as they were when the tools were
registered. -/
def definitions (r : Registry) : List ToolDefinition := r.entries.map (·.2.definition)

/-- How many tools there are. -/
def size (r : Registry) : Nat := r.entries.length

/-- What is shown of a registry. -/
def describe (r : Registry) : String :=
  "ToolRegistry \x7b tools: " ++ Text.quoteList r.names ++ " \x7d"

end Registry

end Turnstile
