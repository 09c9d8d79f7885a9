import Turnstile.Tool.Execution
/-!
# The store tools — notes and secrets

Notes belong to the agent a call runs for; secrets are shared. Input is
judged before a store is touched.
-/

namespace Turnstile

/-- A store of notes. -/
structure NoteStore where
  get : (agent key : String) → Act StoreError (Option String)
  set : (agent key value : String) → Act StoreError Unit
  delete : (agent key : String) → Act StoreError Bool
  list : (agent : String) → Act StoreError (List (String × String))
  search : (agent query : String) → Act StoreError (List (String × String))

namespace NoteStore

/-- The notes of the world. -/
def inMemory : NoteStore where
  get agent key := do return (← Act.look).memory.get? agent key
  set agent key value := do
    match (← Act.look).memory.set agent key value with
    | .ok memory => Act.change fun w => { w with memory }
    | .error e => throw e
  delete agent key := do
    let (found, memory) := (← Act.look).memory.delete agent key
    Act.change fun w => { w with memory }
    return found
  list agent := do return (← Act.look).memory.list agent
  search agent query := do return (← Act.look).memory.search agent query

end NoteStore

/-- A store of secrets. -/
structure SecretStore where
  get : (name : String) → Act StoreError (Option String)
  set : (name value : String) → Act StoreError Unit
  delete : (name : String) → Act StoreError Bool
  list : Act StoreError (List String)

namespace SecretStore

/-- The secrets of the world. -/
def inMemory : SecretStore where
  get name := do return (← Act.look).credentials.get? name
  set name value := do
    match (← Act.look).credentials.set name value with
    | .ok credentials => Act.change fun w => { w with credentials }
    | .error e => throw e
  delete name := do
    let (found, credentials) := (← Act.look).credentials.delete name
    Act.change fun w => { w with credentials }
    return found
  list := do return (← Act.look).credentials.names

end SecretStore

/-! ## Notes -/

namespace MemoryTool

/-- What to do with notes. -/
inductive Action where
  | get
  | set
  | delete
  | list
  | search
  deriving DecidableEq, Repr, Inhabited

/-- The words for the actions. -/
def actions : List (String × Action) :=
  [("get", .get), ("set", .set), ("delete", .delete), ("list", .list), ("search", .search)]

/-- The input. -/
structure Args where
  action : Action
  key : Option String
  value : Option String
  query : Option String
  deriving DecidableEq, Repr, Inhabited

/-- Read the input. -/
def Args.reader : Reader Args := fun source doc => do
  let text := Reader.option Reader.string
  let fs ← Reader.eagerRecord "struct MemoryArgs"
    [("action", Reader.judged (Reader.word actions)), ("key", Reader.judged text),
      ("value", Reader.judged text), ("query", Reader.judged text)] source doc
  return {
    action := ← fs.require "action" (Reader.word actions)
    key := ← fs.getD "key" text none
    value := ← fs.getD "value" text none
    query := ← fs.getD "query" text none }

/-- The definition shown to the model. -/
def definition : ToolDefinition where
  name := "memory"
  description := "Store and recall persistent notes. Actions: get, set, delete, list, search."
  inputSchema := Tool.schema
    [("action", Tool.choice (actions.map (·.1))), ("key", Tool.property "string" ""),
      ("value", Tool.property "string" ""),
      ("query", Tool.property "string" "Substring to search keys and values for")]
    ["action"]

/-- A field that must be there and not be empty. -/
def required (field : Option String) (name action : String) : Act ToolError String :=
  match field with
  | some text => if text.isEmpty then refuse else pure text
  | none => refuse
where
  refuse : Act ToolError String :=
    throw (.invalidInput ("'" ++ name ++ "' is required for " ++ action))

/-- Notes as they are shown. -/
def render (notes : List (String × String)) : String :=
  if notes.isEmpty then "(no entries)"
  else Text.join "\n" (notes.map fun note => note.1 ++ ": " ++ note.2)

/-- Carry out an action for an agent. -/
def perform (store : NoteStore) (agent : String) (args : Args) : Act ToolError String := do
  match args.action with
  | .get =>
    let key ← required args.key "key" "get"
    match ← Act.orElse (store.get agent key) ToolError.ofStore with
    | some value => return value
    | none => throw (.execution ("no memory stored under '" ++ key ++ "'"))
  | .set =>
    let key ← required args.key "key" "set"
    match args.value with
    | none => throw (.invalidInput "'value' is required for set")
    | some value =>
      Act.orElse (store.set agent key value) ToolError.ofStore
      return "Stored '" ++ key ++ "'"
  | .delete =>
    let key ← required args.key "key" "delete"
    if ← Act.orElse (store.delete agent key) ToolError.ofStore then
      return "Deleted '" ++ key ++ "'"
    else return "Nothing stored under '" ++ key ++ "'"
  | .list => return render (← Act.orElse (store.list agent) ToolError.ofStore)
  | .search =>
    let query ← required args.query "query" "search"
    return render (← Act.orElse (store.search agent query) ToolError.ofStore)

/-- Carry out the action of an input. -/
def execute (store : NoteStore) (context : ToolContext) (input : Json) : Act ToolError String := do
  perform store context.agent (← Tool.input Args.reader input)

end MemoryTool

/-- Notes of the agent. -/
def memoryTool (store : NoteStore) : Tool :=
  ⟨MemoryTool.definition, fun context input _ _ => MemoryTool.execute store context input⟩

/-! ## Secrets -/

namespace CredentialTool

/-- What to do with secrets. -/
inductive Action where
  | list
  | get
  | set
  | delete
  deriving DecidableEq, Repr, Inhabited

/-- The words for the actions. -/
def actions : List (String × Action) :=
  [("list", .list), ("get", .get), ("set", .set), ("delete", .delete)]

/-- The input. -/
structure Args where
  action : Action
  name : Option String
  value : Option String
  deriving DecidableEq, Repr, Inhabited

/-- Read the input. -/
def Args.reader : Reader Args := fun source doc => do
  let text := Reader.option Reader.string
  let fs ← Reader.eagerRecord "struct CredentialArgs"
    [("action", Reader.judged (Reader.word actions)), ("name", Reader.judged text),
      ("value", Reader.judged text)] source doc
  return {
    action := ← fs.require "action" (Reader.word actions)
    name := ← fs.getD "name" text none
    value := ← fs.getD "value" text none }

/-- The definition shown to the model. -/
def definition : ToolDefinition where
  name := "credential"
  description := "Manage stored credentials. Actions: list, get, set, delete."
  inputSchema := Tool.schema
    [("action", Tool.choice (actions.map (·.1))), ("name", Tool.property "string" ""),
      ("value", Tool.property "string" "")]
    ["action"]

/-- The name, which must be there and not be empty. -/
def nameOf (args : Args) : Act ToolError String :=
  match args.name with
  | some name => if name.isEmpty then refuse else pure name
  | none => refuse
where
  refuse : Act ToolError String := throw (.invalidInput "'name' is required")

/-- Carry out an action. -/
def perform (store : SecretStore) (args : Args) : Act ToolError String := do
  match args.action with
  | .list =>
    let names ← Act.orElse store.list ToolError.ofStore
    return if names.isEmpty then "(no credentials)" else Text.join "\n" names
  | .get =>
    let name ← nameOf args
    match ← Act.orElse (store.get name) ToolError.ofStore with
    | some value => return value
    | none => throw (.execution ("no credential named '" ++ name ++ "'"))
  | .set =>
    let name ← nameOf args
    match args.value with
    | none => throw (.invalidInput "'value' is required for set")
    | some value =>
      Act.orElse (store.set name value) ToolError.ofStore
      return "Stored credential '" ++ name ++ "'"
  | .delete =>
    let name ← nameOf args
    if ← Act.orElse (store.delete name) ToolError.ofStore then
      return "Deleted credential '" ++ name ++ "'"
    else return "No credential named '" ++ name ++ "'"

/-- Carry out the action of an input. -/
def execute (store : SecretStore) (input : Json) : Act ToolError String := do
  perform store (← Tool.input Args.reader input)

end CredentialTool

/-- Secrets by name. -/
def credentialTool (store : SecretStore) : Tool :=
  ⟨CredentialTool.definition, fun _ input _ _ => CredentialTool.execute store input⟩

end Turnstile
