import Turnstile.Config.Record
import Turnstile.Toml.Reader
import Turnstile.Config.Variables
import Turnstile.World
/-!
# Where the configuration comes from

Files and variables, the later over the earlier: the file of the user,
the file of the project, a file that was asked for, and the variables.
A file that is not there says nothing.
-/

namespace Turnstile

namespace World

/-- The value of a variable. -/
def lookUp? (w : World) (name : String) : Option String := Keyed.find? name w.env

/-- The home directory. -/
def home (w : World) : String :=
  match w.lookUp? "HOME" with
  | some home => if home.isEmpty then "/root" else home
  | none => "/root"

end World

/-- A place a configuration may come from. -/
structure ConfigSource where
  label : String
  path : String
  found : Bool
  deriving DecidableEq, Repr, Inhabited

namespace Config

/-- What the names of the variables start with. -/
def variableLead : String := "TOOLGATE_"

/-- The names of a project's file, the first one counts. -/
def projectFiles : List String := ["toolgate.toml", ".toolgate.toml"]

/-- The file of the user. -/
def userFile (w : World) : String :=
  let base := match (w.lookUp? "XDG_CONFIG_HOME").filter Path.isAbsolute with
    | some base => base
    | none => Path.join w.home ".config"
  Path.join (Path.join base "toolgate") "config.toml"

/-- The file of the project, if there is one. -/
def projectFile? (w : World) : Option String :=
  projectFiles.find? fun name => w.files.pathExists w.cwd name

/-- The path leads to a file. -/
def isFile (w : World) (path : String) : Bool :=
  match w.files.stat w.cwd path with
  | .ok (_, e) => e.isFile
  | .error _ => false

/-- The directories a relative path is looked for in: the current one and
those above it. -/
def searched (w : World) : List AbsPath :=
  (List.range (w.cwd.length + 1)).map fun n => w.cwd.take (w.cwd.length - n)

/-- The file a path stands for. -/
def locate? (w : World) (path : String) : Option String :=
  if Path.isAbsolute path then if isFile w path then some path else none
  else ((searched w).map fun directory => Path.join directory.text path).find? (isFile w)

/-- What a file says. -/
def fileSettings (w : World) (path : String) : Except ConfigError Setting :=
  match locate? w path with
  | none => .ok (.table [])
  | some path =>
    match w.files.read w.cwd path with
    | .error e => .error (.unreadable e.message)
    | .ok content =>
      match Utf8.decode? content with
      | none => .error (.unreadable "stream did not contain valid UTF-8")
      | some text =>
        match Toml.read? text with
        | some settings => .ok settings
        | none => .error (.unreadable ("TOML parse error in " ++ path))

/-- The files that are read, the lowest first. -/
def filesRead (w : World) (explicit : Option String) : List String :=
  [userFile w] ++ (projectFile? w).toList ++ explicit.toList

/-- The settings of every place together. -/
def settings (w : World) (explicit : Option String) : Except ConfigError Setting := do
  let said ← (filesRead w explicit).mapM (fileSettings w)
  return (said ++ [Variables.settings variableLead w.env]).foldl Setting.under (.table [])

/-- The configuration, checked. -/
def load (w : World) (explicit : Option String) : Except ConfigError Config := do
  match ofSetting (← settings w explicit) with
  | .error mismatch => throw (.unreadable mismatch.message)
  | .ok config =>
    config.check w.home
    return config

/-- The places of files, the highest first. -/
def sources (w : World) (explicit : Option String) : List ConfigSource :=
  let there (path : String) : Bool := w.files.pathExists w.cwd path
  (explicit.map fun path => ⟨"Explicit", path, there path⟩).toList ++
    [match projectFile? w with
      | some path => ⟨"Project", path, true⟩
      | none => ⟨"Project", projectFiles.headD "", false⟩,
     ⟨"Global", userFile w, there (userFile w)⟩]

end Config

end Turnstile
