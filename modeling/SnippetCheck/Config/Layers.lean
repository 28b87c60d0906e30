import SnippetCheck.Config
import SnippetCheck.Directory
import SnippetCheck.Text.Character

/-! The layers of the settings: what is built in, then a file, then the environment. Each layer sets
what it names and leaves the rest. -/

namespace SnippetCheck

/-- The variables of a process, by name. -/
abbrev Environment := String → Option String

inductive ConfigFault where
  /-- The file cannot be read. -/
  | file (path : String) (fault : FileFault)
  /-- The file's text writes no settings. -/
  | notSettings
  /-- A variable that says yes or no says neither. -/
  | notFlag (name : String) (value : String)
deriving DecidableEq, Repr

/-- What is said of a fault. In the case of a text that writes no settings it stands for whatever
a reader of TOML would say of the place. -/
def ConfigFault.message : ConfigFault → String
  | file path fault => path ++ ": " ++ fault.message
  | notSettings => "TOML parse error"
  | notFlag name value => name ++ " must be a boolean, got '" ++ value ++ "'"

def Failure.ofConfig (fault : ConfigFault) : Failure := .config fault.message

namespace Config

def fileVariable : String := "BLOCKLY_CHECK_CONFIG"

def urlVariable : String := "BLOCKLY_CHECK_URL"

def fallbackVariable : String := "BLOCKLY_CHECK_FALLBACK"

def quickVariable : String := "BLOCKLY_CHECK_QUICK"

/-- What a word says: yes, no, or neither. -/
def flagOfWord? (word : String) : Option Bool :=
  if ["1", "true", "yes", "on"].contains word then some true
  else if ["0", "false", "no", "off"].contains word then some false
  else none

/-- What a variable's value says, if the variable is there. Blanks around it and the case of its
letters do not count. -/
def flag (name : String) (value : String) : Except ConfigFault Bool :=
  let word := Text.lowerAscii (Text.trimmed value)
  match flagOfWord? word with
  | some b => .ok b
  | none => .error (.notFlag name word)

/-- The settings with what the environment sets, and the first fault, behind which nothing more is
set. -/
def override (c : Config) (env : Environment) : Config × Option ConfigFault :=
  let c := { c with primaryUrl := (env urlVariable).getD c.primaryUrl }
  match (env fallbackVariable).mapM (flag fallbackVariable) with
  | .error fault => (c, some fault)
  | .ok fallback =>
    let c := { c with fallbackEnabled := fallback.getD c.fallbackEnabled }
    match (env quickVariable).mapM (flag quickVariable) with
    | .error fault => (c, some fault)
    | .ok quick => ({ c with quickCheck := quick.getD c.quickCheck }, none)

def ofFile (files : Files) (path : String) : Except ConfigFault Config :=
  match files.text path with
  | .error fault => .error (.file path fault)
  | .ok text =>
    match ofToml? text with
    | some c => .ok c
    | none => .error .notSettings

/-- The settings from the file at `path`, or else at the path that the environment names, or else
from no file, with what the environment sets. -/
def load (files : Files) (env : Environment) (path : Option String) :
    Except ConfigFault Config := do
  let c ← match path.or (env fileVariable) with
    | some path => ofFile files path
    | none => .ok {}
  match c.override env with
  | (_, some fault) => .error fault
  | (c, none) => .ok c

end Config

end SnippetCheck
