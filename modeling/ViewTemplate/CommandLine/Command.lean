import ViewTemplate.CommandLine.Arguments
import ViewTemplate.CommandLine.Files
import ViewTemplate.Page.Compiler
import ViewTemplate.Settings.Toml
import ViewTemplate.Template.Listing
import ViewTemplate.Value.Reader

/-!
# The command

The command compiles a template and prints its output, or prints the tree of the template.  Views
that the template needs are the files next to it, or those in a directory that is named.
-/

namespace ViewTemplate.CommandLine

/-- What a run of the command leaves: an exit code and what it printed. -/
structure Report where
  code : Nat
  out : String := ""
  err : String := ""
  deriving Repr, DecidableEq

def versionText : String := "quill 0.1.0\n"

def usageText : String := "Usage: quill [OPTIONS] <template>\n"

/-- What the command can do. -/
def helpText : String :=
  "Compile view templates\n\n" ++ usageText ++
  "\nArguments:\n" ++
  "  <template>  Path to the template to compile\n" ++
  "\nOptions:\n" ++
  "      --vars <vars>      JSON file with the variables to compile with\n" ++
  "      --dir <dir>        Directory holding the views the template extends or includes\n" ++
  "      --config <config>  TOML file layered over the built-in configuration\n" ++
  "      --ast              Print the parsed AST instead of compiling\n" ++
  "  -h, --help             Print help\n" ++
  "  -V, --version          Print version\n"

/-- A run that may stop early with its report. -/
abbrev Command (m : Type → Type) := ExceptT Report m

variable {m : Type → Type} [Monad m]

/-- Stop with an error. -/
def stop {α : Type} (context reason : String) : Command m α :=
  throw ⟨1, "", context ++ ": " ++ reason ++ "\n"⟩

/-- Go on with a result, or stop with its error. -/
def orStop {ε α : Type} (context : String) (message : ε → String) :
    Except ε α → Command m α
  | .ok a => pure a
  | .error e => stop context (message e)

def readText (files : FileSystem m) (context path : String) : Command m String := do
  orStop context FileError.message (← (files.readText path : m (Except FileError String)))

/-- The text of a settings file.  The ending of its name may be left out. -/
def readSettings (files : FileSystem m) (context path : String) : Command m String := do
  match ← (files.readText path : m (Except FileError String)) with
  | .ok text => pure text
  | .error .notText => stop context FileError.notText.message
  | .error _ => readText files context (path ++ ".toml")

/-- The configuration, with a settings file over the defaults if one is named. -/
def loadConfiguration (files : FileSystem m) (path : Option String) : Command m Configuration := do
  let context := "Error loading configuration"
  let layer ← match path with
    | none => pure []
    | some path => do
      let source ← readSettings files context path
      match Toml.changes? source with
      | some changes => pure changes
      | none => stop context (path ++ " is no settings file")
  match (Settings.defaults.changeAll layer).configuration? with
  | some c => pure c
  | none => stop context "a setting is missing or of the wrong kind"

/-- The variables in a file. -/
def loadVars (files : FileSystem m) : Option String → Command m Vars
  | none => pure []
  | some path => do
    let source ← readText files "Error reading variables" path
    match Value.ofJson? source with
    | some (.map vars) => pure vars
    | _ => stop "Error parsing variables" (path ++ " holds no map of variables")

/-- A factory with the views in a directory. -/
def loadViews (files : FileSystem m) (delimiters : Delimiters) (dir : String) :
    Command m Factory := do
  let context := "Error loading views"
  let loadError (path : String) (e : FileError) := (FactoryError.load path e.message).message
  let listed : Except FileError (List String) ← files.list dir
  let names ← orStop context (loadError dir) listed
  names.foldlM (fun (factory : Factory) (name : String) => do
    let path := joinPath dir name
    let contents ← orStop context (loadError path)
      (← (files.readText path : m (Except FileError String)))
    pure (factory.addTemplate (fileStem name) contents)) { delimiters }

/-- The drawing of the tree of a view. -/
def drawTree (view : View) : Command m String := do
  let tokens ← orStop "Lex error" Template.ScanError.message
    (Template.tokens view.delimiters [] view.contents)
  let nodes ← orStop "Parse error" Template.TreeError.message (Template.nodesOf tokens)
  pure (Template.drawing nodes)

/-- Work on a template: what is printed. -/
def workOn (files : FileSystem m) (template : String) (o : Options) : Command m String := do
  let c ← loadConfiguration files o.config
  let contents ← readText files "Error reading template" template
  let vars ← loadVars files o.vars
  let plain : View := { name := fileStem template, contents, delimiters := c.delimiters }
  let view := plain.setVars vars
  if o.ast then drawTree view
  else
    let factory ← loadViews files c.delimiters (o.dir.getD (parentDirectory template))
    let (result, _) := compile (Engine.ofConfiguration c).output 0 view (.ofConfiguration c) factory
    let output ← orStop "Compile error" PageFailure.message result
    pure (output ++ "\n")

/-- Run the command. -/
def run (files : FileSystem m) (args : List String) : m Report :=
  match readArguments args with
  | .help => pure ⟨0, helpText, ""⟩
  | .version => pure ⟨0, versionText, ""⟩
  | .usage => pure ⟨2, "", usageText⟩
  | .run template options => do
    match ← (workOn files template options).run with
    | .ok out => pure ⟨0, out, ""⟩
    | .error report => pure report

end ViewTemplate.CommandLine
