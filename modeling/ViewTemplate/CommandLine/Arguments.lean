/-!
# Arguments of the command line

The command takes one template and a few options.  Arguments are read from the left; the first one
that cannot be right ends the reading, and so does a request for help or for the version.
-/

namespace ViewTemplate.CommandLine

/-- The options read so far. -/
structure Options where
  template : Option String := none
  vars : Option String := none
  dir : Option String := none
  config : Option String := none
  ast : Bool := false
  deriving Repr, DecidableEq

/-- What the command is asked to do. -/
inductive Request where
  | help
  | version
  /-- The arguments are wrong. -/
  | usage
  /-- Work on a template. -/
  | run (template : String) (options : Options)
  deriving Repr, DecidableEq

/-- The options that take a value. -/
inductive ValueOption where
  | vars
  | dir
  | config
  deriving Repr, DecidableEq

/-- The option of a name. -/
def ValueOption.ofName? : String → Option ValueOption
  | "vars" => some vars
  | "dir" => some dir
  | "config" => some config
  | _ => none

/-- Give an option its value; no option may be given twice. -/
def Options.set? (o : Options) (option : ValueOption) (value : String) : Option Options :=
  match option with
  | .vars => if o.vars.isSome then none else some { o with vars := some value }
  | .dir => if o.dir.isSome then none else some { o with dir := some value }
  | .config => if o.config.isSome then none else some { o with config := some value }

/-- Give the template; there is only one. -/
def Options.setTemplate? (o : Options) (template : String) : Option Options :=
  if o.template.isSome then none else some { o with template := some template }

/-- Ask for the tree; this may not be done twice. -/
def Options.setAst? (o : Options) : Option Options :=
  if o.ast then none else some { o with ast := true }

/-- The request of complete options. -/
def Options.request (o : Options) : Request :=
  match o.template with
  | some template => .run template o
  | none => .usage

/-- What kind of argument a text is. -/
inductive Argument where
  /-- Everything behind this is no option. -/
  | separator
  /-- A long option, perhaps with a value behind an equals sign. -/
  | long (name : String) (value : Option String)
  /-- Short options; only the first one matters. -/
  | short (first : Char)
  | plain (text : String)
  deriving Repr, DecidableEq

/-- The kind of an argument.  A single dash is a plain text. -/
def Argument.of (text : String) : Argument :=
  match text.toList with
  | ['-', '-'] => .separator
  | '-' :: '-' :: rest =>
    let name := String.ofList (rest.takeWhile (· != '='))
    match rest.dropWhile (· != '=') with
    | _ :: value => .long name (some (String.ofList value))
    | [] => .long name none
  | '-' :: first :: _ => .short first
  | _ => .plain text

/-- Read arguments that are no options. -/
def readPlain (o : Options) : List String → Request
  | [] => o.request
  | arg :: rest =>
    match o.setTemplate? arg with
    | some o => readPlain o rest
    | none => .usage

/-- Read arguments behind the options read so far. -/
def readFrom (o : Options) : List String → Request
  | [] => o.request
  | arg :: rest =>
    match Argument.of arg with
    | .separator => readPlain o rest
    | .short 'h' => .help
    | .short 'V' => .version
    | .short _ => .usage
    | .plain text =>
      match o.setTemplate? text with
      | some o => readFrom o rest
      | none => .usage
    | .long "help" none => .help
    | .long "version" none => .version
    | .long "ast" none =>
      match o.setAst? with
      | some o => readFrom o rest
      | none => .usage
    | .long name value =>
      match ValueOption.ofName? name, value with
      | some option, some value =>
        match o.set? option value with
        | some o => readFrom o rest
        | none => .usage
      | some option, none =>
        match rest with
        | [] => .usage
        | next :: rest =>
          match Argument.of next with
          | .plain value =>
            match o.set? option value with
            | some o => readFrom o rest
            | none => .usage
          | _ => .usage
      | none, _ => .usage

/-- What the arguments ask for. -/
def readArguments (args : List String) : Request :=
  readFrom {} args

end ViewTemplate.CommandLine
