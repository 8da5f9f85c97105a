import KotlinMocks.Emit.Options

/-!
# The generator's command line

The options the generator takes, each with its long name, an optional one-letter name, other
spellings, what it takes (a value, or nothing), a line of help, and a default. From the table
come the help text, the usage lines, and the option's display in messages (`--model <MODEL>`,
`--dryRun`). The errors of reading a command line and their texts are here too: each text is
`error: ` and a sentence, sometimes a tip, sometimes a usage line, and a pointer to `--help`.
-/

namespace KotlinMocks.Cli

/-- The program's name, as usage and version lines show it. -/
def programName : String := "kmockgen"

/-- The program's version. -/
def programVersion : String := "0.1.0"

/-- What the program does, the first line of its help. -/
def programAbout : String := "Generate Kotlin mock subtypes from a resolved symbol model"

/-- Where units go unless the command line says otherwise. -/
def defaultOutDir : String := "build/generated/kmock"

/-- What an option's value must be. -/
inductive ValueKind where
  /-- A path, which must not be empty. -/
  | path
  /-- Any text. -/
  | text
  /-- A count that fits in a machine word. -/
  | count
  deriving DecidableEq

/-- What an option takes. -/
inductive Takes where
  /-- One value, shown in help as the placeholder. -/
  | value (placeholder : String) (kind : ValueKind)
  /-- Nothing: the option only switches something on. -/
  | flag
  /-- Nothing: it asks for the help text. -/
  | help
  /-- Nothing: it asks for the version line. -/
  | version
  deriving DecidableEq

/-- One option of the command line. -/
structure OptionSpec where
  long : String
  short : Option Char := none
  /-- Other long spellings, accepted and never shown. -/
  aliases : List String := []
  takes : Takes
  required : Bool := false
  about : String
  defaultValue : Option String := none
  deriving DecidableEq

namespace OptionSpec

/-- The option in messages: its long name, and its placeholder if it takes a value. -/
def display (o : OptionSpec) : String :=
  match o.takes with
  | .value placeholder _ => "--" ++ o.long ++ " <" ++ placeholder ++ ">"
  | _ => "--" ++ o.long

/-- Whether the option is spelled `name` after the two dashes. -/
def spelled (o : OptionSpec) (name : String) : Bool := o.long == name || o.aliases.contains name

/-- Whether the option takes a value. -/
def takesValue (o : OptionSpec) : Bool :=
  match o.takes with
  | .value _ _ => true
  | _ => false

/-- The option's first help line: its short and long names. -/
def heading (o : OptionSpec) : String :=
  let shortPart := match o.short with
    | some c => "-" ++ c.toString ++ ", "
    | none => "    "
  "  " ++ shortPart ++ o.display

/-- The option's second help line: what it does, and its default. -/
def aboutLine (o : OptionSpec) : String :=
  let defaultPart := match o.defaultValue with
    | some d => " [default: " ++ d ++ "]"
    | none => ""
  "          " ++ o.about ++ defaultPart

end OptionSpec

/-- The options, in the order help lists them. -/
def optionSpecs : List OptionSpec :=
  [{ long := "model", short := some 'm', takes := .value "MODEL" .path, required := true,
     about := "Symbol model produced by the host adapter (JSON, one entry per round)" },
   { long := "outDir", short := some 'o', aliases := ["out-dir"], takes := .value "OUT_DIR" .path,
     about := "Root directory for generated sources", defaultValue := some defaultOutDir },
   { long := "config", short := some 'c', takes := .value "CONFIG" .path,
     about := "Path to kmock.json. Defaults to a kmock.json next to the model file" },
   { long := "dryRun", aliases := ["dry-run"], takes := .flag,
     about := "Print the units that would be generated instead of writing them" },
   { long := "runtimePackage", aliases := ["runtime-package"],
     takes := .value "RUNTIME_PACKAGE" .text,
     about := "Package that receives the stub primitives and support units" },
   { long := "markerAnnotation", aliases := ["marker-annotation"],
     takes := .value "MARKER_ANNOTATION" .text,
     about := "Qualified name of the annotation that selects targets" },
   { long := "mockSuffix", aliases := ["mock-suffix"], takes := .value "MOCK_SUFFIX" .text,
     about := "Suffix appended to a target's simple name to name its mock" },
   { long := "indentWidth", aliases := ["indent-width"], takes := .value "INDENT_WIDTH" .count,
     about := "Spaces per indentation level in generated code" },
   { long := "help", short := some 'h', takes := .help, about := "Print help" },
   { long := "version", short := some 'V', takes := .version, about := "Print version" }]

/-- Every long spelling, each option's name before its other spellings. -/
def longSpellings : List String := optionSpecs.flatMap fun o => o.long :: o.aliases

/-- The displays of the required options. -/
def requiredDisplays : List String := (optionSpecs.filter (·.required)).map (·.display)

/-- The options that configure a run: all but help and version. -/
def runOptions : List OptionSpec :=
  optionSpecs.filter fun o => o.takes != .help && o.takes != .version

/-- The run options as one group in a usage line, one of them to be chosen. -/
def runGroupDisplay : String := "<" ++ "|".intercalate (runOptions.map (·.display)) ++ ">"

/-- The usage line when nothing is known about the words given. -/
def plainUsage : String := " ".intercalate (programName :: "[OPTIONS]" :: requiredDisplays)

/-- The help text. -/
def helpText : String :=
  programAbout ++ "\n\nUsage: " ++ plainUsage ++ "\n\nOptions:\n" ++
    String.join (optionSpecs.map fun o => o.heading ++ "\n" ++ o.aboutLine ++ "\n")

/-- The version line. -/
def versionText : String := programName ++ " " ++ programVersion ++ "\n"

/-- The usage line of an error: the plain one, one naming the required options and then the
options given, each once, or one naming some options and then the group of run options. -/
inductive Usage where
  | plain
  | naming (given : List String)
  | grouped (named : List String)
  deriving DecidableEq

/-- The text of a usage line. -/
def Usage.text : Usage → String
  | .plain => plainUsage
  | .naming given => " ".intercalate (programName :: (requiredDisplays ++ given).eraseDups)
  | .grouped named => " ".intercalate (programName :: named ++ [runGroupDisplay])

/-- Why a command line is not run. -/
inductive ArgumentError where
  /-- Required options are missing. -/
  | missingRequired (missing : List String) (usage : Usage)
  /-- A word is no option and no value; a similar option's spelling may be suggested. -/
  | unknown (written : String) (similar : Option String) (usage : Usage)
  /-- An option that takes a value has none, or an empty path. -/
  | missingValue (display : String)
  /-- A count does not read. -/
  | invalidCount (value display reason : String)
  /-- An option is given twice. -/
  | repeated (display : String)
  /-- An option that takes nothing is given a value. -/
  | unexpectedValue (value display : String) (usage : Usage)
  /-- The help text was asked for. -/
  | helpRequested
  /-- The version line was asked for. -/
  | versionRequested
  deriving DecidableEq

namespace ArgumentError

/-- The name of the kind of error. -/
def kindName : ArgumentError → String
  | .missingRequired _ _ => "MissingRequiredArgument"
  | .unknown _ _ _ => "UnknownArgument"
  | .missingValue _ => "InvalidValue"
  | .invalidCount _ _ _ => "ValueValidation"
  | .repeated _ => "ArgumentConflict"
  | .unexpectedValue _ _ _ => "TooManyValues"
  | .helpRequested => "DisplayHelp"
  | .versionRequested => "DisplayVersion"

/-- Whether the text is an answer the user asked for rather than an error. -/
def isAnswer : ArgumentError → Bool
  | .helpRequested | .versionRequested => true
  | _ => false

/-- The status the program ends with. -/
def exitCode (e : ArgumentError) : Nat := if e.isAnswer then 0 else 2

/-- The first sentence of an error. -/
def sentence : ArgumentError → String
  | .missingRequired missing _ =>
    "the following required arguments were not provided:" ++ String.join (missing.map ("\n  " ++ ·))
  | .unknown written _ _ => "unexpected argument '" ++ written ++ "' found"
  | .missingValue display => "a value is required for '" ++ display ++ "' but none was supplied"
  | .invalidCount value display reason =>
    "invalid value '" ++ value ++ "' for '" ++ display ++ "': " ++ reason
  | .repeated display => "the argument '" ++ display ++ "' cannot be used multiple times"
  | .unexpectedValue value display _ =>
    "unexpected value '" ++ value ++ "' for '" ++ display ++ "' found; no more were expected"
  | .helpRequested => ""
  | .versionRequested => ""

/-- The tip under the sentence, if any. -/
def tip : ArgumentError → String
  | .unknown _ (some similar) _ => "\n\n  tip: a similar argument exists: '" ++ similar ++ "'"
  | _ => ""

/-- The usage line shown with the error, if any. -/
def usage? : ArgumentError → Option Usage
  | .missingRequired _ u => some u
  | .unknown _ _ u => some u
  | .repeated _ => some .plain
  | .unexpectedValue _ _ u => some u
  | _ => none

/-- The whole text: the help text or version line when asked for, else the error. -/
def text (e : ArgumentError) : String :=
  match e with
  | .helpRequested => helpText
  | .versionRequested => versionText
  | _ =>
    let usagePart := match e.usage? with
      | some u => "\n\nUsage: " ++ u.text
      | none => ""
    "error: " ++ e.sentence ++ e.tip ++ usagePart ++ "\n\nFor more information, try '--help'.\n"

end ArgumentError

/-- What the command line asks for. -/
structure Arguments where
  model : String
  outDir : String := defaultOutDir
  config : Option String := none
  dryRun : Bool := false
  runtimePackage : Option String := none
  marker : Option String := none
  mockSuffix : Option String := none
  indentWidth : Option Nat := none
  deriving DecidableEq, Inhabited

/-- The options after the command line's settings, each of which replaces the one before. -/
def Arguments.override (a : Arguments) (o : GeneratorOptions) : GeneratorOptions :=
  { o with
    runtimePackage := a.runtimePackage.getD o.runtimePackage
    marker := a.marker.getD o.marker
    mockSuffix := a.mockSuffix.getD o.mockSuffix
    indentWidth := a.indentWidth.getD o.indentWidth }

end KotlinMocks.Cli
