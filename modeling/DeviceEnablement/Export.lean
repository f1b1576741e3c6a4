/-
  The command line: `rde-mc export --pdr FILE... [--out DIR]`.

  The command reads the resource records in the given files, each of which holds one, and writes two
  files into the output folder: the schema map, and the dump of the registry in which every resource
  supports what the configuration offers.

  1. `Arguments.parse?` reads the words behind the program's name.
  2. `CommandLine.run` says what the program does, given what it can read: which files it writes,
     and with which status it ends (0 well, 1 failed, 2 wrong usage).
  3. The configuration is loaded before the words are read.  When that fails the defaults apply,
     unless a configuration file was named, which has to load.

  `CommandLine.run_congr`: what the program does depends on the files it mentions only.
-/
import DeviceEnablement.Config.Environment
import DeviceEnablement.Resource.Dump

namespace DeviceEnablement

/-! ## Arguments -/

/-- What the words on the command line ask for. -/
inductive Arguments
  | exporting (records : List String) (folder : String)
  /-- A text about the program. -/
  | help
  | version
  deriving DecidableEq

namespace Arguments

/-- The value of an option written as one word, such as `--out=x`. -/
def joined? (option : String) (word : String) : Option String :=
  let mark := (option ++ "=").toList
  if mark.isPrefixOf word.toList then some (String.ofList (word.toList.drop mark.length)) else none

/-- Whether a word is an option and no value. -/
def isOption (word : String) : Bool :=
  match word.toList with
  | '-' :: _ :: _ => true
  | _ => false

/-- Reads the options of the command; `more` says that further record files may. -/
def options? (records : List String) (folder : Option String) (more : Bool) :
    List String → Option Arguments
  | [] => if records.isEmpty then none else some (.exporting records (folder.getD "."))
  | word :: rest =>
    if word = "--help" ∨ word = "-h" then some .help
    else if word = "--pdr" then
      match rest with
      | value :: rest =>
        if isOption value then none else options? (records ++ [value]) folder true rest
      | [] => none
    else if word = "--out" ∨ word = "-o" then
      match rest with
      | value :: rest =>
        if isOption value ∨ folder.isSome then none else options? records (some value) false rest
      | [] => none
    else
      match joined? "--pdr" word, joined? "--out" word with
      | some value, _ => options? (records ++ [value]) folder true rest
      | none, some value =>
        if folder.isSome then none else options? records (some value) false rest
      | none, none =>
        if isOption word ∨ !more then none else options? (records ++ [word]) folder true rest

/-- What the words on the command line ask for; none if they are not understood. -/
def parse? : List String → Option Arguments
  | word :: rest =>
    if word = "export" then options? [] none false rest
    else if word = "--help" ∨ word = "-h" ∨ word = "help" then some .help
    else if word = "--version" ∨ word = "-V" then some .version
    else none
  | [] => none

end Arguments

/-! ## Export -/

/-- The name of the file with the schema map. -/
def schemaFile : String := "resource_schema.json"

/-- The name of the file with the dump of the registry. -/
def registryFile : String := "registry.json"

/-- What the export writes for these records: the two files by their names. -/
def exportFiles (operations : List OperationType) (payloads : List Bytes) :
    Except ModelError (List (String × String)) := do
  let registry ← Registry.ofPayloads payloads operations
  return [(schemaFile, registry.schemaMap.pretty), (registryFile, registry.dump)]

namespace CommandLine

/-- What the program does. -/
structure Outcome where
  /-- The status with which the program ends. -/
  status : UInt32
  /-- The files to write, by their paths. -/
  files : List (String × String) := []
  /-- The folder to make for the files. -/
  folder : Option String := none
  /-- What is said to the user. -/
  remark : Option String := none

/-- How the program is used. -/
def usage : String := "usage: rde-mc export --pdr <FILE>... [--out <DIR>]"

/-- The program's name and version. -/
def version : String := "rde-mc 0.1.0"

/-- The contents of the files at these paths, or the first path that cannot be read. -/
def readAll (read : String → Option Bytes) : List String → Except String (List Bytes)
  | [] => .ok []
  | path :: rest =>
    match read path with
    | some content => (readAll read rest).map (content :: ·)
    | none => .error path

/-- What the program does to export these records. -/
def runExport (config : Config) (read : String → Option Bytes) (records : List String)
    (folder : String) : Outcome :=
  match readAll read records with
  | .error path => { status := 1, remark := some s!"cannot read {path}" }
  | .ok payloads =>
    match exportFiles config.negotiation.features.operations payloads with
    | .error e => { status := 1, remark := some e.message }
    | .ok files =>
      { status := 0, folder := some folder,
        files := files.map fun (name, content) => (folder ++ "/" ++ name, content) }

/-- The configuration of the program: the defaults stand in for one that cannot be loaded, unless
    its file was named. -/
def configuration (env : Environment) (read : String → Option Bytes) :
    Except ConfigError Config :=
  match Config.load env fun path => (read path).bind Bytes.text? with
  | .ok config => .ok config
  | .error e => if (env "RDE_CONFIG").isSome then .error e else .ok {}

/-- What the program does in an environment, given how files can be read and the words behind its
    name. -/
def run (env : Environment) (read : String → Option Bytes) (words : List String) : Outcome :=
  match configuration env read with
  | .error e => { status := 1, remark := some e.message }
  | .ok config =>
    match Arguments.parse? words with
    | none => { status := 2, remark := some usage }
    | some .help => { status := 0, remark := some usage }
    | some .version => { status := 0, remark := some version }
    | some (.exporting records folder) => runExport config read records folder

/-! ## What is read -/

/-- The paths of the files that the program may read. -/
def mentioned (env : Environment) (words : List String) : List String :=
  (env "RDE_CONFIG").toList
    ++ match Arguments.parse? words with
       | some (.exporting records _) => records
       | _ => []

theorem readAll_congr {read read' : String → Option Bytes} {paths : List String}
    (h : ∀ path ∈ paths, read path = read' path) : readAll read paths = readAll read' paths := by
  induction paths with
  | nil => rfl
  | cons path rest ih =>
    simp only [readAll, h path (by simp), ih fun p hp => h p (by simp [hp])]

theorem configuration_congr {env : Environment} {read read' : String → Option Bytes}
    (h : ∀ path ∈ (env "RDE_CONFIG").toList, read path = read' path) :
    configuration env read = configuration env read' := by
  unfold configuration Config.load
  cases hc : env "RDE_CONFIG" with
  | none => rfl
  | some path => simp only [h path (by simp [hc])]

/-- What the program does depends on the files it mentions only. -/
theorem run_congr {env : Environment} {words : List String} {read read' : String → Option Bytes}
    (h : ∀ path ∈ mentioned env words, read path = read' path) :
    run env read words = run env read' words := by
  have hc : configuration env read = configuration env read' :=
    configuration_congr fun path hp => h path (by
      simp only [mentioned]; exact List.mem_append_left _ hp)
  unfold run
  rw [hc]
  split
  · rfl
  · split
    · rfl
    · rfl
    · rfl
    · rename_i records folder hw
      have hr : readAll read records = readAll read' records :=
        readAll_congr fun path hp => h path (by
          simp only [mentioned, hw]; exact List.mem_append_right _ hp)
      simp only [runExport, hr]

end CommandLine

end DeviceEnablement
