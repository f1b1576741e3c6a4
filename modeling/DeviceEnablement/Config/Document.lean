/-
  The YAML form of a configuration.

  Reading: each group is a mapping, and so is the whole.  What is not named keeps its default, names
  that are not known are passed over, and a known one may stand only once.

  Writing: every value, group by group, in a fixed order.
-/
import DeviceEnablement.Config.Basic
import DeviceEnablement.Yaml.Reading
import DeviceEnablement.Json.Writing
import DeviceEnablement.Yaml.Writing

namespace DeviceEnablement

namespace Config

/-! ## Reading -/

/-- The entries of a mapping under their names; every name is a scalar. -/
def namedEntries? (root node : Yaml) : Option (List (String × Yaml)) := do
  let entries ← Yaml.entries? root node
  entries.mapM fun (key, value) => (Yaml.text? root key).map (·, value)

/-- The value under a name, read by `read`, or the default; none if the name stands twice or its
    value is no such value. -/
def field? {α : Type} (entries : List (String × Yaml)) (name : String) (read : Yaml → Option α)
    (default : α) : Option α :=
  match entries.filter fun entry => entry.1 = name with
  | [] => some default
  | [(_, value)] => read value
  | _ => none

/-- The greatest number that fits in 64 bits. -/
def maxWord : Nat := 18446744073709551615

/-- The group on storage in the document `root`. -/
def storage? (root node : Yaml) : Option StorageConfig := do
  let entries ← namedEntries? root node
  let dictionaryDir ← field? entries "dictionary_dir" (Yaml.text? root)
    ({} : StorageConfig).dictionaryDir
  let annotationDictionary ← field? entries "annotation_dictionary" (Yaml.optionalText? root) none
  let dumpRegistry ← field? entries "dump_registry" (Yaml.toBool? root) false
  return { dictionaryDir, annotationDictionary, dumpRegistry }

/-- The group on negotiation in the document `root`. -/
def negotiation? (root node : Yaml) : Option NegotiationConfig := do
  let default : NegotiationConfig := {}
  let entries ← namedEntries? root node
  let concurrency ← field? entries "mc_concurrency_support" (Yaml.natUpTo? 255 root)
    default.concurrency.toNat
  let features ← field? entries "mc_feature_support" (Yaml.natUpTo? 65535 root)
    default.features.bits.toNat
  let maxChunk ← field? entries "mc_max_transfer_chunk_size" (Yaml.natUpTo? 4294967295 root)
    default.maxChunk.toNat
  let fetchDictionaries ← field? entries "fetch_dictionaries" (Yaml.toBool? root)
    default.fetchDictionaries
  return { concurrency := .ofNat concurrency, features := ⟨.ofNat features⟩,
           maxChunk := .ofNat maxChunk, fetchDictionaries }

/-- The group on transfers in the document `root`. -/
def transfer? (root node : Yaml) : Option TransferConfig := do
  let entries ← namedEntries? root node
  let maxReceiveBuffer ← field? entries "max_receive_buffer" (Yaml.natUpTo? maxWord root)
    ({} : TransferConfig).maxReceiveBuffer
  return { maxReceiveBuffer }

/-- The group on operations in the document `root`. -/
def operation? (root node : Yaml) : Option OperationConfig := do
  let default : OperationConfig := {}
  let entries ← namedEntries? root node
  let timeoutMs ← field? entries "timeout_ms" (Yaml.natUpTo? maxWord root) default.timeoutMs
  let queueDepth ← field? entries "queue_depth" (Yaml.natUpTo? maxWord root) default.queueDepth
  return { timeoutMs, queueDepth }

/-- The configuration in a document. -/
def ofYaml? (root : Yaml) : Option Config := do
  let entries ← namedEntries? root root
  let storage ← field? entries "storage" (storage? root) {}
  let negotiation ← field? entries "negotiation" (negotiation? root) {}
  let transfer ← field? entries "transfer" (transfer? root) {}
  let operation ← field? entries "operation" (operation? root) {}
  return { storage, negotiation, transfer, operation }

/-- The configuration in the text of a file. -/
def ofText (text : String) : Except ConfigError Config :=
  match (Yaml.ofText? text).bind ofYaml? with
  | some config => .ok config
  | none => .error .parse

/-! ## Writing -/

/-- The settings of a configuration by their groups and names. -/
def settings (c : Config) : List (String × List (String × Json)) :=
  [("storage",
     [("dictionary_dir", .string c.storage.dictionaryDir),
      ("annotation_dictionary", (c.storage.annotationDictionary.map Json.string).getD .null),
      ("dump_registry", .bool c.storage.dumpRegistry)]),
   ("negotiation",
     [("mc_concurrency_support", Json.ofNat c.negotiation.concurrency.toNat),
      ("mc_feature_support", Json.ofNat c.negotiation.features.bits.toNat),
      ("mc_max_transfer_chunk_size", Json.ofNat c.negotiation.maxChunk.toNat),
      ("fetch_dictionaries", .bool c.negotiation.fetchDictionaries)]),
   ("transfer", [("max_receive_buffer", Json.ofNat c.transfer.maxReceiveBuffer)]),
   ("operation",
     [("timeout_ms", Json.ofNat c.operation.timeoutMs),
      ("queue_depth", Json.ofNat c.operation.queueDepth)])]

/-- The written form of a setting, two levels deep. -/
def valueText : Json → String
  | .string text => String.ofList (Yaml.written 4 text)
  | value => value.compact

/-- The line of a setting.  A text that stands behind a bar may bring its own last line break. -/
def settingText (name : String) (value : Json) : String :=
  let line := "  " ++ name ++ ": " ++ valueText value
  if Yaml.endsBroken line.toList then line else line ++ "\n"

/-- The lines of a group. -/
def groupText (name : String) (settings : List (String × Json)) : String :=
  name ++ ":\n" ++ String.join (settings.map fun (name, value) => settingText name value)

/-- The text of a configuration file. -/
def text (c : Config) : String :=
  String.join (c.settings.map fun (name, settings) => groupText name settings)

end Config

end DeviceEnablement
