/-
  Configuration from the environment.

  A configuration is loaded in three steps, of which a later one overrides an earlier one: the
  defaults, the file that the variable `RDE_CONFIG` names, and the other variables.  A variable
  whose text is no number of the wanted size is ignored.
-/
import DeviceEnablement.Config.Document
import DeviceEnablement.Text.Numeral

namespace DeviceEnablement

/-- The variables that are set. -/
abbrev Environment : Type := String → Option String

namespace Config

/-! ## Variables -/

/-- The names of the variables that matter. -/
def variableNames : List String :=
  ["RDE_CONFIG", "RDE_DICTIONARY_DIR", "RDE_ANNOTATION_DICTIONARY", "RDE_DUMP_REGISTRY",
   "RDE_MC_CONCURRENCY", "RDE_MC_FEATURES", "RDE_MC_MAX_CHUNK", "RDE_FETCH_DICTIONARIES",
   "RDE_MAX_RECEIVE_BUFFER", "RDE_OPERATION_TIMEOUT_MS", "RDE_QUEUE_DEPTH"]

/-- Whether a text means yes: `1`, or the word `true` in letters of either case. -/
def isYes (text : String) : Bool :=
  text = "1" ∨ text.toList.map Char.toLower = "true".toList

/-- The number in a variable, or the value it would override. -/
def numberOr (max : Nat) (text : Option String) (old : Nat) : Nat :=
  (text.bind (Numeral.natUpTo? max)).getD old

/-- The feature bits in a text: hexadecimal after `0x`, else decimal. -/
def featureBits? (text : String) : Option Nat :=
  match text.toList with
  | '0' :: 'x' :: digits => (Numeral.unsigned? 16 digits).filter (· ≤ 65535)
  | _ => Numeral.natUpTo? 65535 text

/-- The group on storage as the environment has it. -/
def overrideStorage (env : Environment) (c : StorageConfig) : StorageConfig :=
  { dictionaryDir := (env "RDE_DICTIONARY_DIR").getD c.dictionaryDir
    annotationDictionary :=
      match env "RDE_ANNOTATION_DICTIONARY" with
      | some path => if path = "" then none else some path
      | none => c.annotationDictionary
    dumpRegistry := ((env "RDE_DUMP_REGISTRY").map isYes).getD c.dumpRegistry }

/-- The group on negotiation as the environment has it. -/
def overrideNegotiation (env : Environment) (c : NegotiationConfig) : NegotiationConfig :=
  { concurrency := .ofNat (numberOr 255 (env "RDE_MC_CONCURRENCY") c.concurrency.toNat)
    features := ⟨.ofNat (((env "RDE_MC_FEATURES").bind featureBits?).getD c.features.bits.toNat)⟩
    maxChunk := .ofNat (numberOr 4294967295 (env "RDE_MC_MAX_CHUNK") c.maxChunk.toNat)
    fetchDictionaries := ((env "RDE_FETCH_DICTIONARIES").map isYes).getD c.fetchDictionaries }

/-- The group on transfers as the environment has it. -/
def overrideTransfer (env : Environment) (c : TransferConfig) : TransferConfig :=
  { maxReceiveBuffer := numberOr maxWord (env "RDE_MAX_RECEIVE_BUFFER") c.maxReceiveBuffer }

/-- The group on operations as the environment has it. -/
def overrideOperation (env : Environment) (c : OperationConfig) : OperationConfig :=
  { timeoutMs := numberOr maxWord (env "RDE_OPERATION_TIMEOUT_MS") c.timeoutMs
    queueDepth := numberOr maxWord (env "RDE_QUEUE_DEPTH") c.queueDepth }

/-- A configuration as the environment has it. -/
def override (env : Environment) (c : Config) : Config :=
  { storage := overrideStorage env c.storage
    negotiation := overrideNegotiation env c.negotiation
    transfer := overrideTransfer env c.transfer
    operation := overrideOperation env c.operation }

/-! ## Loading -/

/-- The configuration in a file, of which `content` is the text if it can be read. -/
def ofFile (content : Option String) : Except ConfigError Config :=
  match content with
  | some text => ofText text
  | none => .error .io

/-- The configuration of a program that runs in `env` and reads files by `read`. -/
def load (env : Environment) (read : String → Option String) : Except ConfigError Config := do
  let base ← match env "RDE_CONFIG" with
    | some path => ofFile (read path)
    | none => .ok {}
  let config := override env base
  config.validate
  return config

end Config

end DeviceEnablement
