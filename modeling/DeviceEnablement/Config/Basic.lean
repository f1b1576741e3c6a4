/-
  The configuration of a controller.

  Four groups of values, each with a default.  `Config.validate` refuses values with which no
  negotiation or transfer could work, and names the first fault in a fixed order.
-/
import DeviceEnablement.Metadata
import DeviceEnablement.Text.Hexadecimal

namespace DeviceEnablement

/-- Where dictionaries are kept. -/
structure StorageConfig where
  /-- The folder that holds a folder for each device. -/
  dictionaryDir : String := "./rde"
  /-- The file of the annotation dictionary. -/
  annotationDictionary : Option String := none
  /-- Whether the registry is dumped beside the dictionaries each time it is built. -/
  dumpRegistry : Bool := false
  deriving DecidableEq

/-- What the controller offers to a device. -/
structure NegotiationConfig where
  concurrency : UInt8 := 1
  features : Features := ⟨0x13⟩
  maxChunk : UInt32 := 1024
  /-- Whether missing schema dictionaries are fetched once a device is ready. -/
  fetchDictionaries : Bool := true
  deriving DecidableEq

/-- The limits of transfers. -/
structure TransferConfig where
  /-- The most bytes that are accepted, in one chunk and in a whole response. -/
  maxReceiveBuffer : Nat := 65536
  deriving DecidableEq

/-- How operations are handled. -/
structure OperationConfig where
  /-- How long a caller waits for a result, in milliseconds. -/
  timeoutMs : Nat := 10000
  /-- How many events may wait for the manager. -/
  queueDepth : Nat := 256
  deriving DecidableEq

/-- The configuration of a controller. -/
structure Config where
  storage : StorageConfig := {}
  negotiation : NegotiationConfig := {}
  transfer : TransferConfig := {}
  operation : OperationConfig := {}
  deriving DecidableEq

/-! ## Faults -/

/-- Why a configuration cannot work. -/
inductive ConfigFault
  | noConcurrency
  | chunkTooSmall
  | unknownFeatures (bits : UInt16)
  | bufferTooSmall (buffer : Nat) (chunk : UInt32)
  | noTimeout
  | noQueue
  deriving DecidableEq

/-- The smallest chunk that a controller may offer. -/
def minChunk : UInt32 := 64

/-- The wording of a fault. -/
def ConfigFault.message : ConfigFault → String
  | noConcurrency => "mc_concurrency_support must be at least 1"
  | chunkTooSmall => s!"mc_max_transfer_chunk_size must be at least {minChunk}"
  | unknownFeatures bits =>
    "unknown feature bits in mc_feature_support " ++ Hexadecimal.padded 4 bits.toNat
  | bufferTooSmall buffer chunk =>
    s!"max_receive_buffer ({buffer}) is smaller than mc_max_transfer_chunk_size ({chunk})"
  | noTimeout => "operation timeout must be non-zero"
  | noQueue => "operation queue_depth must be non-zero"

/-- Why there is no configuration. -/
inductive ConfigError
  /-- The file cannot be read or written. -/
  | io
  /-- The content of the file is no configuration. -/
  | parse
  | invalid (fault : ConfigFault)
  deriving DecidableEq

/-- The wording of an error. -/
def ConfigError.message : ConfigError → String
  | io => "cannot access configuration file"
  | parse => "cannot parse configuration file"
  | invalid fault => s!"configuration validation failed: {fault.message}"

namespace Config

/-- The first fault of a configuration. -/
def fault? (c : Config) : Option ConfigFault :=
  if c.negotiation.concurrency = 0 then some .noConcurrency
  else if c.negotiation.maxChunk < minChunk then some .chunkTooSmall
  else if c.negotiation.features.bits &&& ~~~Features.known ≠ 0 then
    some (.unknownFeatures c.negotiation.features.bits)
  else if c.transfer.maxReceiveBuffer < c.negotiation.maxChunk.toNat then
    some (.bufferTooSmall c.transfer.maxReceiveBuffer c.negotiation.maxChunk)
  else if c.operation.timeoutMs = 0 then some .noTimeout
  else if c.operation.queueDepth = 0 then some .noQueue
  else none

/-- Whether negotiation and transfers can work. -/
def validate (c : Config) : Except ConfigError Unit :=
  match c.fault? with
  | some fault => .error (.invalid fault)
  | none => .ok ()

/-- The metadata of a device that has not told anything yet. -/
def metadata (c : Config) : Metadata :=
  { controllerConcurrency := c.negotiation.concurrency
    controllerFeatures := c.negotiation.features
    controllerMaxChunk := c.negotiation.maxChunk }

end Config

end DeviceEnablement
