/-
  The place of a chunk in a multipart transfer, and what the peer asks for next.
-/
import DeviceEnablement.Message.Error

namespace DeviceEnablement

/-- The place of a chunk in its transfer. -/
inductive TransferFlag
  | start
  | middle
  | finish
  | startAndEnd
  deriving DecidableEq

namespace TransferFlag

/-- The code of a flag. -/
def code : TransferFlag → UInt8
  | start => 0
  | middle => 1
  | finish => 2
  | startAndEnd => 3

/-- The name of a flag. -/
def name : TransferFlag → String
  | start => "Start"
  | middle => "Middle"
  | finish => "End"
  | startAndEnd => "StartAndEnd"

/-- The flag with this code. -/
def ofCode (code : UInt8) : Except MessageError TransferFlag :=
  match code with
  | 0 => .ok start
  | 1 => .ok middle
  | 2 => .ok finish
  | 3 => .ok startAndEnd
  | other => .error (.invalidTransferFlag other)

/-- The flag of a chunk, by whether it is the first and whether it is the last. -/
def ofPlace (first last : Bool) : TransferFlag :=
  match first, last with
  | true, true => startAndEnd
  | true, false => start
  | false, true => finish
  | false, false => middle

/-- Whether the chunk ends the transfer, and so carries the checksum. -/
def isEnd : TransferFlag → Bool
  | finish | startAndEnd => true
  | start | middle => false

end TransferFlag

/-- What is asked of, or answered by, the peer of a transfer. -/
inductive TransferOperation
  | firstPart
  | nextPart
  | abort
  | complete
  deriving DecidableEq

namespace TransferOperation

/-- The code of an operation. -/
def code : TransferOperation → UInt8
  | firstPart => 0
  | nextPart => 1
  | abort => 2
  | complete => 3

/-- The name of an operation. -/
def name : TransferOperation → String
  | firstPart => "FirstPart"
  | nextPart => "NextPart"
  | abort => "Abort"
  | complete => "Complete"

/-- The operation with this code. -/
def ofCode (code : UInt8) : Except MessageError TransferOperation :=
  match code with
  | 0 => .ok firstPart
  | 1 => .ok nextPart
  | 2 => .ok abort
  | 3 => .ok complete
  | other => .error (.invalidTransferOperation other)

end TransferOperation

end DeviceEnablement
