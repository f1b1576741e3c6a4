/-
  Strings with a one-byte length.

  A `VarString` is a character format, a length that counts the closing NUL, the UTF-8 bytes of the
  text and that NUL.  A reader takes the text up to the first NUL, so a missing terminator is
  tolerated; the format byte is kept and not interpreted.
-/
import DeviceEnablement.Wire.Reader

namespace DeviceEnablement

/-- A text with the byte that names its character format. -/
structure VarString where
  /-- One of the values of `VarString.Format`, or any other byte. -/
  format : UInt8
  text : String
  deriving DecidableEq

namespace VarString

namespace Format

def ascii : UInt8 := 1
def utf8 : UInt8 := 2
def utf16 : UInt8 := 3
def utf16le : UInt8 := 4
def utf16be : UInt8 := 5

/-- Every character format, by its byte. -/
def all : List UInt8 := [ascii, utf8, utf16, utf16le, utf16be]

end Format

/-- The written form.  The length, NUL included, must fit in one byte. -/
def encode (s : VarString) : Except MessageError Bytes :=
  let body := Bytes.utf8 s.text
  let length := body.length + 1
  if length > 255 then .error (.invalidLength "varstring" length)
  else .ok (s.format :: .ofNat length :: (body ++ [0]))

/-- Reads the format, the length and that many bytes; the text ends at the first NUL. -/
def read : Reader VarString := do
  let format ← Reader.u8
  let length ← Reader.u8
  let raw ← Reader.take length.toNat
  match Bytes.text? (raw.takeWhile (· ≠ 0)) with
  | some text => return { format, text }
  | none => Reader.fail (.invalidUtf8 "varstring")

end VarString

end DeviceEnablement
