/-
  The store of dictionaries of one device.

  Dictionaries gather chunk by chunk in memory; a complete one is also kept as a file in the
  device's folder and found there again later.

  1. `addChunk` and `complete` finish a dictionary: it is complete in memory even when its file
     cannot be written.
  2. `loadPersisted` takes every complete dictionary among the files, under the key that the file
     itself names; of two files with one key the later one in the listing stays.  A listing that
     breaks off is an error, but what was taken until then stays.
  3. `reset` takes a key out of memory first and then removes the file.
-/
import DeviceEnablement.Dictionary.Basic
import DeviceEnablement.Table
import DeviceEnablement.Uuid

namespace DeviceEnablement

/-- The dictionaries of one device, in memory and on disk. -/
structure Store where
  uuid : Uuid
  dictionaries : Table DictionaryKey Dictionary := {}
  /-- The folder of the device. -/
  folder : Folder := {}

namespace Store

/-- The dictionary under a key, complete or not. -/
def get? (s : Store) (key : DictionaryKey) : Option Dictionary := s.dictionaries.get? key

/-- The dictionary under a key, if it is complete. -/
def getComplete? (s : Store) (key : DictionaryKey) : Option Dictionary :=
  (s.get? key).filter (·.complete)

/-- Whether a complete dictionary is there. -/
def containsComplete (s : Store) (key : DictionaryKey) : Bool := (s.getComplete? key).isSome

/-- The dictionary of annotations, if it is complete. -/
def annotations? (s : Store) : Option Dictionary := s.getComplete? .reserved

/-- The keys in ascending order. -/
def keys (s : Store) : List DictionaryKey := s.dictionaries.keys.mergeSort DictionaryKey.le

/-- The number of dictionaries. -/
def size (s : Store) : Nat := s.dictionaries.size

/-- The place of a dictionary's file below the root of all devices. -/
def pathFor (s : Store) (key : DictionaryKey) : String := s.uuid.text ++ "/" ++ key.fileName

/-- Puts a dictionary under its key. -/
def insert (s : Store) (d : Dictionary) : Store :=
  { s with dictionaries := s.dictionaries.insert d.key d }

/-- Writes a dictionary to its file. -/
def save (s : Store) (d : Dictionary) : Except StoreError Unit × Store :=
  match d.save s.folder with
  | (result, folder) => (result, { s with folder })

/-- Marks a dictionary as complete and writes its file. -/
def finish (s : Store) (d : Dictionary) : Except StoreError Unit × Store :=
  (s.insert d.markComplete).save d.markComplete

/-! ## Gathering -/

/-- The content of a chunk: without its last byte if that is a check. -/
def chunkContent (payload : Bytes) (hasChecksum : Bool) : Bytes :=
  if hasChecksum then payload.dropLast else payload

/-- Appends one chunk to the dictionary under a key; the final one completes it. -/
def addChunk (s : Store) (key : DictionaryKey) (payload : Bytes) (hasChecksum isFinal : Bool) :
    Except StoreError Unit × Store :=
  if payload.isEmpty then
    (.error (.invalidArgument s!"empty chunk for dictionary {key.text}"), s)
  else
    let d := (s.get? key).getD (.new key key.fileName)
    match d.append (chunkContent payload hasChecksum) with
    | .error e => (.error e, s.insert d)
    | .ok d => if isFinal then s.finish d else (.ok (), s.insert d)

/-- Completes a dictionary of which something, but not all, has arrived. -/
def complete (s : Store) (key : DictionaryKey) : Except StoreError Unit × Store :=
  match s.get? key with
  | some d =>
    if !d.data.isEmpty && !d.complete then s.finish d
    else
      (.error (.invalidArgument s!"no partial data to complete for dictionary {key.text}"), s)
  | none =>
    (.error (.invalidArgument s!"no partial data to complete for dictionary {key.text}"), s)

/-- Forgets a dictionary and removes its file. -/
def reset (s : Store) (key : DictionaryKey) : Except StoreError Unit × Store :=
  let d := (s.get? key).getD (.new key key.fileName)
  match d.removeFile s.folder with
  | (result, folder) => (result, { s with dictionaries := s.dictionaries.erase key, folder })

/-! ## Local files -/

/-- Takes the content of a local file as the whole dictionary under a key. -/
def createFromFile (s : Store) (key : DictionaryKey) (path : String) (content : Option Bytes) :
    Except StoreError Dictionary × Store :=
  match content with
  | none => (.error (.io .notFound), s)
  | some [] => (.error (.invalidArgument s!"dictionary file {path} is empty"), s)
  | some data =>
    let d := Dictionary.ofContent key key.fileName data
    (.ok d, s.insert d)

/-- Takes the content of a local file as the dictionary of annotations. -/
def loadAnnotations (s : Store) (path : String) (content : Option Bytes) :
    Except StoreError Unit × Store :=
  match s.createFromFile .reserved path content with
  | (.ok _, s) => (.ok (), s)
  | (.error e, s) => (.error e, s)

/-! ## Reloading -/

/-- Whether a file name has the ending of dictionary files, with something in front of it. -/
def isDictionaryFile (name : String) : Bool :=
  ".bin".toList.isSuffixOf name.toList && name.length > 4

/-- Takes the dictionary in a file if it is complete, and counts it. -/
def loadFile (s : Store) (loaded : Nat) (name : String) : Nat × Store :=
  if isDictionaryFile name then
    match Dictionary.load name s.folder with
    | (.ok d, folder) =>
      let s := { s with folder }
      if d.complete then (loaded + 1, s.insert d) else (loaded, s)
    | (.error _, folder) => (loaded, { s with folder })
  else (loaded, s)

/-- Takes the complete dictionaries among the files with these names, as far as the listing that
    names them goes; counts them. -/
def loadFiles (s : Store) (loaded : Nat) (names : List String) : Except StoreError Nat × Store :=
  match s.folder.advance with
  | (.error e, folder) => (.error (.io e), { s with folder })
  | (.ok (), folder) =>
    match names with
    | [] => (.ok loaded, { s with folder })
    | name :: rest =>
      match loadFile { s with folder } loaded name with
      | (loaded, s) => loadFiles s loaded rest

/-- Takes every complete dictionary that is kept on disk; the result is their number. -/
def loadPersisted (s : Store) : Except StoreError Nat × Store :=
  match s.folder.list with
  | (.error .notFound, folder) => (.ok 0, { s with folder })
  | (.error e, folder) => (.error (.io e), { s with folder })
  | (.ok entries, folder) => loadFiles { s with folder } 0 (entries.map (·.1))

end Store

end DeviceEnablement
