/-
  The folder in which the files of one device are kept.

  A `Folder` is what stands at its place on disk, together with an oracle that says which of the
  coming accesses fail although nothing in the folder explains it.

  1. A place holds nothing, a folder with named entries in the order in which they are listed, or a
     plain file that is in the way.
  2. Every primitive is one access: it fails if the oracle says so, or if the place does not allow
     it, and then changes nothing.
  3. `save` is how a file is replaced: the folder is made if it is not there, the content goes to a
     file beside the target, and that file takes the place of the target.
  4. A path leads to an entry by its last step (`nameAt?`).  What stands in folders inside of this
     one is not seen.
-/
import DeviceEnablement.Wire.Bytes

namespace DeviceEnablement

/-- Why an access to a file fails. -/
inductive FileError
  /-- Nothing has this name. -/
  | notFound
  /-- Anything else: a folder in place of a file, a file in place of a folder, a broken disk. -/
  | failed
  deriving DecidableEq

/-- What a name in a folder stands for. -/
inductive FolderEntry
  | file (content : Bytes)
  | folder
  deriving DecidableEq

/-- What stands at the place of a folder. -/
inductive Place
  | absent
  /-- A plain file is in the way. -/
  | blocked
  | listed (entries : List (String × FolderEntry))
  deriving DecidableEq

/-- A folder of files. -/
structure Folder where
  place : Place := .absent
  /-- The number of accesses so far. -/
  accesses : Nat := 0
  /-- Whether the access with this number fails. -/
  fails : Nat → Bool := fun _ => false

namespace Folder

/-- The entry that a list of entries has under a name. -/
def find? (name : String) (entries : List (String × FolderEntry)) : Option FolderEntry :=
  (entries.find? fun e => e.1 = name).map (·.2)

/-- Entries with a name bound anew: in place if it is there, at the end if not. -/
def bind (name : String) (entry : FolderEntry) :
    List (String × FolderEntry) → List (String × FolderEntry)
  | [] => [(name, entry)]
  | (other, old) :: rest =>
    if other = name then (name, entry) :: rest else (other, old) :: bind name entry rest

/-- Entries without a name. -/
def unbind (name : String) (entries : List (String × FolderEntry)) :
    List (String × FolderEntry) :=
  entries.filter fun e => e.1 ≠ name

/-- One access: counts it, and does `act` unless the oracle says that it fails. -/
def access {α : Type} (folder : Folder) (act : Place → Except FileError (α × Place)) :
    Except FileError α × Folder :=
  let counted := { folder with accesses := folder.accesses + 1 }
  if folder.fails folder.accesses then (.error .failed, counted)
  else
    match act folder.place with
    | .ok (value, place) => (.ok value, { counted with place })
    | .error e => (.error e, counted)

/-- Makes the folder if nothing stands at its place. -/
def make (folder : Folder) : Except FileError Unit × Folder :=
  folder.access fun
    | .absent => .ok ((), .listed [])
    | .blocked => .error .failed
    | .listed entries => .ok ((), .listed entries)

/-- The entries, in the order in which they are listed. -/
def list (folder : Folder) : Except FileError (List (String × FolderEntry)) × Folder :=
  folder.access fun
    | .absent => .error .notFound
    | .blocked => .error .failed
    | .listed entries => .ok (entries, .listed entries)

/-- Goes on in a listing: to its next entry, or past the last one. -/
def advance (folder : Folder) : Except FileError Unit × Folder :=
  folder.access fun place => .ok ((), place)

/-- The content of a file. -/
def read (folder : Folder) (name : String) : Except FileError Bytes × Folder :=
  folder.access fun
    | .absent => .error .notFound
    | .blocked => .error .failed
    | .listed entries =>
      match find? name entries with
      | some (.file content) => .ok (content, .listed entries)
      | some .folder => .error .failed
      | none => .error .notFound

/-- Writes a file, in place of the one with the same name. -/
def write (folder : Folder) (name : String) (content : Bytes) : Except FileError Unit × Folder :=
  folder.access fun
    | .absent => .error .notFound
    | .blocked => .error .failed
    | .listed entries =>
      match find? name entries with
      | some .folder => .error .failed
      | _ => .ok ((), .listed (bind name (.file content) entries))

/-- Puts a file in the place of another one. -/
def rename (folder : Folder) (source target : String) : Except FileError Unit × Folder :=
  folder.access fun
    | .absent => .error .notFound
    | .blocked => .error .failed
    | .listed entries =>
      match find? source entries, find? target entries with
      | some (.file _), some .folder => .error .failed
      | some (.file content), _ =>
        .ok ((), .listed (bind target (.file content) (unbind source entries)))
      | some .folder, _ => .error .failed
      | none, _ => .error .notFound

/-- Removes a file. -/
def remove (folder : Folder) (name : String) : Except FileError Unit × Folder :=
  folder.access fun
    | .absent => .error .notFound
    | .blocked => .error .failed
    | .listed entries =>
      match find? name entries with
      | some (.file _) => .ok ((), .listed (unbind name entries))
      | some .folder => .error .failed
      | none => .error .notFound

/-- Whether something has this name. -/
def has (folder : Folder) (name : String) : Bool :=
  match folder.place with
  | .listed entries => (find? name entries).isSome
  | _ => false

/-- The name of the file that is written before it takes the place of `name`. -/
def temporary (name : String) : String := name ++ ".tmp"

/-- Replaces a file in one go: what was there stays until the new content is complete. -/
def save (folder : Folder) (name : String) (content : Bytes) : Except FileError Unit × Folder :=
  match folder.make with
  | (.error e, folder) => (.error e, folder)
  | (.ok (), folder) =>
    match folder.write (temporary name) content with
    | (.error e, folder) => (.error e, folder)
    | (.ok (), folder) => folder.rename (temporary name) name

/-- Writes a file, making the folder if it is not there. -/
def put (folder : Folder) (name : String) (content : Bytes) : Except FileError Unit × Folder :=
  match folder.make with
  | (.error e, folder) => (.error e, folder)
  | (.ok (), folder) => folder.write name content

/-- Removes a file; it is no error if there is none. -/
def discard (folder : Folder) (name : String) : Except FileError Unit × Folder :=
  match folder.remove name with
  | (.error .notFound, folder) => (.ok (), folder)
  | result => result

/-- Makes a folder inside this one; it is no error if there is one of that name. -/
def makeInner (folder : Folder) (name : String) : Except FileError Unit × Folder :=
  match folder.make with
  | (.error e, folder) => (.error e, folder)
  | (.ok (), folder) =>
    folder.access fun
      | .listed entries =>
        match find? name entries with
        | none => .ok ((), .listed (bind name .folder entries))
        | some .folder => .ok ((), .listed entries)
        | some (.file _) => .error .failed
      | _ => .error .failed

/-! ## Paths -/

/-- The steps of a path, without those that stay in the same folder. -/
def steps (path : String) : List String :=
  (path.splitOn "/").filter fun step => step ≠ "" ∧ step ≠ "."

/-- The name of a file to which a path leads in the folder where it begins; none if it leads
    elsewhere, or can only lead to a folder. -/
def nameAt? (path : String) : Option String :=
  match steps path with
  | [name] =>
    if name = ".." ∨ path.startsWith "/" ∨ !path.endsWith name then none else some name
  | _ => none

/-- The content of the file to which a path leads. -/
def contentAt? (folder : Folder) (path : String) : Option Bytes :=
  match folder.place, nameAt? path with
  | .listed entries, some name =>
    match find? name entries with
    | some (.file content) => some content
    | _ => none
  | _, _ => none

/-- Writes the file to which a path leads, making the folder if it is not there.  A path that leads
    elsewhere is an error. -/
def putAt (folder : Folder) (path : String) (content : Bytes) : Except FileError Unit × Folder :=
  match nameAt? path with
  | some name => folder.put name content
  | none => (.error .notFound, folder.make.2)

/-- Makes the folder to which a path leads, and this one.  Only the first one on the way is seen
    from here. -/
def makeAt (folder : Folder) (path : String) : Except FileError Unit × Folder :=
  match steps path with
  | name :: _ => if name = ".." then folder.make else folder.makeInner name
  | [] => folder.make

/-- The names in a folder in alphabetical order, those of folders with a slash behind them; none
    when it cannot be listed. -/
def names? (folder : Folder) : Option (List String) :=
  match folder.place with
  | .listed entries =>
    some ((entries.map fun
      | (name, .file _) => name
      | (name, .folder) => name ++ "/").mergeSort (fun a b => a ≤ b))
  | _ => none

end Folder

end DeviceEnablement
