import HsmSimulator.Core.Environment

/-!
# File operations

The parts of `std::filesystem` and of the stream library the simulator uses, on
the model of the files below the storage root.
-/

namespace HsmSimulator

namespace Path

/-- `path += suffix`: the suffix extends the file name. -/
def extend : Path → Bytes → Path
  | [], suffix => [suffix]
  | [name], suffix => [name ++ suffix]
  | component :: rest, suffix => component :: extend rest suffix

/-- `directory / name`. -/
def child (directory : Path) (name : Bytes) : Path := directory ++ [name]

/-- `path.filename()`. -/
def filename (path : Path) : Bytes := path.getLastD []

/-- Position of the dot that starts the extension: the last one, unless it
starts the name. -/
def extensionStart (name : Bytes) : Nat :=
  let suffix := (name.reverse.takeWhile (· ≠ 46)).length
  if suffix + 1 < name.length then name.length - suffix - 1 else name.length

/-- `path.extension()` of a file name. -/
def extension (name : Bytes) : Bytes := name.drop (extensionStart name)

/-- `path.stem()` of a file name. -/
def stem (name : Bytes) : Bytes := name.take (extensionStart name)

/-- The path is a direct entry of the directory. -/
def isEntryOf (directory path : Path) : Bool :=
  path ≠ [] && path.dropLast = directory

end Path

namespace FileSystem

variable (disk : FileSystem)

/-- `fs::exists`. -/
def hasPath (path : Path) : Bool :=
  (disk.files.get? path).isSome || (disk.directories.get? path).isSome

/-- Content of a regular file. -/
def content (path : Path) : Option Bytes := disk.files.get? path

/-- `fs::is_directory`. -/
def isDirectory (path : Path) : Bool := (disk.directories.get? path).isSome

def writeFile (path : Path) (bytes : Bytes) : FileSystem :=
  { disk with files := disk.files.insert path bytes }

/-- Removal of a file; removing a missing file is no error. -/
def removeFile (path : Path) : FileSystem :=
  { disk with files := disk.files.erase path }

/-- `fs::create_directories`; it throws where a file has the name. -/
def createDirectories (oracle : Oracle) (path : Path) : Option FileSystem :=
  if oracle.directoryFails path || (disk.content path).isSome then none
  else some { disk with directories := disk.directories.emplace path () }

/-- The subdirectories of a directory. -/
def subdirectories (directory : Path) : List Path :=
  disk.directories.keys.filter (Path.isEntryOf directory)

/-- The regular files of a directory. -/
def regularFiles (directory : Path) : List Path :=
  disk.files.keys.filter (Path.isEntryOf directory)

end FileSystem

/-- State of an output stream after its data was written and after it was closed,
with the content of the file.  `none` is a file that could not be created. -/
structure StreamResult where
  content : Option Bytes
  goodAfterWrite : Bool
  goodAfterClose : Bool

/-- Write data to a new file. -/
def streamResult (result : WriteResult) (data : Bytes) : StreamResult :=
  match result with
  | .openFails => ⟨none, false, false⟩
  | .failsAtWrite kept => ⟨some (data.take kept), false, false⟩
  | .failsAtClose kept => ⟨some (data.take kept), true, false⟩
  | .complete => ⟨some data, true, true⟩

/-- The file after a stream. -/
def FileSystem.afterStream (disk : FileSystem) (path : Path) (stream : StreamResult) :
    FileSystem :=
  match stream.content with
  | some bytes => disk.writeFile path bytes
  | none => disk

/-- `fs::remove(path, ec)`, with its error. -/
def FileSystem.remove (disk : FileSystem) (oracle : Oracle) (path : Path) :
    FileSystem × Bool :=
  if oracle.removeFails path then (disk, true) else (disk.removeFile path, false)

/-- Write a temporary file and rename it.  The flag says whether all went well; if
not, the temporary file is removed again.  `complete` is false where the writer of
the data threw. -/
def FileSystem.publish (disk : FileSystem) (oracle : Oracle) (temporary file : Path)
    (data : Bytes) (complete : Bool) : FileSystem × Bool :=
  let stream := streamResult (oracle.writeResult temporary) data
  let output := disk.afterStream temporary stream
  if complete && stream.goodAfterClose && !oracle.renameFails temporary then
    ((output.removeFile temporary).writeFile file data, true)
  else ((output.remove oracle temporary).1, false)

end HsmSimulator
