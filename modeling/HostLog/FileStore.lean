import HostLog.Properties

/-!
# Property sets in files

A file system as far as reading one file goes, and the property set that a file holds. The bytes
are decoded as a whole before the document is looked at, so a file that is not UTF-8 is refused as
such, wherever in it the fault lies.
-/

namespace HostLog

/-- What a path can lead to. -/
inductive FileNode where
  | file (content : ByteArray)
  | directory

/-- What each path leads to. -/
structure FileStore where
  node? : String → Option FileNode

namespace FileStore

/-- The store in which `path` leads to `node` and no other path leads anywhere. -/
def single (path : String) (node : FileNode) : FileStore :=
  ⟨fun p => if p = path then some node else none⟩

/-- The bytes at a path. A path with a NUL is refused before it is looked up, and an empty path
leads nowhere. -/
def read (store : FileStore) (path : String) : Except FileError ByteArray :=
  if path.toList.contains '\x00' then .error .nulInPath
  else if path.isEmpty then .error .notFound
  else
    match store.node? path with
    | none => .error .notFound
    | some .directory => .error .isDirectory
    | some (.file content) => .ok content

end FileStore

/-- The text that bytes are in UTF-8. -/
def decodeText (content : ByteArray) : Except FileError String :=
  match String.fromUTF8? content with
  | some text => .ok text
  | none => .error .notUtf8

/-- The set that a file's content holds. -/
def Properties.ofContent (content : ByteArray) : Except Error Properties := do
  let text ← (decodeText content).mapError .io
  Properties.ofJson text

/-- The set that the file at a path holds. -/
def Properties.ofFile (store : FileStore) (path : String) : Except Error Properties := do
  let content ← (store.read path).mapError .io
  Properties.ofContent content

end HostLog
