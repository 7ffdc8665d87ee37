import ClusterNode.Bytes
import ClusterNode.Object.Path
import ClusterNode.SortedMap
import ClusterNode.Time.Timestamp

/-!
# Files of a node

What a node reads: configuration files in the tree below one directory, and a
status file for each object. A configuration file is named by its place below the
directory; the place without the extension `conf` is the path of its object.
-/

namespace ClusterNode

/-- The content of a file since a time. -/
structure FileVersion where
  modified : Timestamp
  content : Bytes
  deriving DecidableEq

/-- What stands at the place of the configuration directory. -/
inductive ConfigDirectory where
  | missing
  /-- A file that is no directory. -/
  | plainFile
  | tree (files : SortedMap String FileVersion) (directories : SortedMap String Unit)
  deriving DecidableEq

/-- What stands at the place of a status file. -/
inductive StatusEntry where
  | file (version : FileVersion)
  | directory
  deriving DecidableEq

namespace ConfigDirectory

/-- The files of a tree. -/
def files : ConfigDirectory → SortedMap String FileVersion
  | .tree files _ => files
  | _ => ∅

/-- The directories in which a file stands, the outermost first. -/
def parents (filename : String) : List String :=
  let parts := (ObjectPath.parts filename).dropLast
  (List.range parts.length).map fun n => "/".intercalate (parts.take (n + 1))

/-- Write a file, with the directories that it needs. -/
def write (d : ConfigDirectory) (filename : String) (v : FileVersion) : ConfigDirectory :=
  let put (files : SortedMap String FileVersion) (directories : SortedMap String Unit) :=
    ConfigDirectory.tree (files.insert filename v)
      ((parents filename).foldl (fun m dir => m.insert dir ()) directories)
  match d with
  | .missing => put ∅ ∅
  | .plainFile => .plainFile
  | .tree files directories => put files directories

/-- The file of a name. -/
def read? (d : ConfigDirectory) (filename : String) : Option FileVersion :=
  d.files.get? filename

/-- Remove a file. -/
def unlink (d : ConfigDirectory) (filename : String) : ConfigDirectory :=
  match d with
  | .tree files directories => .tree (files.erase filename) directories
  | d => d

/-- Whether a directory of a name exists. -/
def hasDirectory (d : ConfigDirectory) (name : String) : Bool :=
  match d with
  | .tree _ directories => directories.contains name
  | _ => false

/-- Remove a directory with all that is below it. -/
def removeDirectory (d : ConfigDirectory) (name : String) : ConfigDirectory :=
  let isBelow (file : String) : Bool := file.startsWith (name ++ "/")
  match d with
  | .tree files directories =>
    .tree (files.filter fun f _ => !isBelow f)
      (directories.filter fun dir _ => dir != name && !isBelow dir)
  | d => d

/-- The parts of a place. -/
def depth (filename : String) : Nat := (ObjectPath.parts filename).length

/-- The object of a configuration file, if it is one. Where nothing but a dot stands
in front of the extension, the dot of the extension is a part of the name. -/
def objectOf? (filename : String) : Option ObjectPath :=
  let base := (ObjectPath.parts filename).getLast?.getD ""
  let extension := if base = "..conf" then "conf" else ".conf"
  if base.endsWith ".conf" && base != ".conf" then
    (ObjectPath.parse (filename.dropEnd extension.length).toString).toOption
  else none

end ConfigDirectory

/-- A configuration file that a scan found. -/
structure ConfigFile where
  filename : String
  modified : Timestamp
  deriving DecidableEq

namespace ConfigDirectory

/-- The configuration files by their objects; none if there is no directory to read.

Of several files of one object the one read last counts. A directory is read after the one
that it is in, but between sibling directories, with all that is below them, the order in
which the file system lists them decides. That order is not part of a tree of files: here the
file deepest in the tree is read last, and of equally deep ones the last by name. -/
def scan (d : ConfigDirectory) : Option (SortedMap ObjectPath ConfigFile) :=
  match d with
  | .plainFile => none
  | d =>
    some (d.files.entries.foldl
      (fun found (filename, v) =>
        match objectOf? filename with
        | none => found
        | some p =>
          match found.get? p with
          | some known =>
            if depth filename < depth known.filename then found
            else found.insert p ⟨filename, v.modified⟩
          | none => found.insert p ⟨filename, v.modified⟩) ∅)

end ConfigDirectory

end ClusterNode
