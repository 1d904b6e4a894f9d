import LocaleRelay.Files.Route

/-!
# File systems

A file tree together with the working directory, and the operations on it: looking up, making
directories, writing and appending, reading, listing. An operation that is refused leaves the tree
as it was; making a whole chain of directories may stop half-way and then keeps what it made.
-/

namespace LocaleRelay.Files

/-- A file tree and the place of the directory from which relative paths start. -/
structure FileSystem where
  root : Node
  working : Location

namespace FileSystem

/-- Walk a route from the root or the working directory. -/
def follow (fs : FileSystem) (purpose : Purpose) (route : Route) : Except Fault Spot :=
  walk fs.root purpose linkLimit (if route.absolute then [] else fs.working) route.parts

/-- Where a path leads. -/
def locate (fs : FileSystem) (purpose : Purpose) (path : RawPath) : Except Fault Spot :=
  (Route.parse path).bind (fs.follow purpose)

/-- The place and the node that a path stands for. -/
def lookup (fs : FileSystem) (path : RawPath) : Except Fault (Location × Node) :=
  match fs.locate .reach path with
  | .ok (.found place node) => .ok (place, node)
  | .ok (.vacant _ _) => .error .notFound
  | .error fault => .error fault

/-- Whether a path leads to a node. -/
def reaches (fs : FileSystem) (path : RawPath) : Bool := (fs.lookup path).isOk

/-- Whether a path leads to a regular file. -/
def isFile (fs : FileSystem) (path : RawPath) : Bool :=
  match fs.lookup path with
  | .ok (_, node) => node.isFile
  | .error _ => false

/-- Whether a path leads to a directory. -/
def isDirectory (fs : FileSystem) (path : RawPath) : Bool :=
  match fs.lookup path with
  | .ok (_, node) => node.isDirectory
  | .error _ => false

/-- The tree with a node at a place. -/
def set (fs : FileSystem) (place : Location) (node : Node) : FileSystem :=
  { fs with root := fs.root.put place node }

/-- Make one directory. A name that is taken is refused, by a link that leads nowhere too, and so
is a path that ends in a dot. -/
def makeDirectory (fs : FileSystem) (path : RawPath) : Except Fault FileSystem := do
  let route ← Route.parse path
  let parts := (route.parts.reverse.dropWhile (·.isEmpty)).reverse
  match parts.getLast? with
  | none => .error .alreadyExists
  | some last =>
    if last = selfName ∨ last = upName then
      discard <| fs.follow .reach { route with parts := parts.dropLast ++ [[]] }
      .error .alreadyExists
    else
      match ← fs.follow .entry { route with parts } with
      | .found _ _ => .error .alreadyExists
      | .vacant dir name => .ok (fs.set (dir ++ [name]) (.directory []))

/-- Make the first of some directories, each of which lies in the next, and before it those that
are missing. A directory that is there already is as good as one made. -/
def makeChain (fs : FileSystem) : List RawPath → FileSystem × Except Fault Unit
  | [] => (fs, .ok ())
  | path :: above =>
    match fs.makeDirectory path with
    | .ok made => (made, .ok ())
    | .error .notFound =>
      match fs.makeChain above with
      | (fs, .error fault) => (fs, .error fault)
      | (fs, .ok ()) =>
        match fs.makeDirectory path with
        | .ok made => (made, .ok ())
        | .error fault => (fs, if fs.isDirectory path then .ok () else .error fault)
    | .error fault => (fs, if fs.isDirectory path then .ok () else .error fault)

/-- Make a directory and those above it that are missing. -/
def makeAll (fs : FileSystem) (path : RawPath) : FileSystem × Except Fault Unit :=
  fs.makeChain (Path.ancestors path)

/-- What a file or a device holds after bytes are added to it. -/
def appended (node : Node) (bytes : ByteArray) : Except Fault Node :=
  match node with
  | .file content executable => .ok (.file (content ++ bytes) executable)
  | .device .full => if bytes.isEmpty then .ok node else .error .noSpace
  | .device .null => .ok node
  | .directory _ => .error .isDirectory
  | .link _ => .error .tooManyLinks

/-- A node without what it held. -/
def emptied : Node → Node
  | .file _ executable => .file ByteArray.empty executable
  | node => node

/-- Write a file anew: what it held is dropped, and a file that is missing is made. -/
def write (fs : FileSystem) (path : RawPath) (content : ByteArray) : Except Fault FileSystem :=
  match fs.locate .make path with
  | .ok (.found place node) => (appended (emptied node) content).map (fs.set place)
  | .ok (.vacant dir name) => .ok (fs.set (dir ++ [name]) (.file content false))
  | .error fault => .error fault

/-- The place of a file opened for adding at its end. The file has to be there. -/
def openAppend (fs : FileSystem) (path : RawPath) : Except Fault Location :=
  match fs.lookup path with
  | .ok (_, .directory _) => .error .isDirectory
  | .ok (place, _) => .ok place
  | .error fault => .error fault

/-- Add bytes at the end of an opened file. -/
def append (fs : FileSystem) (place : Location) (bytes : ByteArray) : Except Fault FileSystem :=
  match fs.root.at? place with
  | some node => (appended node bytes).map (fs.set place)
  | none => .error .notFound

/-- The files after pieces of bytes are added one by one at the end of an opened file. A piece that
is not taken is lost. -/
def appendAll (fs : FileSystem) (place : Location) (pieces : List ByteArray) : FileSystem :=
  pieces.foldl
    (fun fs bytes =>
      match fs.append place bytes with
      | .ok after => after
      | .error _ => fs)
    fs

/-- The bytes of a file. -/
def read (fs : FileSystem) (path : RawPath) : Except Fault ByteArray :=
  match fs.lookup path with
  | .ok (_, .file content _) => .ok content
  | .ok (_, .directory _) => .error .isDirectory
  | .ok (_, _) => .ok ByteArray.empty
  | .error fault => .error fault

/-- The text of a file, which has to be UTF-8. -/
def readText (fs : FileSystem) (path : RawPath) : Except Fault String :=
  match fs.read path with
  | .ok bytes =>
    match String.fromUTF8? bytes with
    | some text => .ok text
    | none => .error .notText
  | .error fault => .error fault

/-- The entries of a directory in the order in which it holds them. -/
def entries (fs : FileSystem) (path : RawPath) : Except Fault (List (Name × Node)) :=
  match fs.lookup path with
  | .ok (_, .directory inner) => .ok inner
  | .ok (_, _) => .error .notDirectory
  | .error fault => .error fault

/-- The bytes of the regular file that a path leads to. -/
def fileContent? (fs : FileSystem) (path : RawPath) : Option ByteArray :=
  match fs.lookup path with
  | .ok (_, .file content _) => some content
  | _ => none

/-- The tree with a node under a vacant name; a name that is taken keeps its node. -/
def place (fs : FileSystem) (path : RawPath) (node : Node) : FileSystem :=
  match fs.locate .entry path with
  | .ok (.vacant dir name) => fs.set (dir ++ [name]) node
  | _ => fs

/-- The file system as a process sees it that works in a directory. -/
def within (fs : FileSystem) (working : Location) : FileSystem := { fs with working }

end FileSystem

end LocaleRelay.Files
