import LocaleRelay.Files.Fault
import LocaleRelay.Files.Path

/-!
# Routes through a file tree

How a path leads to a place: part by part from a starting directory, through symbolic links, up to
a limit of links. The last part decides the outcome: it is found, or it is vacant in a directory
that exists. Every place a walk ends at is free of links and dots, so equal places are the same
node.
-/

namespace LocaleRelay.Files

/-- Most links a walk may pass through. -/
def linkLimit : Nat := 40

/-- Most bytes a name may have. -/
def nameLimit : Nat := 255

/-- A path has fewer bytes than this. -/
def pathLimit : Nat := 4096

/-- The name of the directory above. -/
def upName : Name := [0x2e, 0x2e]

/-- A path in parts, from the root if it is absolute. An empty part at the end stands for a slash
there. -/
structure Route where
  absolute : Bool
  parts : List Name
  deriving Repr, DecidableEq

namespace Route

/-- The parts between slashes, first one and the others. -/
def split : RawPath → Name × List Name
  | [] => ([], [])
  | b :: rest =>
    let (part, more) := split rest
    if b = slash then ([], part :: more) else (b :: part, more)

/-- The parts without the empty ones, apart from one at the end. -/
def dropEmpty : List Name → List Name
  | [] => []
  | [part] => [part]
  | part :: next :: more => if part.isEmpty then dropEmpty (next :: more)
    else part :: dropEmpty (next :: more)

/-- The route that a path's bytes write. -/
def ofBytes (path : RawPath) : Route :=
  let (part, more) := split path
  { absolute := path.head? = some slash, parts := dropEmpty (part :: more) }

/-- The route of a path, unless the path is one that no call takes. -/
def parse (path : RawPath) : Except Fault Route :=
  if path.contains 0 then .error .nulInPath
  else if path.length ≥ pathLimit then .error .nameTooLong
  else if path.isEmpty then .error .notFound
  else .ok (ofBytes path)

end Route

/-- Where a walk ends: at a node, or at a name that a directory does not have. -/
inductive Spot where
  | found (place : Location) (node : Node)
  | vacant (dir : Location) (name : Name)

/-- What a walk is for: what the path stands for, through a link at its end, or the entry itself,
even if it is a link. To make a file is to reach it, but a slash at the end asks for a directory. -/
inductive Purpose where
  | reach
  | entry
  | make
  deriving Repr, DecidableEq

/-- Whether a part leaves the walk where it is. -/
def staysPut (part : Name) : Bool := part.isEmpty || part = selfName

/-- Walk the parts from a directory; `resume` walks on where a link leads. -/
def walkParts (tree : Node) (purpose : Purpose)
    (resume : Location → List Name → Except Fault Spot) :
    Location → List Name → Except Fault Spot
  | here, [] =>
    match tree.at? here with
    | some node => .ok (.found here node)
    | none => .error .notFound
  | here, part :: rest =>
    match tree.at? here with
    | some (.directory entries) =>
      if staysPut part then walkParts tree purpose resume here rest
      else if part = upName then walkParts tree purpose resume here.dropLast rest
      else if purpose = .make ∧ rest ≠ [] ∧ rest.all (·.isEmpty) then .error .isDirectory
      else if part.length > nameLimit then .error .nameTooLong
      else
        match Entries.find? part entries with
        | none => if rest.isEmpty then .ok (.vacant here part) else .error .notFound
        | some (.link target) =>
          if rest.isEmpty ∧ purpose = .entry then .ok (.found (here ++ [part]) (.link target))
          else
            let route := Route.ofBytes target
            resume (if route.absolute then [] else here) (route.parts ++ rest)
        | some (.directory inner) =>
          if rest.isEmpty then .ok (.found (here ++ [part]) (.directory inner))
          else walkParts tree purpose resume (here ++ [part]) rest
        | some node =>
          if rest.isEmpty then .ok (.found (here ++ [part]) node) else .error .notDirectory
    | _ => .error .notDirectory

/-- Walk the parts from a directory through at most so many links. -/
def walk (tree : Node) (purpose : Purpose) :
    Nat → Location → List Name → Except Fault Spot
  | 0 => walkParts tree purpose fun _ _ => .error .tooManyLinks
  | links + 1 => walkParts tree purpose (walk tree purpose links)

end LocaleRelay.Files
