import ApiSchema.Files.Path

/-!
# File trees

Files and directories as data.  Reading and writing follow a path part by part, as an operating
system does: every part but the last must be a directory.
-/

namespace ApiSchema.Files

/-- Why a file could not be reached, read or written. -/
inductive FileFault where
  | isDirectory
  | notText
  | notFound
  | notDirectory
  deriving DecidableEq, Repr

def FileFault.message : FileFault → String
  | .isDirectory => "Is a directory (os error 21)"
  | .notText => "stream did not contain valid UTF-8"
  | .notFound => "No such file or directory (os error 2)"
  | .notDirectory => "Not a directory (os error 20)"

/-- A file or a directory. -/
inductive FileNode where
  | file (content : ByteArray)
  | directory (entries : List (OsText × FileNode))

namespace FileNode

def emptyDirectory : FileNode := .directory []

def entries : FileNode → List (OsText × FileNode)
  | .directory entries => entries
  | .file _ => []

def text : FileNode → Except FileFault String
  | .directory _ => .error .isDirectory
  | .file content =>
    match String.fromUTF8? content with
    | some s => .ok s
    | none => .error .notText

theorem text_toUTF8 (s : String) : (FileNode.file s.toUTF8).text = .ok s := by
  have valid : s.toUTF8.IsValidUTF8 := s.isValidUTF8
  rw [text, String.fromUTF8?, dif_pos valid]
  rfl

/-- The node that names lead to. -/
def at? (root : FileNode) : List OsText → Option FileNode
  | [] => some root
  | name :: rest =>
    match root.entries.lookup name with
    | some child => child.at? rest
    | none => none

/-- The entries with a node under a name: in the name's old place if it has one, else at the end. -/
def withEntry (name : OsText) (node : FileNode) :
    List (OsText × FileNode) → List (OsText × FileNode)
  | [] => [(name, node)]
  | (other, old) :: rest =>
    if other = name then (name, node) :: rest else (other, old) :: withEntry name node rest

/-- Puts a node where names lead to, with directories on the way. -/
def put (node : FileNode) : List OsText → FileNode → FileNode
  | [], _ => node
  | name :: rest, root =>
    let child := (root.entries.lookup name).getD emptyDirectory
    .directory (withEntry name (put node rest child) root.entries)

/-- Follows one part of a path from the node that `names` lead to. -/
def follow (root : FileNode) (names : List OsText) (part : OsText) :
    Except FileFault (List OsText) :=
  match root.at? names with
  | some (.directory entries) =>
    if isIdle part then .ok names
    else if part = parentName then .ok names.dropLast
    else if (entries.lookup part).isSome then .ok (names ++ [part])
    else .error .notFound
  | some (.file _) => .error .notDirectory
  | none => .error .notFound

/-- The names that some parts of a path lead to. -/
def followAll (root : FileNode) (parts : List OsText) : Except FileFault (List OsText) :=
  parts.foldlM root.follow []

/-- Can the path lead anywhere in the tree?  Empty and absolute paths cannot. -/
def isInside (path : OsText) : Bool := !path.isEmpty && path.bytes.head? != some slash

/-- The node that a path leads to. -/
def lookup (root : FileNode) (path : OsText) : Except FileFault FileNode :=
  if isInside path then do
    let names ← root.followAll (segments path)
    match root.at? names with
    | some node => .ok node
    | none => .error .notFound
  else .error .notFound

def readText (root : FileNode) (path : OsText) : Except FileFault String := do
  (← root.lookup path).text

/-- The names under which a file called `name` is written into the directory that `parent` leads
to. -/
def targetIn (root : FileNode) (parent : List OsText) (name : OsText) :
    Except FileFault (List OsText) :=
  match root.at? parent with
  | some (.directory entries) =>
    match entries.lookup name with
    | some (.directory _) => .error .isDirectory
    | _ => .ok (parent ++ [name])
  | _ => .error .notDirectory

/-- The names under which a file is written by a path.  A path that ends in a slash or in dots can
only be a directory. -/
def target (root : FileNode) (path : OsText) : Except FileFault (List OsText) := do
  if !isInside path then throw .notFound
  let parts := (segments path).reverse
  let named := parts.dropWhile OsText.isEmpty
  let last := named.headD ⟨[]⟩
  if last = ownName || last = parentName then
    let _ ← root.followAll parts.reverse
    throw .isDirectory
  let parent ← root.followAll (named.drop 1).reverse
  let names ← root.targetIn parent last
  if named.length < parts.length then throw .isDirectory else return names

/-- The tree after a text is written to a path. -/
def write (root : FileNode) (path : OsText) (text : String) : Except FileFault FileNode :=
  (root.target path).map fun names => put (.file text.toUTF8) names root

mutual

/-- The files in a node, each with the names that lead to it after the given ones. -/
def filesBelow (names : List OsText) : FileNode → List (List OsText × FileNode)
  | .file content => [(names, .file content)]
  | .directory entries => filesIn names entries

def filesIn (names : List OsText) : List (OsText × FileNode) → List (List OsText × FileNode)
  | [] => []
  | (name, node) :: rest => filesBelow (names ++ [name]) node ++ filesIn names rest

end

/-- The files in a directory whose names are those of catalogs, in the order of their names. -/
def catalogFiles (root : FileNode) : List (List OsText × FileNode) :=
  ((filesBelow [] root).filter fun (names, _) => (names.getLast?.map isCatalogName).getD false)
    |>.mergeSort fun a b => !decide (b.1 < a.1)

end FileNode

end ApiSchema.Files
