import JournalSite.Text.Bytes

/-!
# Static files

Static files lie in a tree of directories. A file is its bytes, what kind of
content they are and when they last changed.

A path leads through the tree name by name. Nothing may be where it leads, and a
path may be one that cannot be asked for: a name has at most 255 bytes, a whole
path at most 4095, and neither has a zero character in it. The length of a name
is noticed only when a directory is asked for it, that of a path and a zero
character before anything is looked up.
-/

namespace JournalSite

/-- A static file. -/
structure StaticFile where
  /-- The bytes of the file. -/
  content : List UInt8
  /-- What kind of content they are. -/
  contentType : String
  /-- When the file was last changed, in seconds since 1970-01-01. -/
  modified : Int
  deriving DecidableEq, Repr

/-- A file, or a directory with what lies in it. -/
inductive FileTree where
  /-- A file. -/
  | file (f : StaticFile)
  /-- A directory, with the names of its entries. -/
  | directory (entries : List (String × FileTree))
  deriving Repr

/-- Why a path leads nowhere. -/
inductive PathFault where
  /-- Nothing is there. -/
  | missing
  /-- A name or the whole path is too long. -/
  | tooLong
  /-- A name has a zero character in it. -/
  | zero
  deriving DecidableEq, Repr

/-- How many bytes a text has. -/
def byteLength (s : String) : Nat :=
  Text.byteCount s.toList

namespace FileTree

/-- How many bytes a name may have. -/
def longestName : Nat := 255

/-- What lies at a path of names. -/
def find (tree : FileTree) : List String → Except PathFault FileTree
  | [] => .ok tree
  | name :: rest =>
    match tree with
    | .file _ => .error .missing
    | .directory entries =>
      if longestName < byteLength name then .error .tooLong
      else
        match entries.lookup name with
        | none => .error .missing
        | some entry => find entry rest

@[simp] theorem find_nil (tree : FileTree) : tree.find [] = .ok tree := rfl

/-- Nothing lies below a file. -/
@[simp] theorem find_file_cons (f : StaticFile) (name : String) (rest : List String) :
    (FileTree.file f).find (name :: rest) = .error .missing := rfl

end FileTree

/-- A directory whose files are served. -/
structure ServedDirectory where
  /-- Where the directory lies. -/
  place : String
  /-- What lies in it, if it is there. -/
  tree : Option FileTree

namespace ServedDirectory

/-- How many bytes a whole path may have. -/
def longestPath : Nat := 4095

/-- How many bytes the path to the names below a directory has. -/
def pathLength (d : ServedDirectory) (names : List String) : Nat :=
  names.foldr (fun name length => 1 + byteLength name + length) (byteLength d.place)

/-- What lies at a path of names below a directory. -/
def find (d : ServedDirectory) (names : List String) : Except PathFault FileTree :=
  if names.any fun name => name.toList.contains '\x00' then .error .zero
  else if longestPath < d.pathLength names then .error .tooLong
  else
    match d.tree with
    | none => .error .missing
    | some tree => tree.find names

end ServedDirectory

/-- The bytes of a text of several lines, each with a line feed at its end. -/
def ofLines (lines : List String) : List UInt8 :=
  lines.flatMap fun line => Text.utf8 line ++ [10]

end JournalSite
