import EntityQuery.Settings.Reader

/-!
Where settings come from: a file that the caller names, or else the first of the usual places that
has one, or else the defaults. Files are looked up in a tree of which only the names and texts
matter.
-/

namespace EntityQuery

/-- What stands at a path. -/
inductive FileEntry where
  | text (s : String)
  /-- A file whose bytes are no text. -/
  | binary
  | directory
deriving DecidableEq

/-- Files below a working directory. A path is a list of names, and `directories` lists those that
are there even without files. -/
structure FileTree where
  files : List (List String × Option String) := []
  directories : List (List String) := []

namespace FileTree

/-- The names in a path, dots among them, and the slashes between them. -/
def segments (path : String) : List String :=
  (path.toList.splitBy fun a b => a != '/' && b != '/').map String.ofList

/-- The names in a path. -/
def names (path : String) : List String :=
  (segments path).filter fun segment => segment != "/" && segment != "."

def isDirectory (t : FileTree) (names : List String) : Bool :=
  names.isEmpty || t.directories.any (names.isPrefixOf ·) ||
    t.files.any fun (file, _) => names.isPrefixOf file && names != file

/-- One step along a path, from a directory: two dots go back, a dot and a slash stay here. -/
def step (t : FileTree) (here : List String) (segment : String) : Option (List String) :=
  if !t.isDirectory here then none
  else if segment = "/" ∨ segment = "." then some here
  else if segment = ".." then (if here.isEmpty then none else some here.dropLast)
  else some (here ++ [segment])

/-- What stands under these names; of two files, the one that was written last. -/
def at? (t : FileTree) (names : List String) : Option FileEntry :=
  match t.files.reverse.lookup names with
  | some (some s) => some (.text s)
  | some none => some .binary
  | none => if t.isDirectory names then some .directory else none

/-- What a path leads to. An empty path leads nowhere, and one that goes on outside the tree finds
only the directories around it. -/
def entry? (t : FileTree) (path : String) : Option FileEntry :=
  if path.isEmpty then none
  else if (names path).all (· == "..") then some .directory
  else if (segments path).head? == some "/" then none
  else (segments path).foldlM t.step [] >>= t.at?

end FileTree

namespace Settings

/-- The settings in a file. -/
def ofFile (files : FileTree) (path : String) : Except SettingsError Settings :=
  match files.entry? path with
  | none => .error (.fileNotFound path)
  | some (.text s) => parse s
  | some .binary | some .directory => .error .unreadable

/-- The usual places for the settings of an application: a file of its name in the working
directory, and one in the application's own directory among the user's, if there are such. -/
def places (application : String) (userDirectory : Option String) : List String :=
  (application ++ ".toml") :: userDirectory.toList.map (· ++ "/" ++ application ++ "/config.toml")

/-- The settings in the file that the caller names; without one, in the first place where something
stands; without any, the defaults. -/
def load (files : FileTree) (named : Option String) (places : List String) :
    Except SettingsError Settings :=
  match named with
  | some path => ofFile files path
  | none =>
    match places.find? fun path => (files.entry? path).isSome with
    | some path => ofFile files path
    | none => .ok {}

end Settings

end EntityQuery
