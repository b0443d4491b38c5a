import MessageCard.FileTree

/-!
Suites of fixtures: the fixture files below a folder, grouped by the folders they stand in.
The order in which folders list their entries does not matter; groups and files are sorted.
-/

namespace MessageCard

/-- A fixture file: the names that lead to it from the root of the suite, and its text. -/
structure FixtureFile where
  folders : List FileName
  name : FileName
  content : Except ReadError String

namespace FixtureFile

/-- The ending of the names of fixture files. -/
def ending : String :=
  ".test.json"

/-- Whether a name is the name of a fixture file; one that is no text is not. -/
def isNamed (name : FileName) : Bool :=
  name.text?.any fun text => ending.toList.isSuffixOf text.toList

/-- The category of a fixture: its folders as they are shown, with backslashes read as slashes. -/
def category (file : FixtureFile) : String :=
  (Text.ofBytes (FileName.joined file.folders)).map fun c => if c = '\\' then '/' else c

/-- The names that lead to the file. -/
def path (file : FixtureFile) : List FileName :=
  file.folders ++ [file.name]

/-- The place of the file below a root, as a path that is shown. -/
def place (root : String) (file : FixtureFile) : String :=
  let folder := if root.toList.getLast? = some '/' then root else root ++ "/"
  Text.ofBytes (utf8 folder.toList ++ FileName.joined file.path)

end FixtureFile

mutual

/-- The fixture files in an entry of a folder. -/
def FileTree.fixtures (folders : List FileName) (name : FileName) : FileTree → List FixtureFile
  | .file content => if FixtureFile.isNamed name then [{ folders, name, content }] else []
  | .folder entries => FileTree.fixturesIn (folders ++ [name]) entries
  | .unlisted => []

/-- The fixture files below a folder. -/
def FileTree.fixturesIn (folders : List FileName)
    : List (FileName × FileTree) → List FixtureFile
  | [] => []
  | (name, tree) :: rest =>
      FileTree.fixtures folders name tree ++ FileTree.fixturesIn folders rest

end

/-- What the root of a tree lists; a file lists nothing. -/
def FileTree.listing : FileTree → List (FileName × FileTree)
  | .file _ => []
  | .folder entries => entries
  | .unlisted => []

/-- The fixture files below the root of a tree. -/
def FileTree.fixtureFiles (tree : FileTree) : List FixtureFile :=
  FileTree.fixturesIn [] tree.listing

/-- Categories with their fixture files. -/
abbrev Suite :=
  List (String × List FixtureFile)

namespace Suite

/-- The order of paths, name by name. -/
def inOrder : List FileName → List FileName → Bool
  | [], _ => true
  | _ :: _, [] => false
  | first :: more, second :: rest => first < second || (first == second && inOrder more rest)

/-- The order of files, by their paths. -/
def precedes (first second : FixtureFile) : Bool :=
  inOrder first.path second.path

/-- Changes the files of a category, in its place by name.  A category that is missing starts
without files. -/
def change (category : String) (f : List FixtureFile → List FixtureFile) : Suite → Suite
  | [] => [(category, f [])]
  | (other, files) :: rest =>
      if category < other then (category, f []) :: (other, files) :: rest
      else if category = other then (category, f files) :: rest
      else (other, files) :: change category f rest

/-- Puts a file into its category, behind those that are there. -/
def put (suite : Suite) (file : FixtureFile) : Suite :=
  suite.change file.category (· ++ [file])

/-- Groups fixture files by category.  Categories and the files of each are sorted. -/
def ofFiles (files : List FixtureFile) : Suite :=
  (files.foldl put []).map fun (category, files) => (category, files.mergeSort precedes)

/-- The suite below a folder. -/
def ofTree (tree : FileTree) : Suite :=
  ofFiles tree.fixtureFiles

/-- A category as it is shown. -/
def title (category : String) : String :=
  if category.isEmpty then "(root)" else category

/-! ## Selection -/

/-- A request for categories, without the slashes around it. -/
def request (text : String) : List Char :=
  let isSlash := fun c : Char => c == '/'
  ((text.toList.dropWhile isSlash).reverse.dropWhile isSlash).reverse

/-- Whether a request covers a category: it names the category, or a folder above it. -/
def covers (text category : String) : Bool :=
  category.toList == request text || (request text ++ ['/']).isPrefixOf category.toList

/-- What requests select: categories, and the requests that cover none. -/
structure Selection where
  categories : Suite
  unmatched : List String

/-- Adds what a request covers in a suite; a request that covers nothing is noted. -/
def Selection.add (suite : Suite) (selection : Selection) (text : String) : Selection :=
  let covered := suite.filter fun (category, _) => covers text category
  { categories :=
      covered.foldl (fun selected (category, files) => selected.change category fun _ => files)
        selection.categories
    unmatched :=
      if covered.isEmpty then selection.unmatched ++ [text] else selection.unmatched }

/-- What requests select, one after the other; without requests, all. -/
def selection (suite : Suite) (requests : List String) : Selection :=
  if requests.isEmpty then { categories := suite, unmatched := [] }
  else requests.foldl (Selection.add suite) { categories := [], unmatched := [] }

/-- The categories that requests cover; without requests, all. -/
def select (suite : Suite) (requests : List String) : Suite :=
  (suite.selection requests).categories

/-- The requests that cover no category. -/
def unmatched (suite : Suite) (requests : List String) : List String :=
  (suite.selection requests).unmatched

/-- The warning about a request that covers no category. -/
def warning (suite : Suite) (text : String) : String :=
  "warning: category '" ++ String.ofList (request text) ++ "' not found (available: " ++
    ", ".intercalate (suite.map fun (category, _) => title category) ++ ")"

end Suite

end MessageCard
