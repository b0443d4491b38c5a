import MessageCard.Text.Bytes
import MessageCard.Text.CharSet
import MessageCard.Text.Position

/-!
Files and folders as data, and what a path leads to among them.  Names are bytes, which need not be
those of a text.  A link stands as what it leads to, or as a file that is missing.
-/

namespace MessageCard

/-- Why a file is not read. -/
inductive ReadError
  | missing
  | denied
  | notFolder
  | isFolder
  | longName
  | zeroInName
  | notText
deriving DecidableEq, Repr

/-- The wording of a failure to read. -/
def ReadError.message : ReadError → String
  | missing => "No such file or directory (os error 2)"
  | denied => "Permission denied (os error 13)"
  | notFolder => "Not a directory (os error 20)"
  | isFolder => "Is a directory (os error 21)"
  | longName => "File name too long (os error 36)"
  | zeroInName => "file name contained an unexpected NUL byte"
  | notText => "stream did not contain valid UTF-8"

/-- The name of a file or a folder: any bytes. -/
structure FileName where
  bytes : List UInt8
deriving DecidableEq, Repr

namespace FileName

/-- The name that is a text. -/
def ofText (text : String) : FileName :=
  { bytes := utf8 text.toList }

instance : Coe String FileName :=
  ⟨ofText⟩

/-- The text that the name is, if its bytes are those of a text. -/
def text? (name : FileName) : Option String :=
  String.fromUTF8? name.bytes.toByteArray

/-- The bytes of the name as numbers. -/
def numbers (name : FileName) : List Nat :=
  name.bytes.map UInt8.toNat

/-- Names are in the order of their bytes. -/
instance : LT FileName :=
  ⟨fun first second => first.numbers < second.numbers⟩

instance (first second : FileName) : Decidable (first < second) :=
  inferInstanceAs (Decidable (first.numbers < second.numbers))

/-- The bytes of names, with a slash between any two of them. -/
def joined (names : List FileName) : List UInt8 :=
  (utf8 ['/']).intercalate (names.map bytes)

end FileName

/-- A file with its text; a folder with its entries in the order in which they are listed, without
those that the listing leaves out; or a folder that cannot be listed, in which nothing is found. -/
inductive FileTree
  | file (content : Except ReadError String)
  | folder (entries : List (FileName × FileTree))
  | unlisted

namespace FileTree

/-- The entry of a folder with some name. -/
def entry? (name : FileName) (entries : List (FileName × FileTree)) : Option FileTree :=
  (entries.find? fun entry => entry.1 == name).map Prod.snd

/-- The names in a path, with empty ones for slashes that follow one another. -/
def names (path : String) : List String :=
  (CharSet.splitAll (· == '/') path.toList).map String.ofList

/-- The most bytes that a name may have. -/
def nameLimit : Nat :=
  255

/-- The number of bytes at which a path is too long. -/
def pathLimit : Nat :=
  4096

/-- What names lead to, one after the other.  The folders around the current one are known, so
that two points lead back; what is around the outermost one counts as empty. -/
def walk (around : List FileTree) (current : FileTree)
    : List String → Except ReadError FileTree
  | [] => .ok current
  | name :: more =>
      match current with
      | .file _ => .error .notFolder
      | .unlisted => .error .denied
      | .folder entries =>
          if name = "" ∨ name = "." then walk around current more
          else if name = ".." then
            match around with
            | [] => walk [] (.folder []) more
            | outer :: around => walk around outer more
          else if nameLimit < name.utf8ByteSize then .error .longName
          else
            match entry? name entries with
            | none => .error .missing
            | some next => walk (current :: around) next more

/-- What a path leads to.  The empty path leads nowhere; a root outside counts as empty. -/
def find (tree : FileTree) (path : String) : Except ReadError FileTree :=
  if path.toList.contains '\x00' then .error .zeroInName
  else if path.isEmpty then .error .missing
  else if pathLimit ≤ path.utf8ByteSize then .error .longName
  else walk [] (if path.toList.head? = some '/' then .folder [] else tree) (names path)

/-- The text of a file. -/
def content : FileTree → Except ReadError String
  | .file content => content
  | .folder _ => .error .isFolder
  | .unlisted => .error .denied

/-- Puts an entry into a folder, in place of one of the same name. -/
def putEntry (name : FileName) (tree : FileTree)
    : List (FileName × FileTree) → List (FileName × FileTree)
  | [] => [(name, tree)]
  | (other, old) :: rest =>
      if other = name then (name, tree) :: rest else (other, old) :: putEntry name tree rest

/-- Puts a file below a folder; folders on the way are made when they are missing. -/
def putFile (text : String)
    : List String → List (FileName × FileTree) → List (FileName × FileTree)
  | [], entries => entries
  | [name], entries => putEntry name (.file (.ok text)) entries
  | name :: more, entries =>
      let inner :=
        match entry? name entries with
        | some (.folder inner) => inner
        | _ => []
      putEntry name (.folder (putFile text more inner)) entries

/-- The names in a path that lead on: neither empty ones nor single points. -/
def places (path : String) : List String :=
  (names path).filter fun name => name != "" && name != "."

/-- The folder of files given by their paths. -/
def ofFiles (files : List (String × String)) : FileTree :=
  .folder (files.foldl (fun entries (path, text) => putFile text (places path) entries) [])

end FileTree

end MessageCard
