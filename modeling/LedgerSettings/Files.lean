import LedgerSettings.Shape.Decode

namespace LedgerSettings

inductive FileFailure where
  | notFound
  | notDirectory
  | isDirectory
  | alreadyExists
  | denied
  | nameTooLong
  | notText
  | nulInName
  | other (message : String)
  deriving DecidableEq

def FileFailure.message : FileFailure → String
  | .notFound => "No such file or directory (os error 2)"
  | .notDirectory => "Not a directory (os error 20)"
  | .isDirectory => "Is a directory (os error 21)"
  | .alreadyExists => "File exists (os error 17)"
  | .denied => "Permission denied (os error 13)"
  | .nameTooLong => "File name too long (os error 36)"
  | .notText => "stream did not contain valid UTF-8"
  | .nulInName => "file name contained an unexpected NUL byte"
  | .other message => message

namespace Path

def pieces : List Char → List (List Char)
  | [] => [[]]
  | head :: rest =>
    if head = '/' then [] :: pieces rest
    else match pieces rest with
      | [] => [[head]]
      | first :: others => (head :: first) :: others

def here : List Char := ['.']
def above : List Char := ['.','.']

def components (path : List Char) : List (List Char) :=
  (pieces path).filter fun piece => piece ≠ [] ∧ piece ≠ here

def fileName (path : List Char) : Option (List Char) :=
  (components path).getLast?.filter fun name => name ≠ above

-- A dot that opens the name is part of the name, not the start of an extension.
def splitExtension (name : List Char) : Option (List Char × List Char) :=
  let extension := (name.reverse.takeWhile fun c => c ≠ '.').reverse
  let stem := name.take (name.length - extension.length - 1)
  if extension.length = name.length || stem.isEmpty then none else some (stem,extension)

-- A dot names the directory at hand only where it opens the path.
def fromLastNamed : List (List Char) → List (List Char)
  | [] => []
  | [first] => if first = [] then [] else [first]
  | last :: rest => if last = [] ∨ last = here then fromLastNamed rest else last :: rest

def parent (path : List Char) : Option (List Char) :=
  match fromLastNamed (pieces path).reverse with
  | [] => none
  | _ :: rest =>
    let joined := List.intercalate ['/'] (fromLastNamed rest).reverse
    some (if path.head? = some '/' ∧ joined = [] then ['/'] else joined)

end Path

def DocumentFormat.ofPath (path : String) : DocumentFormat :=
  match (Path.fileName path.toList).bind Path.splitExtension with
  | some (_,['t','o','m','l']) => .toml
  | _ => .json

-- What a machine makes of the few things a program asks of its files. Reading may leave
-- traces, and what fails may leave some of its work behind.
class FileSystem (σ : Type) where
  read : String → σ → Except FileFailure ByteArray × σ
  makeDirectories : String → σ → Except FileFailure Unit × σ
  openAppend : String → σ → Except FileFailure Unit × σ
  append : String → ByteArray → σ → σ

inductive FileKind where
  | file (content : ByteArray)
  | directory
  | sink

structure FileEntry where
  kind : FileKind
  granted : Bool

def FileEntry.isDirectory (entry : FileEntry) : Bool :=
  match entry.kind with
  | .directory => true
  | .file _ | .sink => false

-- Files by their components from the root on. The directory at hand and those that
-- lead to it are there without being listed.
structure FileTree where
  home : List String
  entries : List (List String × FileEntry)

namespace FileTree

def empty : FileTree := ⟨[],[]⟩

def find? (tree : FileTree) (place : List String) : Option FileEntry :=
  match tree.entries.find? fun entry => entry.1 == place with
  | some entry => some entry.2
  | none => if place.isPrefixOf tree.home then some ⟨.directory,true⟩ else none

def without (tree : FileTree) (place : List String) : FileTree :=
  {tree with entries := tree.entries.filter fun entry => entry.1 != place}

def set (tree : FileTree) (place : List String) (entry : FileEntry) : FileTree :=
  {tree with entries := (tree.without place).entries ++ [(place,entry)]}

inductive Place where
  | entry (place : List String) (entry : FileEntry)
  | slashed
  | free (place : List String) (asDirectory : Bool)

def longestName : Nat := 255
def longestPath : Nat := 4095

def isTooLong (name : String) : Bool := decide (longestName < name.utf8ByteSize)

def missing (name : String) : FileFailure := if isTooLong name then .nameTooLong else .notFound

-- At a name that leads no further, with what the path still asks for behind it.
def arrive (tree : FileTree) (place rest : List String) : Except FileFailure Place :=
  match tree.find? place with
  | some entry =>
    if rest = [] then .ok (.entry place entry)
    else if rest.all (· = "") then .ok .slashed
    else .error .notDirectory
  | none =>
    if rest.all (· = "") then .ok (.free place (rest ≠ [])) else .error (missing (place.getLastD ""))

-- Nothing is looked up in a directory that is not granted, and there is nothing above the root.
def walk (tree : FileTree) : List String → List String → Except FileFailure Place
  | behind,[] => .ok (.entry behind.reverse ((tree.find? behind.reverse).getD ⟨.directory,true⟩))
  | behind,piece :: rest =>
    if piece = "" then walk tree behind rest
    else if (tree.find? behind.reverse).any (!·.granted) then .error .denied
    else if piece = "." then walk tree behind rest
    else if piece = ".." then walk tree behind.tail rest
    else if (tree.find? (piece :: behind).reverse).any (·.isDirectory) then walk tree (piece :: behind) rest
    else arrive tree (piece :: behind).reverse rest

def locate (tree : FileTree) (path : String) : Except FileFailure Place :=
  let pieces := (Path.pieces path.toList).map String.ofList
  if path.toList.contains '\x00' then .error .nulInName
  else if path = "" then .error .notFound
  else if longestPath < path.utf8ByteSize then .error .nameTooLong
  else walk tree (if path.toList.head? = some '/' then [] else tree.home.reverse) pieces

def read (tree : FileTree) (path : String) : Except FileFailure ByteArray :=
  match tree.locate path with
  | .error failure => .error failure
  | .ok (.entry _ ⟨_,false⟩) => .error .denied
  | .ok (.entry _ ⟨.file content,true⟩) => .ok content
  | .ok (.entry _ ⟨.directory,true⟩) => .error .isDirectory
  | .ok (.entry _ ⟨.sink,true⟩) => .ok ByteArray.empty
  | .ok .slashed => .error .notDirectory
  | .ok (.free place _) => .error (missing (place.getLastD ""))

def isDirectory (tree : FileTree) (path : String) : Bool :=
  match tree.locate path with
  | .ok (.entry _ ⟨.directory,_⟩) => true
  | _ => false

def create (tree : FileTree) (place : List String) (kind : FileKind) : Except FileFailure FileTree :=
  if isTooLong (place.getLastD "") then .error .nameTooLong
  else .ok (tree.set place ⟨kind,true⟩)

def makeDirectory (tree : FileTree) (path : String) : Except FileFailure FileTree :=
  match tree.locate path with
  | .error failure => .error failure
  | .ok (.free place _) => tree.create place .directory
  | .ok _ => .error .alreadyExists

-- What was made on the way stays when a later step fails.
def makeDirectories : Nat → List Char → FileTree → Except FileFailure Unit × FileTree
  | 0,_,tree => (.error .notFound,tree)
  | steps+1,path,tree =>
    if path = [] then (.ok (),tree)
    else
      let text := String.ofList path
      match tree.makeDirectory text with
      | .ok made => (.ok (),made)
      | .error .notFound =>
        match Path.parent path with
        | none => (.error .notFound,tree)
        | some parent =>
          match makeDirectories steps parent tree with
          | (.error failure,tree) => (.error failure,tree)
          | (.ok (),tree) =>
            match tree.makeDirectory text with
            | .ok made => (.ok (),made)
            | .error failure => (if tree.isDirectory text then .ok () else .error failure,tree)
      | .error failure => (if tree.isDirectory text then .ok () else .error failure,tree)

def openAppend (tree : FileTree) (path : String) : Except FileFailure FileTree :=
  match tree.locate path with
  | .error failure => .error failure
  | .ok (.entry _ ⟨.directory,_⟩) | .ok .slashed | .ok (.free _ true) => .error .isDirectory
  | .ok (.entry _ entry) => if entry.granted then .ok tree else .error .denied
  | .ok (.free place false) => tree.create place (.file ByteArray.empty)

def append (tree : FileTree) (path : String) (content : ByteArray) : FileTree :=
  match tree.locate path with
  | .ok (.entry place ⟨.file before,granted⟩) => tree.set place ⟨.file (before ++ content),granted⟩
  | _ => tree

instance : FileSystem FileTree where
  read path tree := (tree.read path,tree)
  makeDirectories path := makeDirectories (path.length + 2) path.toList
  openAppend path tree :=
    match tree.openAppend path with
    | .ok opened => (.ok (),opened)
    | .error failure => (.error failure,tree)
  append path content tree := tree.append path content

end FileTree

end LedgerSettings
