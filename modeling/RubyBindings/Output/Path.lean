/-
Module: RubyBindings.Output.Path
Purpose: Paths as they are written, and how two of them are joined.
Main exports: Path.join, Path.segments, Path.namesDirectory, Path.endsInDot, Path.parent?
-/

namespace RubyBindings

/-- A path, kept as it is written. -/
abbrev Path := String

namespace Path

/-- The parts of a character list between slashes. -/
def partsBetweenSlashes : List Char → List (List Char)
  | [] => [[]]
  | '/' :: rest => [] :: partsBetweenSlashes rest
  | character :: rest =>
    match partsBetweenSlashes rest with
    | [] => [[character]]
    | part :: parts => (character :: part) :: parts

/-- Does a part lead nowhere? An empty part and a single dot stand for the same directory. -/
def leadsNowhere (part : List Char) : Bool :=
  part = [] || part = ['.']

/-- The names a path goes through, in order: its parts without those that lead nowhere. -/
def segments (path : Path) : List String :=
  (partsBetweenSlashes path.toList).filter (! leadsNowhere ·) |>.map String.ofList

/-- Does a path start at the root, whatever it is joined to? -/
def isAbsolute (path : Path) : Bool :=
  path.toList.head? == some '/'

/-- Does the spelling of a path say that it is a directory? -/
def namesDirectory (path : Path) : Bool :=
  match (partsBetweenSlashes path.toList).getLast? with
  | some last => last = [] || last = ['.'] || last = ['.', '.']
  | none => true

/-- Does a single dot follow the last name of a path? -/
def endsInDot (path : Path) : Bool :=
  ((partsBetweenSlashes path.toList).reverse.takeWhile leadsNowhere).contains ['.']

/-- Parts without those at the end that lead nowhere. -/
def withoutIdleEnd (parts : List (List Char)) : List (List Char) :=
  (parts.reverse.dropWhile leadsNowhere).reverse

/-- The path of the directory that the last name stands in, spelled as it is spelled there. The root
and the empty path stand in none. -/
def parent? (path : Path) : Option Path :=
  let named := withoutIdleEnd (partsBetweenSlashes path.toList)
  let spelling := List.intercalate ['/'] (withoutIdleEnd named.dropLast)
  if path = "" || named.isEmpty && path.isAbsolute then none
  else if spelling.isEmpty && path.isAbsolute then some "/"
  else some (String.ofList spelling)

/-- A path seen from a directory. An absolute path stays as it is; otherwise a slash is put between
the two, unless there is one or nothing to put it behind. Nothing else changes. -/
def join (directory path : Path) : Path :=
  if path.isAbsolute then path
  else if directory = "" || directory.toList.getLast? == some '/' then directory ++ path
  else directory ++ "/" ++ path

end Path

end RubyBindings
