import EntityWire.Text.Utf8

namespace EntityWire.Inspect

inductive FileError
  | absent
  | isDirectory
  | notDirectory
  | nameTooLong
  | nulInName
  | notText
  | failed (reason : String)
  deriving DecidableEq, Repr

def FileError.message : FileError → String
  | .absent => "No such file or directory (os error 2)"
  | .isDirectory => "Is a directory (os error 21)"
  | .notDirectory => "Not a directory (os error 20)"
  | .nameTooLong => "File name too long (os error 36)"
  | .nulInName => "file name contained an unexpected NUL byte"
  | .notText => "stream did not contain valid UTF-8"
  | .failed reason => reason

def splitPath (s : String) : List String := s.splitToList (· = '/')

structure Directory where
  files : List (List String × Octets)

/-- What a path leads to: a directory above, a place below one of these, a place by its path from
the root, a directory inside, or a place inside one where a file or a directory may stand. -/
inductive Place
  | above
  | unknown
  | system (names : List String)
  | directory (names : List String)
  | entry (names : List String)
  deriving DecidableEq, Repr

def isSystemDirectory : List String → Bool
  | [] => true
  | [name] => ["bin", "dev", "etc", "home", "lib", "mnt", "opt", "proc", "root", "run", "sbin",
      "srv", "sys", "tmp", "usr", "var"].contains name
  | _ => false

def isNullDevice (names : List String) : Bool := names = ["dev", "null"]

/-- The most octets of a name, and of a path. -/
def nameLimit : Nat := 255

def pathLimit : Nat := 4095

namespace Directory

variable (d : Directory)

def ofFiles (files : List (String × Octets)) : Directory :=
  ⟨files.map fun f ↦ ((splitPath f.1).filter fun part ↦ part ≠ "" && part ≠ ".", f.2)⟩

def file? (names : List String) : Option Octets := d.files.lookup names

def isDirectory (names : List String) : Bool :=
  names.isEmpty || d.files.any fun f ↦ names.isPrefixOf f.1 && names ≠ f.1

def enter : Place → Except FileError Place
  | .entry names =>
    if d.isDirectory names then .ok (.directory names)
    else .error (if (d.file? names).isSome then .notDirectory else .absent)
  | .system names =>
    if isSystemDirectory names then .ok (.system names)
    else .error (if isNullDevice names then .notDirectory else .absent)
  | .unknown => .error .absent
  | place => .ok place

def descend (part : String) : Place → Place
  | .directory names | .entry names =>
    if part = "." then .directory names
    else if part ≠ ".." then .entry (names ++ [part])
    else if names.isEmpty then .above
    else .directory names.dropLast
  | .system names =>
    .system (if part = "." then names else if part = ".." then names.dropLast
      else names ++ [part])
  | .above | .unknown => if part = "." || part = ".." then .above else .unknown

def step (place : Place) (part : String) : Except FileError Place := do
  if part = "" then return place
  let place ← d.enter place
  if nameLimit < part.utf8ByteSize then .error .nameTooLong else return descend part place

def locate (path : String) : Except FileError Place :=
  if path.toList.contains '\x00' then .error .nulInName
  else if path = "" then .error .absent
  else if pathLimit < path.utf8ByteSize then .error .nameTooLong
  else
    (splitPath path).foldlM d.step (if path.startsWith "/" then .system [] else .directory [])

def endsInSlash (path : String) : Bool := path.endsWith "/"

def read (path : String) : Except FileError Octets := do
  match ← d.locate path with
  | .above | .directory _ => .error .isDirectory
  | .unknown => .error .absent
  | .system names =>
    if isSystemDirectory names then .error .isDirectory
    else if !isNullDevice names then .error .absent
    else if endsInSlash path then .error .notDirectory
    else return []
  | .entry names =>
    match d.file? names with
    | some octets => if endsInSlash path then .error .notDirectory else return octets
    | none => .error (if d.isDirectory names then .isDirectory else .absent)

/-- Puts octets into a file, which is made if there is none; its directory must be there. -/
def write (path : String) (octets : Octets) : Except FileError Directory := do
  match ← d.locate path with
  | .above | .directory _ => .error .isDirectory
  | .unknown => .error .absent
  | .system names =>
    if isSystemDirectory names then .error .isDirectory
    else if !isNullDevice names then .error .absent
    else if endsInSlash path then .error .notDirectory
    else return d
  | .entry names =>
    if d.isDirectory names then .error .isDirectory
    else if endsInSlash path then
      .error (if (d.file? names).isSome then .notDirectory else .isDirectory)
    else return ⟨(names, octets) :: d.files.filter fun f ↦ f.1 ≠ names⟩

def readText (path : String) : Except FileError String := do
  let octets ← d.read path
  (Utf8.decode octets).mapError fun _ ↦ .notText

end Directory

end EntityWire.Inspect
