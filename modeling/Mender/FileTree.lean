import Mender.Path
import Mender.Text.Quoted
import Mender.Text.Utf8

/-!
# File trees

The files and directories that a session works on (`FileTree`), each at its location,
the list of names from the root directory down. A path is followed name by name from
the working directory or the root (`FileTree.find`), and every operation on a path can
fail as that of an operating system does (`IoError`), in which case it leaves the tree
as it was. A path with the character U+0000 is not followed at all.

There are files and directories only, and a file stands at one location: a tree has no
hard links and no symbolic links. What is said of all trees is said of these.

* `get?_put`, `get?_erase`: setting and taking away an entry change nothing else.
-/

namespace Mender

open Text

/-- The names from the root directory down to a file or a directory. -/
abbrev Location := List Name

/-- What stands at a location. -/
inductive Entry
  | file (content : Bytes) (mode : Nat)
  | directory
  deriving DecidableEq, Repr

/-- Why an operation on a path fails. -/
inductive IoCause
  | notFound
  | alreadyExists
  | notDirectory
  | isDirectory
  | nameTooLong
  /-- The path holds the character U+0000. -/
  | nullByte
  deriving DecidableEq, Repr

/-- The number that the operating system gives a cause, if it gets to see the path. -/
def IoCause.number? : IoCause → Option Nat
  | notFound => some 2
  | alreadyExists => some 17
  | notDirectory => some 20
  | isDirectory => some 21
  | nameTooLong => some 36
  | nullByte => none

/-- The text of a cause. -/
def IoCause.text : IoCause → String
  | notFound => "No such file or directory"
  | alreadyExists => "File exists"
  | notDirectory => "Not a directory"
  | isDirectory => "Is a directory"
  | nameTooLong => "File name too long"
  | nullByte => "embedded null byte"

/-- The failure of an operation on a path. -/
inductive IoError
  | at (cause : IoCause) (path : String)
  | moving (cause : IoCause) (source target : String)
  /-- A failure from outside the tree. -/
  | other (text : String)
  deriving DecidableEq, Repr

/-- A path in a message. -/
def quotedPath (path : String) : String := String.ofList (quoted path.toList)

/-- The text of a failure with the given cause and paths. -/
def IoCause.message (c : IoCause) (paths : String) : String :=
  match c.number? with
  | some n => "[Errno " ++ toString n ++ "] " ++ c.text ++ ": " ++ paths
  | none => c.text

/-- The text of a failure. -/
def IoError.message : IoError → String
  | .at c path => c.message (quotedPath path)
  | .moving c source target => c.message (quotedPath source ++ " -> " ++ quotedPath target)
  | .other text => text

/-- The files and directories below the root directory. -/
structure FileTree where
  /-- What stands where; the root directory itself is not listed. -/
  entries : List (Location × Entry)
  /-- The working directory. -/
  home : Location
  deriving Repr

namespace FileTree

/-- The mode of a new file. -/
def newMode : Nat := 0o644

/-- The mode of a directory. -/
def directoryMode : Nat := 0o755

/-! ## Locations -/

/-- What stands at a location. -/
def get? (t : FileTree) (l : Location) : Option Entry :=
  if l = [] then some .directory else t.entries.lookup l

/-- The entries with that of a location set. -/
def insert (l : Location) (e : Entry) : List (Location × Entry) → List (Location × Entry)
  | [] => [(l, e)]
  | (k, f) :: es => if k = l then (k, e) :: es else (k, f) :: insert l e es

/-- The tree with an entry set. -/
def put (t : FileTree) (l : Location) (e : Entry) : FileTree :=
  { t with entries := insert l e t.entries }

/-- The tree without an entry. -/
def erase (t : FileTree) (l : Location) : FileTree :=
  { t with entries := t.entries.filter (·.1 ≠ l) }

/-- The tree with directories at a location and all the way down to it, where nothing
    stood before. -/
def putDirectories (t : FileTree) (l : Location) : FileTree :=
  (List.range (l.length + 1)).foldl
    (fun t n => if (t.get? (l.take n)).isSome then t else t.put (l.take n) .directory) t

/-- An entry set is found where it was set, and nothing else changes. -/
theorem lookup_insert (l m : Location) (e : Entry) (es : List (Location × Entry)) :
    (insert l e es).lookup m = if m = l then some e else es.lookup m := by
  induction es with
  | nil =>
    simp only [insert, List.lookup_cons, List.lookup_nil]
    split <;> simp_all
  | cons p es ih =>
    obtain ⟨k, f⟩ := p
    simp only [insert]
    split
    · subst k
      simp only [List.lookup_cons]
      split <;> simp_all
    · simp only [List.lookup_cons, ih]
      split <;> simp_all

/-- Entries taken away are not found, and all others are. -/
theorem lookup_filter_ne (l m : Location) (es : List (Location × Entry)) :
    (es.filter (·.1 ≠ l)).lookup m = if m = l then none else es.lookup m := by
  induction es with
  | nil => simp
  | cons p es ih =>
    obtain ⟨k, f⟩ := p
    by_cases hk : k = l
    · subst k
      rw [List.filter_cons_of_neg (by simp), ih, List.lookup_cons]
      by_cases hm : m = l
      · simp [hm]
      · simp [hm, beq_eq_false_iff_ne.2 hm]
    · rw [List.filter_cons_of_pos (by simpa using hk), List.lookup_cons, List.lookup_cons, ih]
      split <;> simp_all

/-- What stands where after an entry was set. -/
theorem get?_put (t : FileTree) {l : Location} (hl : l ≠ []) (e : Entry) (m : Location) :
    (t.put l e).get? m = if m = l then some e else t.get? m := by
  by_cases hm : m = []
  · simp [get?, hm, Ne.symm hl]
  · simp [get?, put, hm, lookup_insert]

/-- What stands where after an entry was taken away. -/
theorem get?_erase (t : FileTree) {l : Location} (hl : l ≠ []) (m : Location) :
    (t.erase l).get? m = if m = l then none else t.get? m := by
  by_cases hm : m = []
  · simp [get?, hm, Ne.symm hl]
  · simp only [get?, erase, hm, if_false]
    exact lookup_filter_ne l m t.entries

/-! ## Paths -/

/-- The longest name, in bytes. -/
def maxName : Nat := 255

/-- The longest path, in bytes. -/
def maxPath : Nat := 4095

/-- The location that names lead to from a directory. Of the last name it is only asked
    that it fits. -/
def follow (t : FileTree) (l : Location) : List Name → Except IoCause Location
  | [] => .ok l
  | n :: ns =>
    match t.get? l with
    | none => .error .notFound
    | some (.file _ _) => .error .notDirectory
    | some .directory =>
      if n = [] ∨ n = ['.'] then follow t l ns
      else if n = ['.', '.'] then follow t l.dropLast ns
      else if maxName < (Utf8.encode n).length then .error .nameTooLong
      else follow t (l ++ [n]) ns

/-- The location that a path leads to. -/
def find (t : FileTree) (path : String) : Except IoCause Location :=
  let s := path.toList
  if '\x00' ∈ s then .error .nullByte
  else if s = [] then .error .notFound
  else if maxPath < (Utf8.encode s).length then .error .nameTooLong
  else t.follow (if s.head? = some '/' then [] else t.home) (fields '/' s)

/-- What stands where a path leads. -/
def lookup (t : FileTree) (path : String) : Except IoCause (Location × Entry) :=
  match t.find path with
  | .error c => .error c
  | .ok l =>
    match t.get? l with
    | none => .error .notFound
    | some e => .ok (l, e)

/-- Something stands where a path leads. -/
def isPresent (t : FileTree) (path : String) : Bool :=
  match t.lookup path with
  | .ok _ => true
  | .error _ => false

/-- A directory stands where a path leads. -/
def isDirectory (t : FileTree) (path : String) : Bool :=
  match t.lookup path with
  | .ok (_, .directory) => true
  | _ => false

/-! ## Operations -/

/-- The content of a file. -/
def read (t : FileTree) (path : String) : Except IoError Bytes :=
  match t.lookup path with
  | .error c => .error (.at c path)
  | .ok (_, .directory) => .error (.at .isDirectory path)
  | .ok (_, .file content _) => .ok content

/-- A new file without content. Nothing may stand where the path leads; the directory
    above is there, or the path would lead nowhere. -/
def create (path : String) (t : FileTree) : Except IoError FileTree :=
  match t.find path with
  | .error c => .error (.at c path)
  | .ok l =>
    match t.get? l with
    | some _ => .error (.at .alreadyExists path)
    | none => .ok (t.put l (.file [] newMode))

/-- A file without content, new or old; an old one keeps its mode. -/
def truncate (path : String) (t : FileTree) : Except IoError FileTree :=
  match t.lookup path with
  | .ok (_, .directory) => .error (.at .isDirectory path)
  | .ok (l, .file _ mode) => .ok (t.put l (.file [] mode))
  | .error _ => t.create path

/-- A file that exists, with its content set. -/
def fill (path : String) (content : Bytes) (t : FileTree) : Except IoError FileTree :=
  match t.lookup path with
  | .error c => .error (.at c path)
  | .ok (_, .directory) => .error (.at .isDirectory path)
  | .ok (l, .file _ mode) => .ok (t.put l (.file content mode))

/-- A file with its content set, new or old. -/
def write (path : String) (content : Bytes) (t : FileTree) : Except IoError FileTree :=
  match t.truncate path with
  | .error e => .error e
  | .ok t => t.fill path content

/-- The file `target` with the mode of `source`. -/
def copyMode (source target : String) (t : FileTree) : Except IoError FileTree :=
  match t.lookup source with
  | .error c => .error (.at c source)
  | .ok (_, e) =>
    let mode :=
      match e with
      | .file _ mode => mode
      | .directory => directoryMode
    match t.lookup target with
    | .error c => .error (.at c target)
    | .ok (_, .directory) => .ok t
    | .ok (l, .file content _) => .ok (t.put l (.file content mode))

/-- The file `source` in the place of `target`, which must not be a directory. -/
def move (source target : String) (t : FileTree) : Except IoError FileTree :=
  match t.lookup source with
  | .error c => .error (.moving c source target)
  | .ok (l, e) =>
    match t.find target with
    | .error c => .error (.moving c source target)
    | .ok m =>
      if target.toList.getLast? = some '/' then .error (.moving .notDirectory source target)
      else if t.get? m = some .directory then .error (.moving .isDirectory source target)
      else .ok ((t.erase l).put m e)

/-- The tree without a file. -/
def remove (path : String) (t : FileTree) : Except IoError FileTree :=
  match t.lookup path with
  | .error c => .error (.at c path)
  | .ok (_, .directory) => .error (.at .isDirectory path)
  | .ok (l, .file _ _) => .ok (t.erase l)

end FileTree

end Mender
