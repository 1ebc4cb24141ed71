import Mender.FileTree
import Mender.Repair.Record

/-!
# Replacements

The content of a file is replaced so that the file holds the old or the new content
in full at every moment (`Replacement.apply`). The old content is first copied to a
new file beside it. The new content goes into a temporary file, which takes on the
mode of the live file and then its place.

Each of these steps may fail, for a reason in the tree or for one from outside it
(`Faults`). If the copy fails, the live file has not been touched; if a later step
fails, the temporary file is removed. Two failures are not those of a step (`Breakage`). That
a path cannot be one is found out when the copy is to be opened, and that a content has no
bytes when it is to be written, which leaves an empty temporary file behind.
-/

namespace Mender.Repair

open Text

/-- The new content of a file, and what a record says about it. -/
structure Replacement where
  path : String
  new : Loose
  /-- The content that the new one was computed from. -/
  old : String
  message : String
  /-- The path in the record; if it is empty, the path itself. -/
  shownPath : String
  strategy : String
  rule : Option String
  deriving DecidableEq, Repr

/-- The steps of a replacement that touch the tree. -/
inductive ReplaceStep
  | openBackup
  | writeBackup
  | openTemporary
  | writeTemporary
  | copyMode
  | moveIntoPlace
  | removeTemporary
  deriving DecidableEq, Repr

/-- The steps that fail for a reason outside the tree, with its text. -/
abbrev Faults := ReplaceStep → Option String

/-- No step fails for a reason outside the tree. -/
def Faults.none : Faults := fun _ => Option.none

/-- Which part of a replacement failed. -/
inductive ReplacePhase
  | backup
  | overwrite
  deriving DecidableEq, Repr

/-- A replacement that failed; the live file is as it was. -/
structure ReplaceError where
  path : String
  phase : ReplacePhase
  cause : IoError
  deriving DecidableEq, Repr

/-- The text of a failure. -/
def ReplaceError.message (e : ReplaceError) : String :=
  e.path ++
    (match e.phase with
      | .backup => ": backup failed: "
      | .overwrite => ": overwrite failed: ")
    ++ e.cause.message

/-- A failure that nothing the operating system does can lead to. -/
inductive Breakage
  /-- The path of the file holds the character U+0000. -/
  | nullByte
  /-- The new content has no bytes. -/
  | unwritable (e : EncodeError)
  deriving DecidableEq, Repr

/-- The name of the kind of a breakage. -/
def Breakage.kind : Breakage → String
  | nullByte => "ValueError"
  | unwritable _ => "UnicodeEncodeError"

/-- The text of a breakage. -/
def Breakage.message : Breakage → String
  | nullByte => IoCause.nullByte.text
  | unwritable e => e.message

/-- Why a content was not replaced. -/
inductive ReplaceFailure
  | operation (e : ReplaceError)
  | broken (why : Breakage)
  deriving DecidableEq, Repr

/-! ## Names -/

/-- The name of a copy made at the given time. -/
def backupName (path : String) (time : Int) : String := path ++ ".backup." ++ toString time

/-- The name of the temporary file. The number of the process is in it. -/
def temporaryName (process : Nat) (path : String) : String := path ++ ".tmp." ++ toString process

/-- The name `base`, or the first of `base-1`, `base-2` and so on from `n` on, that is
    free. At most `tries` names are tried. -/
def firstFree (t : FileTree) (base : String) (n : Nat) : (tries : Nat) → String
  | 0 => base ++ "-" ++ toString n
  | tries + 1 =>
    let name := if n = 0 then base else base ++ "-" ++ toString n
    if t.isPresent name then firstFree t base (n + 1) tries else name

/-- The name of a copy made at the given time that nothing has yet. A tree holds fewer
    files than are tried. -/
def freshBackupName (t : FileTree) (path : String) (time : Int) : String :=
  firstFree t (backupName path time) 0 (t.entries.length + 1)

/-! ## Steps -/

/-- The tree after some steps, and the failure of the last of them. -/
abbrev Progress := Option IoError × FileTree

/-- A step after others, unless they failed. -/
def Progress.andThen (p : Progress) (next : FileTree → Progress) : Progress :=
  match p with
  | (none, t) => next t
  | (some e, t) => (some e, t)

/-- A single step. -/
def perform (faults : Faults) (step : ReplaceStep)
    (operation : FileTree → Except IoError FileTree) (t : FileTree) : Progress :=
  match faults step with
  | some text => (some (.other text), t)
  | none =>
    match operation t with
    | .ok t => (none, t)
    | .error e => (some e, t)

namespace Replacement

/-- The content differs from that of the file. -/
def isNeeded (r : Replacement) : Bool := r.new != .whole r.old

/-- The bytes of a text. -/
def bytes (s : String) : Bytes := Utf8.encode s.toList

/-- The old content in a new file. -/
def backUp (faults : Faults) (r : Replacement) (backup : String) (t : FileTree) : Progress :=
  (perform faults .openBackup (FileTree.create backup) t).andThen
    (perform faults .writeBackup (FileTree.fill backup (bytes r.old)))

/-- An empty temporary file. -/
def openTemporary (process : Nat) (faults : Faults) (r : Replacement) (t : FileTree) : Progress :=
  perform faults .openTemporary (FileTree.truncate (temporaryName process r.path)) t

/-- The new content, as bytes, in the place of the live file. -/
def overwrite (process : Nat) (faults : Faults) (r : Replacement) (new : Bytes) (t : FileTree) :
    Progress :=
  let temporary := temporaryName process r.path
  (((r.openTemporary process faults t).andThen
    (perform faults .writeTemporary (FileTree.fill temporary new))).andThen
    (perform faults .copyMode (FileTree.copyMode r.path temporary))).andThen
    (perform faults .moveIntoPlace (FileTree.move temporary r.path))

/-- The tree without the temporary file, if that can be removed. -/
def discard (process : Nat) (faults : Faults) (r : Replacement) (t : FileTree) : FileTree :=
  (perform faults .removeTemporary (FileTree.remove (temporaryName process r.path)) t).2

/-- The record of the replacement. -/
def record (r : Replacement) (backup : String) : Record :=
  ⟨if r.shownPath = "" then r.path else r.shownPath, r.message, backup, r.strategy, r.rule⟩

/-- The failure of a step behind the copy. -/
def overwriteFailure (r : Replacement) (e : IoError) : ReplaceFailure :=
  .operation ⟨r.path, .overwrite, e⟩

/-- Replaces the content of the file at the given time, in the process of the given number.
    Nothing happens if the content is the same. -/
def apply (process : Nat) (faults : Faults) (time : Int) (r : Replacement) (t : FileTree) :
    Except ReplaceFailure (Option Record) × FileTree :=
  if !r.isNeeded then (.ok none, t)
  -- The name of the copy holds the character too, and is refused before any step is made.
  else if '\x00' ∈ r.path.toList then (.error (.broken .nullByte), t)
  else
    let backup := freshBackupName t r.path time
    match r.backUp faults backup t with
    | (some e, t) => (.error (.operation ⟨r.path, .backup, e⟩), t)
    | (none, t) =>
      match r.new.encode with
      -- That a content has no bytes is found out once the temporary file is open.
      | .error why =>
        match r.openTemporary process faults t with
        | (some e, t) => (.error (r.overwriteFailure e), r.discard process faults t)
        | (none, t) => (.error (.broken (.unwritable why)), t)
      | .ok new =>
        match r.overwrite process faults new t with
        | (some e, t) => (.error (r.overwriteFailure e), r.discard process faults t)
        | (none, t) => (.ok (some (r.record backup)), t)

end Replacement

end Mender.Repair
