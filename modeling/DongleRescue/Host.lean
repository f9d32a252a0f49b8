import DongleRescue.Data.Python
import DongleRescue.Posix.Realpath

namespace DongleRescue

open DongleRescue.Data DongleRescue.Posix

/-! Read surface over the machine.  Every module that touches the host goes
through it, so any answer and any failure of an access can be injected. -/

structure Host where
  read : Str → Except HostFailure Str
  «exists» : Str → Except HostFailure Bool
  listdir : Str → Except HostFailure (List Str)
  resolveRealpath : Str → Except HostFailure Str

private def entries (fs : FileSystem) (directory : Location) : List Str :=
  (fs.nodes.filterMap fun entry =>
    if entry.1.dropLast = directory then entry.1.getLast? else none).eraseDups

/-- The production implementation over a file system; `strerror` is the operating
system's text for an access that fails. -/
def realHost (fs : FileSystem) (strerror : Str → Str) : Host where
  read path :=
    match fs.stat path with
    | some (.file content) => .ok content
    | _ => .error (.hostError ("read " ++ path ++ ": " ++ strerror path))
  «exists» path := .ok (fs.exists_ path)
  listdir path :=
    match fs.stat path with
    | some .dir => .ok (sortTexts (entries fs (fs.realLocation path)))
    | _ => .error (.hostError ("listdir " ++ path ++ ": " ++ strerror path))
  resolveRealpath path := .ok (fs.realpath path)

def tableHost (files links : List (Str × Str)) (directories : List Str) : Host where
  read path :=
    match files.find? fun file => file.1 = path with
    | some file => .ok file.2
    | none => .error (.hostError ("read " ++ path ++ ": No such file"))
  «exists» path := .ok (directories.contains path || files.any fun file => file.1 = path)
  listdir path := .error (.hostError ("listdir " ++ path ++ ": No such directory"))
  resolveRealpath path :=
    .ok (((links.find? fun link => link.1 = path).map Prod.snd).getD path)

theorem tableHost_resolveRealpath {files links : List (Str × Str)} {directories : List Str}
    {path : Str} (unlinked : ∀ link ∈ links, link.1 ≠ path) :
    (tableHost files links directories).resolveRealpath path = .ok path := by
  have none_ : links.find? (fun link => decide (link.1 = path)) = none :=
    List.find?_eq_none.mpr fun link member => by simpa using unlinked link member
  simp only [tableHost, none_]
  rfl

theorem tableHost_missing {files links : List (Str × Str)} {directories : List Str} {path : Str}
    (noDirectory : path ∉ directories) (noFile : ∀ file ∈ files, file.1 ≠ path) :
    (tableHost files links directories).exists path = .ok false := by
  have noFile' : files.any (fun file => decide (file.1 = path)) = false :=
    List.any_eq_false.mpr fun file member => by simpa using noFile file member
  have noDirectory' : directories.contains path = false := by simpa using noDirectory
  simp only [tableHost, noFile', noDirectory']
  rfl

end DongleRescue
