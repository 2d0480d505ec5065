import PatternScan.Config.Reader
import PatternScan.Config.Writer
import PatternScan.File.Disk

/-!
# Configuration files

A file that is not there stands for the standard configuration.
-/

namespace PatternScan.Config

variable {m : Type → Type} [Monad m]

/-- The configuration in the bytes of a file. -/
def ofBytes (cores : Nat) (bytes : Bytes) : Except ScanError Config :=
  match Text.Utf8.decode? bytes with
  | some text => ofText cores text
  | none => .error (.configFile .read .notText)

/-- The configuration in a file. -/
def load (files : FileAccess m) (path : String) : m (Except ScanError Config) := do
  if ← files.leadsSomewhere path then
    match ← files.read path with
    | .ok bytes => return ofBytes files.cores bytes
    | .error fault => return .error (.configFile .read fault)
  else return .ok (standardOn files.cores)

theorem fault?_of_ofBytes {cores : Nat} {bytes : Bytes} {c : Config}
    (h : ofBytes cores bytes = .ok c) : c.fault? = none := by
  rw [ofBytes] at h
  cases htext : Text.Utf8.decode? bytes with
  | none => simp [htext] at h
  | some text =>
      rw [htext] at h
      exact fault?_of_ofText h

/-- A configuration that is loaded, from a file or not, has passed its check. -/
theorem fault?_of_load {files : FileAccess Id} {path : String} {c : Config}
    (h : load files path = .ok c) : c.fault? = none := by
  simp only [load, bind, pure] at h
  split at h
  · split at h
    · exact fault?_of_ofBytes h
    · cases h
  · obtain rfl := Except.ok.inj h
    exact fault?_standardOn files.cores_pos

/-- What was being done at a step of writing a file. -/
def actionOf : SaveStep → ConfigAction
  | .directories => .createDirectory
  | .file => .write

/-- Writes the configuration to a file. -/
def save (files : FileAccess m) (path : String) (c : Config) : m (Except ScanError Unit) := do
  match c.render with
  | .error e => return .error e
  | .ok text =>
      match ← files.save path (Text.Utf8.encode text) with
      | .ok () => return .ok ()
      | .error (step, fault) => return .error (.configFile (actionOf step) fault)

end PatternScan.Config
