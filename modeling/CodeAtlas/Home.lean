import CodeAtlas.Inference.Remote
import CodeAtlas.Session
import CodeAtlas.Settings.File
import CodeAtlas.Store.Image

/-! # Homes

A home is a directory with a settings file and the file of a store. Opening it makes what is
missing of it, and gives a session over the store. -/
namespace CodeAtlas

open Inference (Network Overrides Services ServiceError)

/-- Why the file of a store is of no use. -/
inductive StoreFileError where
  | unopened (path : String)
  | foreign
  deriving DecidableEq, Repr

/-- What is wrong, from the outermost cause to the innermost. -/
def StoreFileError.causes : StoreFileError → List String
  | unopened path =>
      ["sqlite error: unable to open database file: " ++ path,
        "unable to open database file: " ++ path,
        "Error code 14: Unable to open the database file"]
  | foreign =>
      ["sqlite error: file is not a database", "file is not a database",
        "Error code 26: File opened that is not a database file"]

/-- Why a home cannot be opened. -/
inductive HomeError where
  | settings (path : String) (e : Settings.FileError)
  | services (e : ServiceError)
  | store (home : String) (e : StoreFileError)
  deriving DecidableEq, Repr

/-- What is wrong, from the outermost cause to the innermost. -/
def HomeError.causes : HomeError → List String
  | settings path e => ("failed to load or create config at " ++ path) :: e.causes
  | services e => ["failed to configure inference providers", e.message]
  | store home e => ("failed to open store in " ++ home) :: e.causes

namespace Home

def defaultName : String := ".quarry"

def settingsPath (home : String) : String := Disk.join home "config.toml"

def storePath (home : String) : String := Disk.join home "quarry.sqlite"

/-- The settings of a home. If there are none the defaults are written. -/
def prepareSettings (disk : Disk) (home : String) : Except HomeError Settings × Disk :=
  let failed (e : Settings.FileError) : HomeError := .settings (settingsPath home) e
  match disk.makeDirectories home with
  | .error e => (.error (failed (.unreadable e)), disk)
  | .ok disk =>
      match disk.read (settingsPath home) with
      | .ok content => ((Settings.load (some content)).mapError failed, disk)
      | .error .missing =>
          (.ok {}, disk.write (settingsPath home) (Settings.render {}).toUTF8)
      | .error e => (.error (failed (.unreadable e)), disk)

def writeStore (disk : Disk) (home : String) (s : Store) : Disk :=
  disk.write (storePath home) s.image

/-- The store of a home. If there is none an empty one is written. -/
def prepareStore (disk : Disk) (home : String) : Except HomeError Store × Disk :=
  match disk.read (storePath home) with
  | .ok content =>
      match Store.ofImage? content with
      | some s => (.ok s, disk)
      | none => (.error (.store home .foreign), disk)
  | .error .missing => (.ok .empty, writeStore disk home .empty)
  | .error _ => (.error (.store home (.unopened (storePath home))), disk)

/-- Open a home. What has been made of it by then is there afterwards, also if it cannot be
opened. -/
def openSession (libraries : Libraries) (network : Network)
    (environment : String → Option String) (overrides : Overrides) (disk : Disk) (home : String) :
    Except HomeError (Session × Store) × Disk :=
  match prepareSettings disk home with
  | (.error e, disk) => (.error e, disk)
  | (.ok settings, disk) =>
      match Services.ofSettings libraries network environment settings overrides with
      | .error e => (.error (.services e), disk)
      | .ok services =>
          let (store, disk) := prepareStore disk home
          (store.map fun s => (⟨settings, services⟩, s), disk)

end Home

end CodeAtlas
