/-
Certificates on disk.

* `Store.persist`: writes the three files of a bundle.
* `Store.load`: reads the certificate and the key of a node back.
* `Signer.read`, `Template.load`, `Settings.load`: what else is read from files.
-/
import LabTrust.Bundle
import LabTrust.Program
import LabTrust.Settings
import LabTrust.Store.Layout
import LabTrust.Template

namespace LabTrust

namespace Store

/-- Writes the files of a bundle beside a path; its directory is made. -/
def persist (b : Bundle) (path : Path) : Action Triple := do
  if let some directory := path.parent? then
    Action.makeDirectories directory
  let files := Triple.ofPath path
  Action.write files.certificate b.certificate
  Action.write files.key b.key
  Action.write files.request b.request
  return files

/-- The certificate and the key are there, whatever they hold. -/
def isComplete (files : Triple) : Action Bool := do
  if ← Action.exists? files.certificate then Action.exists? files.key else return false

/-- Reads a stored file. -/
def readFile (path : Path) : Action Bytes := do
  match ← Action.of (.perform (.read path)) with
  | .ok content => return content
  | .error .absent => throw (.noFile path)
  | .error failure => throw (.io path failure)

/-- Refuses a directory of a node that is missing or not a directory. -/
def checkDirectory (path : Path) : Action Unit := do
  match ← Action.of (.perform (.lookUp path)) with
  | .ok .directory => return ()
  | .ok .file => throw (.nodeDirectoryIsFile path)
  | .error .absent => throw (.noNodeDirectory path)
  | .error failure => throw (.io path failure)

/-- The certificate and the key of a node as they lie on disk, without a request. -/
def load (directory : Path) (name : String) : Action Bundle := do
  Action.orFail (checkName name)
  checkDirectory (Triple.nodeDirectory directory name)
  let files := Triple.ofNode directory name
  let certificate ← readFile files.certificate
  let key ← readFile files.key
  return { key, request := [], certificate }

end Store

/-- Reads a file of a signer. -/
def Signer.readFile (path : Path) : Action String := do
  match ← Action.of (Action.text <$> .perform (.read path)) with
  | .ok s => return s
  | .error failure => throw (.crypto .signerConstruction (.unreadable path failure))

/-- The signer of two files. -/
def Signer.read (certificate key : Path) : Action Signer := do
  let certificate ← Signer.readFile certificate
  let key ← Signer.readFile key
  return { certificate, key }

/-- The template of a file. -/
def Template.load (name : String) (path : Path) : Action Template := do
  Action.orFail (Template.compile name (← Action.readText path))

/-- The settings of a file; without the file, the defaults. -/
def Settings.load (path : Path) : Action Settings := do
  if ← Action.exists? path then Action.orFail (Settings.read (← Action.readText path))
  else return {}

end LabTrust
