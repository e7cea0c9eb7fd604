/-
What a file system says when it refuses.

* `IoFailure`: the reasons for which a look-up, a read or a write is refused.
* `IoFailure.message`: the wording that reports show.
-/

namespace LabTrust

/-- Why the file system refused. -/
inductive IoFailure where
  /-- A component of the path does not exist. -/
  | absent
  /-- The entry exists already. -/
  | present
  /-- A component that has to be a directory is a file. -/
  | notDirectory
  /-- The entry is a directory where a file is needed. -/
  | isDirectory
  /-- A name of the path, or the path, is too long. -/
  | nameTooLong
  /-- The path holds the character that ends a path. -/
  | nulInPath
  /-- The file is not UTF-8 where text is needed. -/
  | notText
  /-- Anything else, in the words of the system. -/
  | other (report : String)
  deriving DecidableEq, Inhabited

/-- The wording of a refusal. -/
def IoFailure.message : IoFailure → String
  | absent => "No such file or directory (os error 2)"
  | present => "File exists (os error 17)"
  | notDirectory => "Not a directory (os error 20)"
  | isDirectory => "Is a directory (os error 21)"
  | nameTooLong => "File name too long (os error 36)"
  | nulInPath => "file name contained an unexpected NUL byte"
  | notText => "stream did not contain valid UTF-8"
  | other report => report

end LabTrust
