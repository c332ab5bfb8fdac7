namespace RateSweep

inductive DiskError where
  | notFound
  | alreadyExists
  | notDirectory
  | isDirectory
  | permissionDenied
  | nameTooLong
  | nulInPath
deriving DecidableEq, Repr

def DiskError.message : DiskError → String
  | notFound => "No such file or directory (os error 2)"
  | permissionDenied => "Permission denied (os error 13)"
  | alreadyExists => "File exists (os error 17)"
  | notDirectory => "Not a directory (os error 20)"
  | isDirectory => "Is a directory (os error 21)"
  | nameTooLong => "File name too long (os error 36)"
  | nulInPath => "file name contained an unexpected NUL byte"

end RateSweep
