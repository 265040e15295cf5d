import ImageLoader.Elf.Basic
/-! Why an image could not be loaded. -/

namespace ImageLoader

/-- How the system reports a file that is not there. -/
def missingFile : String := "No such file or directory (os error 2)"

inductive LoaderError
  | io (path reason : String)
  | elf (path : String) (cause : Elf.Error)
  | rejected (path reason : String)
  deriving DecidableEq, Repr

def LoaderError.message : LoaderError → String
  | .io path reason => s!"io error reading {path}: {reason}"
  | .elf path cause => s!"malformed image {path}: {cause.message}"
  | .rejected path reason => s!"image {path} rejected: {reason}"

end ImageLoader
