import ShaderConversion.Text.Utf8

namespace ShaderConversion

structure Path where
  bytes : List UInt8
  deriving DecidableEq, Repr

namespace Path

def ofText (s : Text) : Path := ⟨Utf8.encode s⟩

def text (path : Path) : Text := Utf8.decode path.bytes

instance : ToString Path := ⟨fun path => String.ofList path.text⟩

end Path

inductive FileError where
  | notFound
  | notDirectory
  | isDirectory
  | nameTooLong
  | zeroInName
  | other (message : String)
  deriving DecidableEq, Repr

def FileError.message : FileError → String
  | notFound => "No such file or directory (os error 2)"
  | notDirectory => "Not a directory (os error 20)"
  | isDirectory => "Is a directory (os error 21)"
  | nameTooLong => "File name too long (os error 36)"
  | zeroInName => "file name contained an unexpected NUL byte"
  | other message => message

instance : ToString FileError := ⟨FileError.message⟩

-- A path that can be followed. A zero byte would end it early, and no path has more
-- than 4095 bytes, slashes at its end included.
def Path.checked (path : Path) : Except FileError Path :=
  if path.bytes.contains 0 then .error .zeroInName
  else if 4095 < path.bytes.length then .error .nameTooLong
  else .ok path

-- Files of any kind, as they are read and written at paths. A write that fails has no effect.
class FileAccess (F : Type) where
  read : F → Path → Except FileError (List UInt8)
  write : F → Path → List UInt8 → Except FileError F

end ShaderConversion
