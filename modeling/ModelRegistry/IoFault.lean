/-!
# Faults of files and connections

What can go wrong between the program and the machine it runs on.  The wording is that of the
operating system where the operating system reports the fault.
-/

namespace ModelRegistry

/-- Why an operation on a file or a connection failed. -/
inductive IoFault
  | notFound
  | notADirectory
  | isADirectory
  | alreadyExists
  | nameTooLong
  | noSuchDevice
  | addressInUse
  | invalidArgument
  | connectionRefused
  | brokenPipe
  /-- A NUL byte in the name of a file. -/
  | nulInName
  /-- A NUL byte in the name of a socket. -/
  | nulInSocket
  /-- A socket's name must be shorter than 108 bytes. -/
  | socketNameTooLong
  /-- A directory that could not be made from its parents. -/
  | noWholeTree
  /-- The content of a file is not text. -/
  | notText
  /-- The stream ended before the bytes that were asked for. -/
  | unexpectedEnd
  /-- A frame with a body over the limit. -/
  | frameTooLarge (size limit : Nat)
  deriving DecidableEq, Repr

namespace IoFault

/-- A report of the operating system, with its number. -/
def numbered (words : String) (number : Nat) : String :=
  words ++ " (os error " ++ toString number ++ ")"

def message : IoFault → String
  | notFound => numbered "No such file or directory" 2
  | notADirectory => numbered "Not a directory" 20
  | isADirectory => numbered "Is a directory" 21
  | alreadyExists => numbered "File exists" 17
  | nameTooLong => numbered "File name too long" 36
  | noSuchDevice => numbered "No such device or address" 6
  | addressInUse => numbered "Address already in use" 98
  | invalidArgument => numbered "Invalid argument" 22
  | connectionRefused => numbered "Connection refused" 111
  | brokenPipe => numbered "Broken pipe" 32
  | nulInName => "file name contained an unexpected NUL byte"
  | nulInSocket => "paths must not contain interior null bytes"
  | socketNameTooLong => "path must be shorter than SUN_LEN"
  | noWholeTree => "failed to create whole tree"
  | notText => "stream did not contain valid UTF-8"
  | unexpectedEnd => "failed to fill whole buffer"
  | frameTooLarge size limit =>
    "frame of " ++ toString size ++ " bytes exceeds limit of " ++ toString limit

end IoFault
end ModelRegistry
