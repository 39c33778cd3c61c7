/-! Failures of the operating system and of the byte streams it provides. -/

namespace SpeedTest

/-- A failure with a number of the operating system. -/
inductive SystemError where
  | noSuchFile
  | fileExists
  | notADirectory
  | tooManyFiles
  | nameTooLong
  | addressInUse
  | networkUnreachable
  | connectionRefused
  | connectionReset
deriving Repr, DecidableEq

namespace SystemError

def number : SystemError → Nat
  | noSuchFile => 2
  | fileExists => 17
  | notADirectory => 20
  | tooManyFiles => 24
  | nameTooLong => 36
  | addressInUse => 98
  | networkUnreachable => 101
  | connectionReset => 104
  | connectionRefused => 111

def description : SystemError → String
  | noSuchFile => "No such file or directory"
  | fileExists => "File exists"
  | notADirectory => "Not a directory"
  | tooManyFiles => "Too many open files"
  | nameTooLong => "File name too long"
  | addressInUse => "Address already in use"
  | networkUnreachable => "Network is unreachable"
  | connectionReset => "Connection reset by peer"
  | connectionRefused => "Connection refused"

def message (e : SystemError) : String :=
  e.description ++ " (os error " ++ toString e.number ++ ")"

end SystemError

/-- Why an operation on a stream, a socket, an address or a file fails. -/
inductive IoError where
  /-- The stream ended before everything that was asked for had arrived. -/
  | earlyEnd
  /-- A write accepted nothing. -/
  | nothingWritten
  /-- A write on a WebSocket accepted nothing. -/
  | resetWhileSending
  | notAnAddress
  | notAPort
  /-- There is no host of that name. -/
  | unknownHost
  /-- Nobody could be asked for the host's address. -/
  | hostOutOfReach
  /-- A name for the operating system with a zero character in it. -/
  | nulInName
  | notText
  | system (cause : SystemError)
  /-- A failure that only its text describes. -/
  | other (text : String)
deriving Repr, DecidableEq

def IoError.message : IoError → String
  | earlyEnd => "early eof"
  | nothingWritten => "write zero"
  | resetWhileSending => "Connection reset while sending"
  | notAnAddress => "invalid socket address"
  | notAPort => "invalid port value"
  | unknownHost => "failed to lookup address information: Name or service not known"
  | hostOutOfReach =>
    "failed to lookup address information: Temporary failure in name resolution"
  | nulInName => "file name contained an unexpected NUL byte"
  | notText => "stream did not contain valid UTF-8"
  | system cause => cause.message
  | other text => text

end SpeedTest
