import Anem.CommandLine.Script

namespace Anem

/-- The number of a system error, which may come negated. -/
def systemCode (code : UInt32) : Nat :=
  if code < 0x80000000 then code.toNat else (0 - code).toNat

def Denial.ofError : IO.Error → Denial
  | .noFileOrDirectory _ _ _ => .noSuchFile
  | .inappropriateType _ code _ => if systemCode code = 20 then .notDirectory else .isDirectory
  | .invalidArgument _ code details =>
    if systemCode code = 36 then .nameTooLong else .other details.toList
  | .permissionDenied _ _ _ => .other "Permission denied (os error 13)".toList
  | error => .other error.toString.toList

namespace CommandLine

def loadFile (path : Text) : IO (Except Denial Text) := do
  try
    let bytes ← IO.FS.readBinFile (String.ofList path)
    match String.fromUTF8? bytes with
    | some contents => return .ok contents.toList
    | none => return .error (.other "stream did not contain valid UTF-8".toList)
  catch error => return .error (.ofError error)

def saveFile (path contents : Text) : IO (Except Denial Unit) := do
  try
    IO.FS.writeFile (String.ofList path) (String.ofList contents)
    return .ok ()
  catch error => return .error (.ofError error)

def Script.perform : Script → IO UInt32
  | .exit code => return code.toUInt32
  | .print text next => do
    IO.print (String.ofList text)
    next.perform
  | .load path next => do
    let answer ← loadFile path
    (next answer).perform
  | .save path contents next => do
    let answer ← saveFile path contents
    (next answer).perform

end CommandLine

end Anem

def main (arguments : List String) : IO UInt32 :=
  (Anem.CommandLine.script (arguments.map String.toList)).perform
