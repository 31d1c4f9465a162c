import BrowserFlow.Command.Compile

/-!
# The command

Runs the compiler of flow documents on the files of the machine.
-/

namespace BrowserFlow.Command

def readSource (path : Store.Path) : IO Source := do
  try
    let bytes ← IO.FS.readBinFile path.text
    return .bytes bytes.toList
  catch
    | .noFileOrDirectory .. => return .missing
    | .inappropriateType _ code _ =>
      return if code = 21 then .unreadable .isFolder else .missing
    | failure => throw failure

def conclude (report : Report) : IO UInt32 := do
  (← IO.getStdout).putStr report.output
  let errors ← IO.getStderr
  errors.putStr report.errors
  match report.ending with
  | .exit code => return UInt32.ofNat code
  | .raised failure =>
    errors.putStrLn failure.message
    return 1

def perform : Plan → IO UInt32
  | .finish report => conclude report
  | .write delivery => do
    IO.FS.createDirAll delivery.folder.text
    let (file, report) := delivery.writing
    IO.FS.writeBinFile delivery.file.text (ByteArray.mk file.bytes.toArray)
    conclude report

end BrowserFlow.Command

def main (arguments : List String) : IO UInt32 := do
  match BrowserFlow.Command.parse arguments with
  | .error stop => BrowserFlow.Command.conclude stop.report
  | .ok options =>
    let source ←
      BrowserFlow.Command.readSource (BrowserFlow.Store.Path.ofString options.document)
    BrowserFlow.Command.perform (BrowserFlow.Command.plan .standard options source)
