import Interop.Command.Builtin

namespace Interop.Command

def failureOf (text : String) (code : UInt32) : LoadFailure :=
  .other (text ++ " (os error " ++ Text.decimal code.toNat ++ ")")

def loadFailure : IO.Error → LoadFailure
  | .noFileOrDirectory _ code text => failureOf text code
  | .inappropriateType _ code text => failureOf text code
  | .permissionDenied _ code text => failureOf text code
  | .invalidArgument _ code text => failureOf text code
  | .resourceExhausted _ code text => failureOf text code
  | .hardwareFault code text => failureOf text code
  | .unsupportedOperation code text => failureOf text code
  | .otherError code text => failureOf text code
  | e => .other (toString e)

def readFile (path : String) : IO (Except LoadFailure (List UInt8)) := do
  if '\x00' ∈ path.toList then return .error .zeroByte
  try
    return .ok (← IO.FS.readBinFile path).toList
  catch e => return .error (loadFailure e)

/-- Loaded bytes have no address that could be told; this one stands for it. -/
def loadAddress : UInt64 := 0x10000

/-- Reads the one file that the invocation asks for, if it asks for any. -/
def sourceFor (args : List Text.Loose) : IO Source := do
  match builtin.arguments.invocation? args with
  | .ok (some ⟨.blob path _, _, _, _⟩) =>
    let content ← readFile path.display
    return ⟨fun _ => content, loadAddress⟩
  | _ => return ⟨fun _ => .error .notFound, loadAddress⟩

end Interop.Command

open Interop Interop.Command in
def main (args : List String) : IO UInt32 := do
  let args := args.map Text.Loose.ofString
  let output ← IO.getStdout
  let errors ← IO.getStderr
  let surroundings : Surroundings := {
    source := ← sourceFor args
    logSpec := ← IO.getEnv "RUST_LOG"
    logStyle := ← IO.getEnv "RUST_LOG_STYLE"
    terminals := ⟨← output.isTty, ← errors.isTty⟩ }
  let outcome := run builtin surroundings args
  errors.putStr outcome.errors
  output.putStr outcome.output
  return UInt32.ofNat outcome.exit
