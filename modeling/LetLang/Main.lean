import LetLang.Command.Outcome
import LetLang.Command.Help

namespace LetLang

partial def readLine (input : IO.FS.Stream) (line buffer : List UInt8) :
    IO (List UInt8 × List UInt8) := do
  match buffer.span (· != 0x0A) with
  | (part, feed :: rest) => return (line ++ part ++ [feed], rest)
  | (part, []) =>
    let more ← input.read 4096
    if more.isEmpty then return (line ++ part, [])
    else readLine input (line ++ part) more.data.toList

partial def converse (s : Session) (input output : IO.FS.Stream) (buffer : List UInt8) :
    IO (Option Failure) := do
  output.putStr s.prompt
  output.flush
  let (line, rest) ← readLine input [] buffer
  match s.respond .framed line with
  | .stop text failure =>
    output.putStr text
    return failure.map .session
  | .reply text =>
    output.putStr text
    converse s input output rest

def findOnDisk (path : String) : IO Found := do
  if path.contains '\x00' then return .nowhere .nul
  try
    return .file (← IO.FS.readBinFile path)
  catch
    | .inappropriateType _ 21 _ => return .directory
    | .inappropriateType _ _ _ => return .nowhere .blocked
    | .invalidArgument _ 36 _ => return .nowhere .tooLong
    | _ => return .nowhere .missing

def perform (r : Request) : IO (Option Failure) := do
  let output ← IO.getStdout
  match r.lex <|> r.parse with
  | some path =>
    let found ← findOnDisk path
    let outcome := r.outcome (fun _ => found) []
    output.putStr outcome.output
    return outcome.failure
  | none => converse (r.session.getD .standard) (← IO.getStdin) output []

end LetLang

def main (args : List String) : IO UInt32 := do
  match LetLang.Request.ofArguments args with
  | .error halt =>
    match halt.answer? with
    | some text => (← IO.getStdout).putStr text
    | none => (← IO.getStderr).putStr "error: the arguments are not understood\n"
    return halt.exitCode.toUInt32
  | .ok request =>
    match ← LetLang.perform request with
    | none => return 0
    | some failure =>
      (← IO.getStderr).putStr (failure.message ++ "\n")
      return 1
