import RouterLab.Repl.Transcript

namespace RouterLab.Repl

partial def readLine (input : IO.FS.Stream) (read : ByteArray) : IO ByteArray := do
  let byte ← input.read 1
  if byte.isEmpty then return read
  else if byte.toList.head? = some 10 then return read ++ byte
  else readLine input (read ++ byte)

partial def converse (input output errors : IO.FS.Stream) (r : Repl) : IO UInt32 := do
  output.putStr r.promptText
  output.flush
  let bytes ← readLine input .empty
  if bytes.isEmpty then return 0
  match String.fromUTF8? bytes with
  | none =>
    errors.putStr (Transcript.failed "" Transcript.badInput).err
    return 1
  | some line =>
    let (answer, r, next) := r.enter line
    output.putStr answer
    match next with
    | .goOn => converse input output errors r
    | .leave => return 0

def fileNamed (name : String) : IO (String → Option ByteArray) := do
  try
    let bytes ← IO.FS.readBinFile name
    return fun path => if path = name then some bytes else none
  catch _ => return fun _ => none

end RouterLab.Repl

open RouterLab

def main (args : List String) : IO UInt32 := do
  let output ← IO.getStdout
  let errors ← IO.getStderr
  let named := args.head?.or (← IO.getEnv "NETSIM_LAB")
  let name := named.getD Transcript.defaultLab
  match Lab.load (← Repl.fileNamed name) name with
  | .error e =>
    errors.putStr (Transcript.ofLoadError e).err
    return 1
  | .ok lab =>
    match Repl.start lab with
    | .error e =>
      errors.putStr (Transcript.failed "" e.message).err
      return 1
    | .ok r =>
      output.putStr (Repl.greeting lab)
      Repl.converse (← IO.getStdin) output errors r
