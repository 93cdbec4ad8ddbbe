import StreamRtp.CommandLine.Program

/-!
# Entry point

Hands the arguments and a line of the standard input to the program and writes what comes of it.
-/

namespace StreamRtp.CommandLine

/-- Read up to the end of a line or of the input. -/
partial def readLine (input : IO.FS.Stream) (line : ByteArray) : IO ByteArray := do
  let next ← input.read 1
  if next.isEmpty || next.data.contains 10 then return line ++ next
  readLine input (line ++ next)

end StreamRtp.CommandLine

open StreamRtp StreamRtp.CommandLine

/-- Run the program with the arguments of the process. -/
def main (arguments : List String) : IO UInt32 := do
  let ssrc ← IO.rand 0 4294967295
  let exit ←
    match startProgram arguments ssrc.toUInt32 with
    | .ended exit => do
      IO.print exit.output
      pure exit
    | .awaitingLine output resume => do
      IO.print output
      let stdout ← IO.getStdout
      stdout.flush
      let line ← readLine (← IO.getStdin) .empty
      pure (resume line.toList)
  IO.eprint exit.errors
  return exit.code.toUInt32
