import StreamRtp.CommandLine.Address
import StreamRtp.CommandLine.Rehearsal

/-!
# The program

The program reads its arguments and runs a command. It knows no network: addresses are read and
judged, but nobody listens anywhere and nobody connects.
-/

namespace StreamRtp.CommandLine

open Socket

/-- How the program ends, and what it has written. -/
structure Exit where
  code : UInt8
  output : String
  errors : String
  deriving DecidableEq, Repr

namespace Exit

/-- The end of a command. -/
def ofResult (output : String) : Except TransmitError Unit → Exit
  | .ok () => ⟨0, output, ""⟩
  | .error e => ⟨1, output, "Error: " ++ e.message ++ "\n"⟩

/-- The end of a sender. Of a panic only the cause is reported. -/
def ofSender : Except Sender.Failure Unit → Exit
  | .ok () => ofResult "" (.ok ())
  | .error (.failed e) => ofResult "" (.error e)
  | .error .panicked => ⟨101, "", "attempt to multiply with overflow\n"⟩

/-- The end of a program whose arguments ask for no command. Help is no failure. -/
def ofUsage : UsageError → Exit
  | .help => ⟨0, UsageError.help.message ++ "\n", ""⟩
  | e => ⟨2, "", "error: " ++ e.message ++ "\n"⟩

end Exit

/-- Connect to an address. -/
def connect (address : String) : Except IoError Stream := do
  let _ ← Address.ofText address
  .error (.os 111)

/-- Listen at an address. -/
def listenAt (address : String) : Except IoError Unit := do
  let _ ← Address.ofText address
  .ok ()

/-- A program that has ended, or that waits for a line of input. What it has written until then is
part of what it will have written in the end. -/
inductive Progress where
  | ended (exit : Exit)
  | awaitingLine (output : String) (resume : Bytes → Exit)

/-- Run the program up to its end or to the line of input it waits for. -/
def startProgram (arguments : List String) (ssrc : UInt32) : Progress :=
  match Invocation.ofArguments arguments with
  | .error e => .ended (.ofUsage e)
  | .ok (.send options) =>
    .ended (.ofSender (Sender.run options ssrc (connect options.connect) World.empty).result)
  | .ok (.listen options) =>
    let bound := listenAt options.bind
    let stopped (input : Bytes) : Exit :=
      let out := Listener.run options bound [] 0 input World.empty
      .ofResult out.output out.result
    match bound with
    | .error _ => .ended (stopped [])
    | .ok () => .awaitingLine (Listener.greeting options.bind) stopped

/-- Run the program with everything that its standard input will bring. -/
def runProgram (arguments : List String) (ssrc : UInt32) (input : Bytes) : Exit :=
  match startProgram arguments ssrc with
  | .ended exit => exit
  | .awaitingLine _ resume => resume input

end StreamRtp.CommandLine
