import ClassDiagram.Run

/-! # The program at work

The only access to files and standard streams: the plan of a run is carried out on the system, one
step after another.
-/

namespace ClassDiagram

/-- The number of an error, which some calls give with its sign changed. -/
def errorNumber (code : UInt32) : Nat :=
  if code.toNat < 0x80000000 then code.toNat else 0x100000000 - code.toNat

/-- The number that the system gave to an error; errors without one have a text. -/
def faultOf : IO.Error → SystemFault
  | .alreadyExists _ code _ => .code (errorNumber code)
  | .otherError code _ => .code (errorNumber code)
  | .resourceBusy code _ => .code (errorNumber code)
  | .resourceVanished code _ => .code (errorNumber code)
  | .unsupportedOperation code _ => .code (errorNumber code)
  | .hardwareFault code _ => .code (errorNumber code)
  | .unsatisfiedConstraints code _ => .code (errorNumber code)
  | .illegalOperation code _ => .code (errorNumber code)
  | .protocolError code _ => .code (errorNumber code)
  | .timeExpired code _ => .code (errorNumber code)
  | .interrupted _ code _ => .code (errorNumber code)
  | .noFileOrDirectory _ code _ => .code (errorNumber code)
  | .invalidArgument _ code _ => .code (errorNumber code)
  | .permissionDenied _ code _ => .code (errorNumber code)
  | .resourceExhausted _ code _ => .code (errorNumber code)
  | .inappropriateType _ code _ => .code (errorNumber code)
  | .noSuchThing _ code _ => .code (errorNumber code)
  | .unexpectedEof => .worded "unexpected end of file"
  | .userError text => .worded text

/-- A path that cannot be followed to its end leads nowhere, whatever is in the way. -/
def isThere (path : String) : IO Bool := do
  try
    let _ ← IO.FS.realPath path
    return true
  catch _ =>
    return false

def faultable {α : Type} (act : IO α) : IO (Except SystemFault α) := do
  try
    return .ok (← act)
  catch e =>
    return .error (faultOf e)

def writeWhole (path : String) (bytes : ByteArray) : IO Unit :=
  IO.FS.withFile path .write fun h => do
    h.write bytes
    h.flush

/-- The system that the program runs on. Events are not written down. -/
def Host.system : Host IO where
  print text := do
    let output ← IO.getStdout
    output.putStr text
    output.flush
  say text := do
    (← IO.getStderr).putStr text
  ask setting := IO.getEnv setting
  install level format := return (Logger.install none level format).map fun _ => ()
  log _ := return
  look path := isThere path
  read path := faultable (IO.FS.readBinFile path)
  write path bytes := faultable (writeWhole path bytes)

end ClassDiagram

def main (args : List String) : IO UInt32 := do
  return (← (ClassDiagram.Plan.ofArguments args).carryOut ClassDiagram.Host.system).toUInt32
