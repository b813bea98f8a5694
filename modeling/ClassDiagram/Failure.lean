import ClassDiagram.Defect
import ClassDiagram.SystemFault

/-! # Failures

Why no diagram comes out. A failure is a cause; its wording is given once, by `message`.
-/

namespace ClassDiagram

inductive Failure
  | unsupportedNotation (key : String)
  | malformedRecord (defect : Defect)
  | unreadableSource (path : String) (fault : SystemFault)
  | inputOutput (fault : SystemFault)
  | missingSource (path : String)
  | strictDefects (count : Nat) (path : String)
  | unwritableTarget (path : String) (fault : SystemFault)
  | worded (text : String)
  deriving DecidableEq

namespace Failure

def message : Failure → String
  | unsupportedNotation key => "Unsupported notation: " ++ key
  | malformedRecord d => "Malformed record: " ++ d.message
  | unreadableSource path fault => "Unreadable record source '" ++ path ++ "': " ++ fault.message
  | inputOutput fault => "IO error: " ++ fault.message
  | missingSource path => "Invalid record file path: " ++ path
  | strictDefects count path => toString count ++ " malformed record(s) in '" ++ path ++ "'"
  | unwritableTarget path fault =>
    "Failed to write output file '" ++ path ++ "': " ++ fault.message
  | worded text => text

/-- The fault of the system behind a failure to read. -/
def cause? : Failure → Option SystemFault
  | unreadableSource _ fault => some fault
  | inputOutput fault => some fault
  | _ => none

end Failure

end ClassDiagram
