/-! What can go wrong with a connection and all that is made from it. -/

namespace EmbeddedSql

/-! ## Codes with which the engine answers -/

namespace Status

def ok : Int := 0
def error : Int := 1
def permission : Int := 3
def abort : Int := 4
def busy : Int := 5
def locked : Int := 6
def noMemory : Int := 7
def readOnly : Int := 8
def inputOutput : Int := 10
def full : Int := 13
def cannotOpen : Int := 14
def tooBig : Int := 18
def constraint : Int := 19
def mismatch : Int := 20
def misuse : Int := 21
def range : Int := 25
def notDatabase : Int := 26
def row : Int := 100
def done : Int := 101

/-- What there is to say about a failure of which no more than the code is known. -/
def text (code : Int) : String :=
  if code = noMemory then "out of memory"
  else if code = cannotOpen then "unable to open database file"
  else if code = tooBig then "string or blob too big"
  else if code = misuse then "bad parameter or other API misuse"
  else "unknown error"

end Status

inductive Error where
  | openFailed (code : Int) (path message : String)
  | prepareFailed (code : Int) (message : String)
  | emptyStatement
  | bindFailed (code : Int)
  | stepFailed (code : Int) (message : String)
  | misuse
  | finalizeFailed (code : Int)
  | useAfterDispose
  | noCurrentRow
  | columnOutOfRange (index count : Nat)
deriving DecidableEq, Repr

namespace Error

def code? : Error → Option Int
  | .openFailed code _ _ => some code
  | .prepareFailed code _ => some code
  | .bindFailed code => some code
  | .stepFailed code _ => some code
  | .finalizeFailed code => some code
  | .misuse => some Status.misuse
  | .emptyStatement => none
  | .useAfterDispose => none
  | .noCurrentRow => none
  | .columnOutOfRange _ _ => none

def message : Error → String
  | .openFailed code path message =>
      s!"could not open database file '{path}' (code {code}): {message}"
  | .prepareFailed code message => s!"could not prepare statement (code {code}): {message}"
  | .emptyStatement => "SQL text contains no statement"
  | .bindFailed code => s!"could not bind SQL parameter (code {code})"
  | .stepFailed code message => s!"statement step failed (code {code}): {message}"
  | .misuse => "statement used incorrectly"
  | .finalizeFailed code => s!"could not finalize SQL statement (code {code})"
  | .useAfterDispose => "connection has been disposed"
  | .noCurrentRow => "reader is not positioned on a row"
  | .columnOutOfRange index count => s!"column index {index} out of range ({count} columns)"

end Error

end EmbeddedSql
