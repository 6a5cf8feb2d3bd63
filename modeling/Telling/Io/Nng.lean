/-!
# What the library sees of NNG

The library delegates transport to NNG.  Asynchronous operations complete with
one of NNG's error codes; the codes that the library distinguishes have names of
their own, all others are kept as a number.
-/

namespace Telling.Io

/-- `nng::error`. -/
inductive NngError where
  | success
  | busy
  | canceled
  | closed
  | connaborted
  | connreset
  | connshut
  | exist
  | internal
  | inval
  | nospc
  | state
  | timedout
  | other (code : Nat)
  deriving DecidableEq, Repr

/-- `nng::exception`: a code and the text that says where it comes from. -/
structure NngException where
  error : NngError
  what : String
  deriving DecidableEq, Repr

/-- `QueryID`, the id of an NNG context. -/
abbrev QueryID := Nat

end Telling.Io
