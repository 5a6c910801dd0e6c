/-!
# Exceptions

The exceptions that the image service, its backends and the libraries they call
can throw.  A message is `none` where the source passes none.
-/

namespace IiifImage

inductive Throwable where
  | invalidParameters (message : Option String)
  | resolving (message : Option String)
  | resourceNotFound
  | unsupportedFormat (message : Option String)
  | transformation (message : Option String)
  | io (message : Option String)
  | tj (message : Option String)
  | illegalArgument (message : Option String)
  | unsupportedOperation (message : Option String)
  | rasterFormat (message : Option String)
  | negativeArraySize (message : Option String)
  | arrayIndexOutOfBounds (message : Option String)
  | nullPointer
  | other (name : String) (message : Option String)
  deriving DecidableEq, Repr

namespace Throwable

/-- `IOException` and its subclass `TJException`. -/
def isIOException : Throwable → Bool
  | io _ => true
  | tj _ => true
  | _ => false

def isIllegalArgument : Throwable → Bool
  | illegalArgument _ => true
  | _ => false

def isResolving : Throwable → Bool
  | resolving _ => true
  | _ => false

def isInvalidParameters : Throwable → Bool
  | invalidParameters _ => true
  | _ => false

/-- The checked exceptions by which the image service reports a mistake of the client. -/
def isClientError : Throwable → Bool
  | invalidParameters _ => true
  | unsupportedFormat _ => true
  | resourceNotFound => true
  | _ => false

theorem isInvalidParameters_iff {exception : Throwable} :
    exception.isInvalidParameters = true ↔ ∃ message, exception = .invalidParameters message := by
  cases exception <;> simp [isInvalidParameters]

theorem isClientError_of_isInvalidParameters {exception : Throwable}
    (invalid : exception.isInvalidParameters = true) : exception.isClientError = true := by
  rcases isInvalidParameters_iff.mp invalid with ⟨message, rfl⟩
  rfl

def isTransformation : Throwable → Bool
  | transformation _ => true
  | _ => false

end Throwable

end IiifImage
