import KvBridge.Text.Quoted
import KvBridge.Text.Utf8

/-!
# Failures

A `Failure` is what a caller is told; a `Cause` is why, as far as a driver, a reader or a network
could tell. A failure names the operation that the caller asked for, and its message ends in the
outermost words of its cause.

* `Failure.message`, `Cause.message`: the words;
* `Failure.cause?`: the cause that a failure carries;
* `Failure.transportForKey`: a failed operation on one key.
-/

namespace KvBridge

mutual

/-- What a caller is told. -/
inductive Failure
  | keyNotFound
  | keyAlreadyExists
  | invalidOperation (name : String)
  | notConnected
  | connection (backend : String) (attempts : Nat) (cause : Cause)
  | transport (operation : String) (key : Option String) (cause : Cause)
  | invalidConfiguration (reason : String)
  | resolve (index : Nat) (cause : Cause)
  | cancelled
  | timeout (millis : UInt64)

/-- Why something failed: in words, in words around a cause further in, or as a failure. -/
inductive Cause
  | text (words : String)
  | context (words : String) (inner : Cause)
  | failure (f : Failure)

end

instance : Inhabited Failure := ⟨.notConnected⟩

instance : Inhabited Cause := ⟨.text ""⟩

mutual

/-- The words of a failure. -/
def Failure.message : Failure → String
  | .keyNotFound => "key not found"
  | .keyAlreadyExists => "key already exists"
  | .invalidOperation name => "invalid operation: " ++ name
  | .notConnected => "not connected"
  | .connection backend attempts cause =>
    "connection to " ++ backend ++ " failed after " ++ toString attempts ++ " attempt(s): " ++
      cause.message
  | .transport operation none cause => operation ++ " failed: " ++ cause.message
  | .transport operation (some key) cause =>
    operation ++ " failed for key " ++ Text.quoted key ++ ": " ++ cause.message
  | .invalidConfiguration reason => "invalid configuration: " ++ reason
  | .resolve index cause => "failed to resolve item " ++ toString index ++ ": " ++ cause.message
  | .cancelled => "operation cancelled"
  | .timeout millis => "operation timed out after " ++ toString millis ++ "ms"

/-- The outermost words of a cause. -/
def Cause.message : Cause → String
  | .text words => words
  | .context words _ => words
  | .failure f => f.message

end

namespace Failure

/-- The cause of a failure. -/
def cause? : Failure → Option Cause
  | .connection _ _ cause | .transport _ _ cause | .resolve _ cause => some cause
  | _ => none

/-- A failed operation on one key, which is shown as text. -/
def transportForKey (operation : String) (key : Bytes) (cause : Cause) : Failure :=
  .transport operation (some (Utf8.decodeLossy key)) cause

def isNotFound : Failure → Bool
  | .keyNotFound => true
  | _ => false

def isAlreadyExists : Failure → Bool
  | .keyAlreadyExists => true
  | _ => false

/-- Whether the call was cut short, rather than answered by the backend. -/
def isInterrupted : Failure → Bool
  | .cancelled | .timeout _ => true
  | _ => false

end Failure

end KvBridge
