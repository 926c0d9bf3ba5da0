import KvBridge.Failure
import KvBridge.Json.Value

/-!
# Messages

A message has a content, named texts beside it, and perhaps a failure that belongs to it alone. A
batch is a list of messages; the place in the list tells messages apart.

* `Message.document`: the content as a JSON value.
-/

namespace KvBridge

/-- A message. Of two entries of one name the first counts. -/
structure Message where
  content : Bytes
  metadata : List (String × String) := []
  failure : Option Failure := none

namespace Message

/-- The text of a name. -/
def tag? (m : Message) (name : String) : Option String := m.metadata.lookup name

/-- Sets the text of a name. -/
def setTag (m : Message) (name text : String) : Message :=
  { m with metadata := (name, text) :: m.metadata.filter (·.1 != name) }

def setContent (m : Message) (content : Bytes) : Message := { m with content }

def setFailure (m : Message) (f : Failure) : Message := { m with failure := some f }

/-- The content as a JSON value. -/
def document (m : Message) : Except Json.Problem Json := Json.parse m.content

end Message

end KvBridge
