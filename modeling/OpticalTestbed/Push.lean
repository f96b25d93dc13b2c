import OpticalTestbed.World
/-!
Pushing a document to a controller, by the tool that its installation comes with.
-/
namespace OpticalTestbed.Push

/-- The call that pushes a document in the work directory to a controller. -/
def toolCall (onosRoot work controller document : String) : Invocation where
  program := Path.join onosRoot "tools/test/bin/onos-topo-cfg"
  args := [controller, document, "network/configuration/"]
  directory := some work

def isBrace (c : Char) : Bool := c = '\x7b' || c = '\x7d'

/-- Whether the tool printed an acceptance: nothing but braces around blanks, and blanks around
those. -/
def isAccepted (output : String) : Bool :=
  let inner := Text.dropTailWhile isBrace ((Text.trim output.toList).dropWhile isBrace)
  (Text.trim inner).isEmpty

def push (o : Outside) (onosRoot work controller document : String) : Op Unit := do
  let output ← o.call (toolCall onosRoot work controller document)
  if isAccepted output then return ()
  else Op.fail (.pushRejected controller document (trimmed output))

end OpticalTestbed.Push
