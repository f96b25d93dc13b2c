import OpticalTestbed.Path
/-!
Where the parts of an emulator installation and of its running instance lie.
-/
namespace OpticalTestbed

/-- An installation of the emulator, and the directory of its control pipes. -/
structure Release where
  root : String
  pipeDirectory : String
  deriving DecidableEq

namespace Release

/-- The installation at a directory, run by a user under whose name the pipes are kept. -/
def ofUser (root user : String) : Release :=
  ⟨root, Path.join (Path.join "/tmp/home" user) "linc-oe/rel/linc"⟩

def directory (r : Release) : String := Path.join r.root "rel/linc"

/-- The startup configuration that the emulator reads. -/
def sysConfig (r : Release) : String := Path.join r.directory "releases/1.0/sys.config"

def controlScript (r : Release) : String := Path.join r.directory "bin/linc"

def writePipe (r : Release) : String := Path.join r.pipeDirectory "erlang.pipe.1.w"

def readPipe (r : Release) : String := Path.join r.pipeDirectory "erlang.pipe.1.r"

end Release

end OpticalTestbed
