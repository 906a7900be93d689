/-
# The utilities of a machine

The programs that a machine comes with, by their names.
-/

import ReleaseBuilder.Machine.Shell
import ReleaseBuilder.Machine.Utility.Collecting
import ReleaseBuilder.Machine.Utility.Copying
import ReleaseBuilder.Machine.Utility.Dumping
import ReleaseBuilder.Machine.Utility.Editing
import ReleaseBuilder.Machine.Utility.Exchange
import ReleaseBuilder.Machine.Utility.Launching
import ReleaseBuilder.Machine.Utility.Lines
import ReleaseBuilder.Machine.Utility.Listing
import ReleaseBuilder.Machine.Utility.Making
import ReleaseBuilder.Machine.Utility.Moving
import ReleaseBuilder.Machine.Utility.Octets
import ReleaseBuilder.Machine.Utility.Permitting
import ReleaseBuilder.Machine.Utility.Printing
import ReleaseBuilder.Machine.Utility.Removing
import ReleaseBuilder.Machine.Utility.Selecting
import ReleaseBuilder.Machine.Utility.Testing

namespace ReleaseBuilder.Machine

open Utility (program)

/-- The programs that a machine comes with. -/
def programs : List (String × (Call → Program Nat)) :=
  [("sh", Shell.main), ("dash", Shell.main), ("bash", Shell.main),
    ("[", program (Utility.test true) 2), ("base64", program Utility.base64),
    ("basename", program Utility.basename), ("cat", program Utility.cat),
    ("chmod", program Utility.chmod), ("cmp", program Utility.cmp 2),
    ("comm", program Utility.comm), ("cp", program Utility.cp), ("cut", program Utility.cut),
    ("dd", program Utility.dd), ("dirname", program Utility.dirname),
    ("echo", program Utility.echo), ("egrep", program (Utility.grepAs "E") 2),
    ("env", program Utility.env 125), ("expr", program Utility.expr 3),
    ("false", fun _ => return 1), ("fgrep", program (Utility.grepAs "F") 2),
    ("find", program Utility.find), ("fold", program Utility.fold),
    ("grep", program Utility.grep 2), ("gunzip", program (Utility.gzipWith true false)),
    ("gzip", program (Utility.gzipWith false false)), ("head", program Utility.headProgram),
    ("install", program Utility.install), ("ln", program Utility.ln), ("ls", program Utility.ls 2),
    ("mkdir", program Utility.mkdir), ("mktemp", program Utility.mktemp),
    ("mv", program Utility.mv), ("nice", program Utility.nice 125), ("nl", program Utility.nl),
    ("nohup", program Utility.nohup 125), ("od", program Utility.od),
    ("paste", program Utility.paste), ("printenv", program Utility.printenv 2),
    ("printf", program Utility.printf), ("pwd", program Utility.pwd),
    ("readlink", program Utility.readlink), ("realpath", program Utility.realpath),
    ("rev", program Utility.rev), ("rm", program Utility.rm), ("rmdir", program Utility.rmdir),
    ("sed", program Utility.sed 4), ("seq", program Utility.seq), ("sleep", program Utility.sleep),
    ("sort", program Utility.sort 2), ("stat", program Utility.stat), ("sync", fun _ => return 0),
    ("tac", program Utility.tac), ("tail", program Utility.tailProgram),
    ("tar", program Utility.tar 2), ("tee", program Utility.tee),
    ("test", program (Utility.test false) 2), ("timeout", program Utility.timeout 125),
    ("touch", program Utility.touch), ("tr", program Utility.tr), ("true", fun _ => return 0),
    ("truncate", program Utility.truncate), ("uname", program Utility.uname),
    ("uniq", program Utility.uniq), ("wc", program Utility.wc), ("which", program Utility.which),
    ("xargs", program Utility.xargs), ("yes", program Utility.yes),
    ("zcat", program (Utility.gzipWith true true))]

/-- The process that a program is when it is called. -/
def load (name : String) (call : Call) : Process :=
  match programs.lookup name with
  | some main => (main call).process
  | none => .finished (.exited 127)

end ReleaseBuilder.Machine
