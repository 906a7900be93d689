/-
# The machine

The files that every machine starts from: the directories of the system, its devices, and
the programs it comes with. All of them belong to the system.
-/

import ReleaseBuilder.Machine.Utility

namespace ReleaseBuilder.Machine

/-- Where the programs of a machine are. -/
def programDirectory : Location := ["usr", "bin"]

/-- The directory for what is not to be kept. -/
def scratchDirectory : Location := ["tmp"]

/-- The permissions of a program. -/
def programMode : Nat := 0o755

/-- The directories of the system, with their permissions. -/
def directories : List (Location × Nat) :=
  [(["boot"], 0o755), (["dev"], 0o755), (["etc"], 0o755), (["home"], 0o755), (["media"], 0o755),
    (["mnt"], 0o755), (["opt"], 0o755), (["proc"], 0o555), (["root"], 0o700), (["run"], 0o755),
    (["srv"], 0o755), (["sys"], 0o555), (["tmp"], 0o1777), (["usr"], 0o755),
    (["usr", "bin"], 0o755), (["usr", "include"], 0o755), (["usr", "lib"], 0o755),
    (["usr", "local"], 0o755), (["usr", "local", "bin"], 0o755),
    (["usr", "local", "sbin"], 0o755), (["usr", "sbin"], 0o755), (["usr", "share"], 0o755),
    (["var"], 0o755), (["var", "log"], 0o755), (["var", "tmp"], 0o1777)]

/-- The links of the system, with their targets. -/
def links : List (Location × String) :=
  [(["bin"], "usr/bin"), (["sbin"], "usr/sbin"), (["lib"], "usr/lib")]

/-- The devices of the system. -/
def devices : List (Location × Device) :=
  [(["dev", "null"], .null), (["dev", "zero"], .zero), (["dev", "full"], .full),
    (["dev", "random"], .random), (["dev", "urandom"], .random), (["dev", "stdin"], .null),
    (["dev", "stdout"], .null), (["dev", "stderr"], .null)]

/-- The users of the system. -/
def users : String := "root:x:0:0:root:/root:/bin/bash\n"

/-- The files of a machine that nobody has used yet. -/
def files : FileSystem :=
  let fixed : FileSystem :=
    { nodes :=
        (directories.map fun (loc, mode) => (loc, .directory ⟨mode, .system⟩)) ++
        (links.map fun (loc, target) => (loc, .link target)) ++
        (devices.map fun (loc, device) => (loc, .device device)) }
  let withUsers := fixed.putFile ["etc", "passwd"] (.ofText users) ⟨0o644, .system⟩
  programs.foldl
    (fun fs (name, _) =>
      fs.putFile (programDirectory ++ [name]) (.program name) ⟨programMode, .system⟩)
    withUsers

/-- The entries of the environment of a machine that nobody has changed yet. -/
def environment : List String :=
  ["HOME=/root", "PATH=/usr/local/sbin:/usr/local/bin:/usr/sbin:/usr/bin:/sbin:/bin"]

end ReleaseBuilder.Machine
