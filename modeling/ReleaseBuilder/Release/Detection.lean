/-
# Detecting the host

A unix host is asked for the names of its kernel and of its machine, in this order, and
the second only if the first query was answered. A host of another family is asked for
nothing. The family is that of the hosts that the program was built for.
-/

import ReleaseBuilder.Release.Work

namespace ReleaseBuilder

/-- The failure of a host that has no platform. -/
def UnknownHost.failure (u : UnknownHost) : Failure :=
  .unsupportedPlatform u.words

namespace Platform

/-- The query for one of the names that the kernel tells. -/
def nameQuery (flag : String) : Command :=
  { program := "uname", args := [flag] }

/-- Ask for a name. The answer loses its surrounding blanks. -/
def askName (flag : String) : Work σ String := do
  let output ← Work.capture (nameQuery flag)
  if output.success then return Text.trim output.stdout
  else Work.fail (UnknownHost.silent (nameQuery flag).text).failure

/-- The platform of a host, which is of the given family. -/
def detect (family : String := "unix") : Work σ Platform :=
  if family ≠ "unix" then
    Work.ofExcept ((classify family "" "").mapError UnknownHost.failure)
  else do
    let kernel ← askName "-s"
    let machine ← askName "-m"
    Work.ofExcept ((classify family kernel machine).mapError UnknownHost.failure)

end Platform

end ReleaseBuilder
