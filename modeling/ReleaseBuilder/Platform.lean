/-
# Platforms

The hosts for which releases are defined: an operating system and a kind of hardware.
Unix hosts tell their names through the kernel; a Windows host is taken to be x64. A
host outside the known set has no platform, because no build configuration is known to
be safe for it.
-/

import ReleaseBuilder.Text.Blank

namespace ReleaseBuilder

/-- The operating systems releases are built on. -/
inductive OperatingSystem where
  | windows
  | linux
  | mac
  deriving DecidableEq, Repr

/-- The hardware releases are built for. -/
inductive Hardware where
  | x64
  | arm64
  deriving DecidableEq, Repr

/-- A host, as far as a release depends on it. -/
structure Platform where
  system : OperatingSystem
  hardware : Hardware
  deriving DecidableEq, Repr

/-- Why a host has no platform. -/
inductive UnknownHost where
  /-- The kernel has a name outside the known ones. -/
  | system (name : String)
  /-- The machine has a name outside the known ones. -/
  | hardware (name : String)
  /-- The host is of a family outside the known ones. -/
  | family (name : String)
  /-- The query for a name did not succeed. -/
  | silent (query : String)
  deriving DecidableEq

/-- The words for a host without a platform. -/
def UnknownHost.words : UnknownHost → String
  | .system name => "unknown os " ++ name
  | .hardware name => "unknown hardware " ++ name
  | .family name => "unknown os family " ++ name
  | .silent query => "`" ++ query ++ "` did not report a value"

namespace OperatingSystem

/-- The name of the system in archive names and reports. -/
def name : OperatingSystem → String
  | windows => "windows"
  | linux => "linux"
  | mac => "mac"

instance : ToString OperatingSystem := ⟨name⟩

/-- The system that a kernel name stands for; blanks around the name do not count. -/
def ofKernelName (kernel : String) : Except UnknownHost OperatingSystem :=
  let trimmed := Text.trim kernel
  if trimmed = "Linux" then .ok .linux
  else if trimmed = "Darwin" then .ok .mac
  else .error (.system trimmed)

/-- The program that runs a makefile. On mac the plain name is another make. -/
def makeProgram : OperatingSystem → String
  | mac => "gmake"
  | linux | windows => "make"

end OperatingSystem

namespace Hardware

/-- The name of the hardware in archive names and reports. -/
def name : Hardware → String
  | x64 => "x64"
  | arm64 => "arm64"

instance : ToString Hardware := ⟨name⟩

/-- The hardware that a machine name stands for; blanks around the name do not count. -/
def ofMachineName (machine : String) : Except UnknownHost Hardware :=
  let trimmed := Text.trim machine
  if trimmed = "x86_64" then .ok .x64
  else if trimmed = "aarch64" ∨ trimmed = "arm64" then .ok .arm64
  else .error (.hardware trimmed)

end Hardware

namespace Platform

/-- The platform as it stands in an archive name. -/
def name (p : Platform) : String :=
  p.system.name ++ "." ++ p.hardware.name

instance : ToString Platform := ⟨name⟩

/-- The target tag that the makefile knows the host's hardware by. -/
def tag (p : Platform) : String :=
  match p.system, p.hardware with
  | .mac, .arm64 => "m1"
  | _, .arm64 => "arm8"
  | _, .x64 => "avx"

/-- The platform of a host of the given family; a unix host also tells the names of its
kernel and of its machine. -/
def classify (family kernel machine : String) : Except UnknownHost Platform :=
  if family = "windows" then .ok ⟨.windows, .x64⟩
  else if family = "unix" then do
    let system ← OperatingSystem.ofKernelName kernel
    let hardware ← Hardware.ofMachineName machine
    .ok ⟨system, hardware⟩
  else .error (.family family)

end Platform

end ReleaseBuilder
