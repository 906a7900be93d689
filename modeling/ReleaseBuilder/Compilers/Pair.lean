/-
# Compiler pairs

The C and the C++ compiler that a makefile is given.
-/

namespace ReleaseBuilder

/-- A C compiler and a C++ compiler. -/
structure Compilers where
  cc : String
  cxx : String
  deriving DecidableEq, Repr

namespace Compilers

/-- The pair under its plain names. -/
def standard : Compilers := ⟨"gcc", "g++"⟩

/-- The pair of one version, as package managers name it beside others. -/
def versioned (version : UInt32) : Compilers :=
  ⟨standard.cc ++ "-" ++ toString version.toNat, standard.cxx ++ "-" ++ toString version.toNat⟩

end Compilers

end ReleaseBuilder
