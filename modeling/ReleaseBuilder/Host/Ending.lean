/-
# How processes end

A process exits with a code or is killed by a signal. Code zero is success.
-/

namespace ReleaseBuilder

/-- How a process ended. -/
inductive Ending where
  | exited (code : Nat)
  | killed (signal : Nat)
  deriving DecidableEq, Repr

/-- The signals that end a process, with their numbers. -/
def signalNames : List (String × Nat) :=
  [("HUP", 1), ("INT", 2), ("QUIT", 3), ("ILL", 4), ("TRAP", 5), ("ABRT", 6), ("BUS", 7),
    ("FPE", 8), ("KILL", 9), ("USR1", 10), ("SEGV", 11), ("USR2", 12), ("PIPE", 13),
    ("ALRM", 14), ("TERM", 15), ("STKFLT", 16), ("XCPU", 24), ("XFSZ", 25), ("VTALRM", 26),
    ("PROF", 27), ("IO", 29), ("PWR", 30), ("SYS", 31)]

namespace Ending

/-- Whether the process ended with success. -/
def success : Ending → Bool
  | exited code => code = 0
  | killed _ => false

/-- The ending in words. -/
def text : Ending → String
  | exited code => "exit status: " ++ toString code
  | killed signal =>
    "signal: " ++ toString signal ++
      match signalNames.find? (·.2 = signal) with
      | some (name, _) => " (SIG" ++ name ++ ")"
      | none => ""

theorem success_iff {e : Ending} : e.success = true ↔ e = .exited 0 := by
  cases e <;> simp [success]

end Ending

end ReleaseBuilder
