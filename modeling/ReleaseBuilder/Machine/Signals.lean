/-
# Signals

The names of signals, the words by which their work is told, and how statuses tell of them.
-/

import ReleaseBuilder.Host.Ending

namespace ReleaseBuilder.Machine

/-- The signals by number, from one on, up to the last that has a name of its own. -/
def signalWords : List (String × String) :=
  [("HUP", "Hangup"), ("INT", "Interrupt"), ("QUIT", "Quit"), ("ILL", "Illegal instruction"),
    ("TRAP", "Trace/breakpoint trap"), ("ABRT", "Aborted"), ("BUS", "Bus error"),
    ("FPE", "Floating point exception"), ("KILL", "Killed"), ("USR1", "User defined signal 1"),
    ("SEGV", "Segmentation fault"), ("USR2", "User defined signal 2"), ("PIPE", "Broken pipe"),
    ("ALRM", "Alarm clock"), ("TERM", "Terminated"), ("16", "Stack fault"),
    ("CHLD", "Child exited"), ("CONT", "Continued"), ("STOP", "Stopped (signal)"),
    ("TSTP", "Stopped"), ("TTIN", "Stopped (tty input)"), ("TTOU", "Stopped (tty output)"),
    ("URG", "Urgent I/O condition"), ("XCPU", "CPU time limit exceeded"),
    ("XFSZ", "File size limit exceeded"), ("VTALRM", "Virtual timer expired"),
    ("PROF", "Profiling timer expired"), ("WINCH", "Window changed"), ("IO", "I/O possible"),
    ("PWR", "Power failure"), ("SYS", "Bad system call")]

/-- The first of the signals that are counted from the front or the back of their range. -/
def firstNumbered : Nat := 34

/-- The greatest signal. -/
def lastSignal : Nat := 64

/-- The name of a signal. -/
def signalName (signal : Nat) : String :=
  if signal = 0 then "EXIT"
  else
    match signalWords[signal - 1]? with
    | some (name, _) => name
    | none =>
      if signal < firstNumbered then toString signal
      else if signal = firstNumbered then "RTMIN"
      else if signal = lastSignal then "RTMAX"
      else if signal < 50 then "RTMIN+" ++ toString (signal - firstNumbered)
      else "RTMAX-" ++ toString (lastSignal - signal)

/-- The words for a signal that ended something. -/
def signalText (signal : Nat) : String :=
  match signalWords[signal - 1]? with
  | some (_, words) => words
  | none =>
    if signal < firstNumbered then "Unknown signal " ++ toString signal
    else "Real-time signal " ++ toString (signal - firstNumbered)

/-- The signal that a text names or numbers, however its letters are written. -/
def signalNamed? (s : String) : Option Nat :=
  if !s.isEmpty && s.toList.all Char.isDigit then
    (List.range (lastSignal + 1)).find? fun n => s.toNat? = some n
  else (List.range (lastSignal + 1)).find? fun n => (signalName n).toLower = s.toLower

/-- What is added to the number of a signal in the status of what it ended. -/
def signalStatus : Nat := 128

/-- An ending as a status. -/
def statusOf : Ending → Nat
  | .exited code => code
  | .killed signal => signalStatus + signal

end ReleaseBuilder.Machine
