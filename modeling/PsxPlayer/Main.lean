import PsxPlayer.CommandLine.Run

open PsxPlayer

/-! The command line program. -/

/-- The files and variables of the running process. -/
def processHost : Host IO where
  getVariable name := IO.getEnv name
  read path := do
    try
      return some (← IO.FS.readBinFile path)
    catch _ =>
      return none
  create path := do
    try
      IO.FS.writeBinFile path ByteArray.empty
      return true
    catch _ =>
      return false
  write path contents := IO.FS.writeBinFile path contents

/-- What the user is told about the arguments. -/
def usage : String :=
  "Usage: player [OPTIONS] <EXE>\n\n" ++
    "  -c, --config <FILE>         TOML settings file\n" ++
    "  -o, --output <FILE>         wave file to write\n" ++
    "  -s, --seconds <N>           seconds to render\n" ++
    "  -i, --interpolation <NAME>  none, linear, gaussian or cubic\n" ++
    "      --vsync <RATE>          50 or 60 frames per second\n" ++
    "      --no-reverb             switch the reverb unit off\n" ++
    "  -p, --play                  play through an audio device\n" ++
    "  -h, --help                  print this text\n"

/-- Tell the user how a run ended. -/
def report : Outcome → IO Unit
  | .success => pure ()
  | .help => IO.print usage
  | .failure fault => IO.eprintln fault.message
  | .misuse => IO.eprint usage

def main (arguments : List String) : IO UInt32 := do
  let outcome ← runCommandLine processHost arguments
  report outcome
  return outcome.code
