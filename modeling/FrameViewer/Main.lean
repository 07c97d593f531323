import FrameViewer.App.Opening
import FrameViewer.CommandLine

/-! The command line. It runs the opening on a recording platform, and prints the log and the
picture that is shown first. -/

namespace FrameViewer

def FileError.ofIO : IO.Error → FileError
  | .noFileOrDirectory .. => .notFound
  | .inappropriateType .. => .isDirectory
  | e => .other e.toString

def readProgram (path : String) : IO (Except FileError Bytes) := do
  try
    return .ok (← IO.FS.readBinFile path).data
  catch e =>
    return .error (FileError.ofIO e)

/-- Prints why the arguments were not taken; asking for help or the version is no failure. -/
def printStop (stop : CommandLine.Stop) : IO UInt32 := do
  match stop with
  | .help | .version =>
    IO.print stop.message
    return 0
  | _ =>
    IO.eprintln stop.message
    return 2

def printOpening (settings : Settings) (level : Level) : IO UInt32 := do
  match App.runOpening settings ⟨(), {}⟩ with
  | .ok picture scene =>
    for notice in scene.platform.log level do
      IO.println (notice.level.name ++ " " ++ notice.message)
    for row in (picture.map Framebuffer.rows).getD [] do
      IO.println row
    return 0
  | .error .. => return 101

/-- Runs the command line and answers with the exit code. -/
def runCommandLine (args : List String) : IO UInt32 := do
  match CommandLine.parse args with
  | .error stop => printStop stop
  | .ok options =>
    let program ← match options.rom with
      | none => pure (.error .notFound)
      | some path => readProgram path
    match options.settings fun _ => program with
    | .ok settings => printOpening settings options.level
    | .error e =>
      IO.eprintln ("Error: " ++ e.message ++ "\n\nCaused by:\n    " ++ e.reason.message)
      return 1

end FrameViewer

def main (args : List String) : IO UInt32 :=
  FrameViewer.runCommandLine args
