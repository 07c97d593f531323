import FrameViewer.Graphics.Tier

/-! Why drawing failed. A failure is a cause with its details; its wording is in `message`. -/

namespace FrameViewer

/-- The programmable stage that a diagnostic belongs to. -/
inductive ShaderStage where
  | vertex
  | fragment
  deriving DecidableEq, Repr

def ShaderStage.title : ShaderStage → String
  | vertex => "vertex"
  | fragment => "fragment"

inductive RenderError where
  /-- An adapter, a device or a surface could not be had. -/
  | unavailable (tier : Tier) (reason : String)
  /-- A buffer, texture, sampler or bind group could not be made. -/
  | resource (what : String) (reason : String)
  | compile (stage : ShaderStage) (report : String)
  | link (report : String)
  /-- Every tier was tried; each comes with its own cause. -/
  | exhausted (attempts : List (Tier × RenderError))
  /-- The engine's buffer does not match its own dimensions. -/
  | frameSize (expected actual : Nat)
  /-- The active tier lost its device or surface. -/
  | lost (reason : String)
  deriving Inhabited

namespace RenderError

def name : RenderError → String
  | unavailable .. => "BackendUnavailable"
  | resource .. => "ResourceCreationFailure"
  | compile .. => "ShaderCompileFailure"
  | link .. => "ProgramLinkFailure"
  | exhausted .. => "NoBackendAvailable"
  | frameSize .. => "FrameSize"
  | lost .. => "SessionLost"

def message : RenderError → String
  | unavailable tier reason => tier.title ++ " unavailable: " ++ reason
  | resource what reason => "failed to create " ++ what ++ ": " ++ reason
  | compile stage report => stage.title ++ " shader failed to compile: " ++ report
  | link report => "shader program failed to link: " ++ report
  | exhausted _ => "No renderer available"
  | frameSize expected actual =>
    "framebuffer is " ++ toString actual ++ " bytes, expected " ++ toString expected
  | lost reason => "render session lost: " ++ reason

/-- The message, and for exhausted tiers a line with each one's cause. -/
def chain : RenderError → String
  | exhausted attempts =>
    attempts.foldl (fun text (tier, cause) => text ++ "\n  " ++ tier.title ++ ": " ++ cause.message)
      (exhausted attempts).message
  | e => e.message

end RenderError
end FrameViewer
