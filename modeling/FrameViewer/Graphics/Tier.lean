/-! The graphics tiers, best first, and the user's choice among them. -/

namespace FrameViewer

inductive Tier where
  | modern
  | legacy
  | none
  deriving DecidableEq, Repr

namespace Tier

def title : Tier → String
  | modern => "modern GPU"
  | legacy => "legacy raster"
  | none => "no backend"

def name : Tier → String
  | modern => "ModernGpu"
  | legacy => "LegacyRaster"
  | none => "None"

/-- The tier of that name; any other text names none. -/
def ofName (text : String) : Tier :=
  if text = "ModernGpu" then modern else if text = "LegacyRaster" then legacy else none

end Tier

/-- Which tiers may be tried. -/
inductive Preference where
  | auto
  | modernOnly
  | legacyOnly
  deriving DecidableEq, Repr

namespace Preference

def allows : Preference → Tier → Bool
  | auto, tier => tier != .none
  | modernOnly, tier => tier == .modern
  | legacyOnly, tier => tier == .legacy

def name : Preference → String
  | auto => "Auto"
  | modernOnly => "ModernOnly"
  | legacyOnly => "LegacyOnly"

/-- Reads a preference or one of its aliases in any ASCII case; otherwise the lower-cased text
comes back. -/
def parse (text : String) : Except String Preference :=
  let lowered := text.map Char.toLower
  if lowered = "auto" then .ok auto
  else if lowered = "modern" ∨ lowered = "webgpu" ∨ lowered = "gpu" then .ok modernOnly
  else if lowered = "legacy" ∨ lowered = "webgl" ∨ lowered = "gl" then .ok legacyOnly
  else .error lowered

/-- What is said about a text that names no preference. -/
def unknownMessage (lowered : String) : String :=
  "unknown backend '" ++ lowered ++ "', expected auto, modern or legacy"

end Preference
end FrameViewer
