import LayeredMap.Layer.Id

/-!
# Failures

Each failure names its cause. Its number groups it: 1000 for misuse of a
sheet, 2000 for layers, 3000 for coordinate systems, 4000 for settings and
manifests. Texts that mention a layer take the way to write its identity.

What a listener or a layer of somebody else throws is no failure of these. It
is a payload of any kind, of which only texts can be read.
-/
namespace LayeredMap

inductive Payload where
  | literal (text : String)
  | text (text : String)
  | other
  deriving DecidableEq

def Payload.message : Payload → String
  | literal s | text s => s
  | other => "unknown panic"

inductive LayerFailure where
  | sourceUnavailable (layer : LayerId) (reason : String)
  | disposed (layer : LayerId)
  deriving DecidableEq

inductive ReprojectionFailure where
  | noTransform (source target : String)
  | degenerate (source target : String)
  deriving DecidableEq

inductive Failure where
  | indexOutOfBounds (index len : Nat)
  | disposed
  | layer (cause : LayerFailure)
  | reprojection (cause : ReprojectionFailure)
  | invalidCrs (text : String)
  | invalidSettings (text : String)
  | manifest (text : String)
  deriving DecidableEq

namespace LayerFailure

def code : LayerFailure → Nat
  | sourceUnavailable .. => 2001
  | disposed .. => 2002

def message (name : LayerId → String) : LayerFailure → String
  | sourceUnavailable l reason => "layer " ++ name l ++ " data source unavailable: " ++ reason
  | disposed l => "layer " ++ name l ++ " is disposed"

end LayerFailure

namespace ReprojectionFailure

def code : ReprojectionFailure → Nat
  | noTransform .. => 3001
  | degenerate .. => 3002

def message : ReprojectionFailure → String
  | noTransform a b => "no transform from " ++ a ++ " to " ++ b
  | degenerate a b => "reprojection from " ++ a ++ " to " ++ b ++ " produced a degenerate envelope"

end ReprojectionFailure

namespace Failure

def code : Failure → Nat
  | indexOutOfBounds .. => 1001
  | disposed => 1002
  | layer f => f.code
  | reprojection f => f.code
  | invalidCrs _ => 3003
  | invalidSettings _ => 4001
  | manifest _ => 4002

/-- The caller broke the rules, rather than the data. -/
def isMisuse : Failure → Bool
  | indexOutOfBounds .. | disposed => true
  | _ => false

def message (name : LayerId → String) : Failure → String
  | indexOutOfBounds i n => s!"index {i} out of bounds for {n} layers"
  | disposed => "map content has been disposed"
  | layer f => "layer error: " ++ f.message name
  | reprojection f => "reprojection error: " ++ f.message
  | invalidCrs t => "invalid crs: " ++ t
  | invalidSettings t => "invalid configuration: " ++ t
  | manifest t => "manifest error: " ++ t

end Failure
end LayeredMap
