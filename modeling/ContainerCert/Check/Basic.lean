import ContainerCert.Check.Options
import ContainerCert.Image.Reference

/-!
# Checks

A check looks at an image reference and the settings of the engine, and passes, fails for a
reason, or cannot be evaluated for a reason. A check may work on the state it runs in.
-/

namespace ContainerCert

namespace Check

/-- What a check looks at. -/
structure Target where
  reference : Image.Reference
  settings : EngineSettings

/-- What a check says. -/
inductive Verdict where
  | pass
  | fail (reason : String)
  | error (reason : String)
  deriving DecidableEq, Repr

end Check

/-- A check, by its texts and its evaluation. -/
structure Check (σ : Type) where
  name : String
  description : String
  help : String
  evaluate : Check.Target → StateM σ Check.Verdict

namespace Check

/-- A check that only looks at its target. -/
def ofVerdict {σ : Type} (name description help : String) (verdict : Target → Verdict) :
    Check σ :=
  ⟨name, description, help, fun target => pure (verdict target)⟩

/-- The platforms that certification is offered for. -/
def supportedPlatforms : List String :=
  ["amd64", "arm64", "ppc64le", "s390x"]

/-- Whether the reference names a tag or a digest. -/
def pinnedVerdict (target : Target) : Verdict :=
  if target.reference.isPinned then .pass
  else .fail (target.reference.display ++ " has no tag or digest")

/-- Whether certification is offered for the platform. -/
def platformVerdict (target : Target) : Verdict :=
  let platform := target.settings.platform
  if platform.isEmpty then .error "no platform configured"
  else if platform ∈ supportedPlatforms then .pass
  else .fail ("platform " ++ platform ++ " is not supported")

/-- The check that a reference is pinned. -/
def hasTagOrDigest {σ : Type} : Check σ :=
  .ofVerdict "HasTagOrDigest" "Image reference names an explicit tag or digest"
    "Reference the image as registry/repository:tag or registry/repository@sha256:<digest>."
    pinnedVerdict

/-- The check that certification is offered for the platform. -/
def supportedPlatform {σ : Type} : Check σ :=
  .ofVerdict "SupportedPlatform" "Target platform is one certification is offered for"
    "Pass --platform with one of amd64, arm64, ppc64le or s390x." platformVerdict

/-- The checks of a run that does not bring its own. -/
def builtin {σ : Type} : List (Check σ) :=
  [hasTagOrDigest, supportedPlatform]

end Check
end ContainerCert
