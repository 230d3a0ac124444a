import ContainerCert.Text.Summary

/-!
# The token for the certification service

The token is a secret: whatever shows it shows a mask in its place. Only a request to the service
carries the value itself.
-/

namespace ContainerCert.Pyxis

/-- A secret text. -/
structure Token where
  secret : String
  deriving DecidableEq

namespace Token

/-- The token of a run that has none. -/
def none : Token := ⟨""⟩

/-- Whether there is nothing to send. -/
def isEmpty (token : Token) : Bool :=
  token.secret.isEmpty

/-- What stands wherever a secret would be shown. -/
def mask : String := "[REDACTED]"

/-- A token as users see it. -/
def shown (_ : Token) : String :=
  mask

/-- A token as developers see it. -/
def summary (token : Token) : String :=
  Text.wrapped "ApiToken" token.shown

end Token
end ContainerCert.Pyxis
