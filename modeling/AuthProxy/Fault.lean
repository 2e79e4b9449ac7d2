import AuthProxy.Files.Basic
import AuthProxy.Layer.Misfit
import AuthProxy.Secret.Base64
import AuthProxy.Url.Basic

/-!
# Faults of a configuration

Everything that can be wrong with a configuration, from the sources that it is loaded from to the checks that it must
pass. A fault within a section is wrapped with the label of the section; `Fault.rootCause` goes down to the fault itself,
and `Fault.chain` lists the texts of the causes beneath.
-/

namespace AuthProxy

open Number Text

/-- What is wrong with a configuration. -/
inductive Fault where
  /-- A field that must be given is not. -/
  | missing (field : String)
  /-- A field has a value that cannot be used. -/
  | invalidValue (field value : String)
  | malformedUrl (field : String) (cause : Url.Malformed)
  /-- A URL has no host. -/
  | incompleteUrl (field : String)
  | malformedSecret (cause : Secret.Malformed)
  /-- The secret is a key of the wrong length. -/
  | secretLength (bytes : Nat)
  | unopenableFile (field path : String) (cause : OpenFault)
  /-- A fault within a section. -/
  | inSection (label : String) (cause : Fault)
  /-- A variable has a value that cannot be read. -/
  | unreadableVariable (key reason : String)
  | fileNotFound (path : String)
  /-- The merged layers are not a configuration. -/
  | misfit (cause : Layer.Misfit)
deriving Repr, DecidableEq

namespace Fault

/-- The fault in words. -/
def message : Fault → String
  | missing field => "no " ++ field ++ " configured"
  | invalidValue field value => "invalid " ++ field ++ ": " ++ String.ofList (quote value.toList)
  | malformedUrl field cause => "invalid " ++ field ++ " configured: " ++ cause.message
  | incompleteUrl field => field ++ " must include scheme and host"
  | malformedSecret cause =>
    "invalid cookie.secret configured; expected base64-encoded bytes, as from `openssl rand 32 -base64`: " ++
      String.ofList cause.message
  | secretLength bytes =>
    "invalid value for cookie.secret; must decode to 32 or 64 bytes, but decoded to " ++
      String.ofList (decimal bytes) ++ " bytes"
  | unopenableFile field path cause => "invalid " ++ field ++ " filepath " ++ path ++ ": " ++ cause.message
  | inSection label cause => "invalid " ++ label ++ " config: " ++ cause.message
  | unreadableVariable key reason => "invalid value for " ++ key ++ ": " ++ reason
  | fileNotFound path => "Configuration file not found: " ++ path
  | misfit cause => "Configuration error: " ++ cause.message

/-- The fault beneath all sections. -/
def rootCause : Fault → Fault
  | inSection _ cause => cause.rootCause
  | fault => fault

/-- The texts of the causes beneath a fault, from the nearest on. -/
def chain : Fault → List String
  | malformedUrl _ cause => [cause.message]
  | malformedSecret cause => [String.ofList cause.message]
  | unopenableFile _ _ cause => [cause.message]
  | inSection _ cause => cause.message :: cause.chain
  | misfit cause => [cause.message]
  | _ => []

end Fault

end AuthProxy
