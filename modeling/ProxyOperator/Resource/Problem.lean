/-!
What can be wrong with a declaration on its own, before anything else is looked at.
-/
namespace ProxyOperator

inductive Problem where
  | noDomains
  | tooManyDomains (count : Nat)
  | emptyDomain
  | repeatedDomain (domain : String)
  | locationPath (path : String)
  | twoAccessLists
  | portZero
  | noProtocol
  | noRules
  | emptyUsername
  | emptyDnsProvider
  | emptyEndpoint
  | emptySecretName
  deriving DecidableEq, Repr

def Problem.message : Problem → String
  | .noDomains => "at least one domain name is required"
  | .tooManyDomains count => "at most 10 domain names are allowed, got " ++ toString count
  | .emptyDomain => "domain names cannot be empty"
  | .repeatedDomain domain => "domain name " ++ domain ++ " is listed twice"
  | .locationPath path => "location path " ++ path ++ " must start with '/'"
  | .twoAccessLists => "accessList.id and accessList.name are mutually exclusive"
  | .portZero => "incomingPort must be non-zero"
  | .noProtocol => "at least one of tcpForwarding or udpForwarding must be enabled"
  | .noRules => "an access list needs at least one authorization or client rule"
  | .emptyUsername => "authorization username cannot be empty"
  | .emptyDnsProvider => "dnsChallenge.provider cannot be empty"
  | .emptyEndpoint => "endpoint must not be empty"
  | .emptySecretName => "secretName must not be empty"

end ProxyOperator
