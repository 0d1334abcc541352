import ProxyOperator.Remote.Certificate
import ProxyOperator.Remote.Stream
import ProxyOperator.Resource.Domain
/-!
Finding objects in the listings of the remote server. The server cannot search on its own, so a whole
collection is listed and the first match is taken.
-/
namespace ProxyOperator

namespace Remote

/-- The first host that answers for one of the domains. -/
def findHost (domains : List String) (hosts : List Host) : Option Host :=
  hosts.find? fun host => Domain.overlap host.domains domains

def findExactCertificate (domains : List String) (certificates : List Certificate) :
    Option Certificate :=
  certificates.find? fun certificate => Domain.sameSet certificate.domains domains

def findCertificateNaming (name : String) (certificates : List Certificate) : Option Certificate :=
  certificates.find? fun certificate => (certificate.domains.map Domain.normalize).contains name

/-- A certificate that a host of these domains can use: one for just these domains, or else one that
lists the wildcard name of the first of them. -/
def findCertificate (domains : List String) (certificates : List Certificate) : Option Certificate :=
  findExactCertificate domains certificates <|>
    (domains.head?.bind Domain.wildcard?).bind fun name => findCertificateNaming name certificates

def findStream (port : UInt16) (streams : List Stream) : Option Stream :=
  streams.find? (·.incomingPort = port)

end Remote

end ProxyOperator
