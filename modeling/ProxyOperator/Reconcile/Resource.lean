import ProxyOperator.Reconcile.AccessList
import ProxyOperator.Reconcile.Certificate
import ProxyOperator.Reconcile.ProxyHost
import ProxyOperator.Reconcile.Stream
import ProxyOperator.Reconcile.Token
/-!
Passes on resources of any kind.
-/
namespace ProxyOperator

def reconcile (context : Context) : (kind : Kind) → Resource kind → Pass Action
  | .proxyHost, host => Reconcile.ProxyHosts.reconcile context host
  | .stream, stream => Reconcile.Streams.reconcile context stream
  | .token, token => Reconcile.Tokens.reconcile context token
  | .letsEncryptCertificate, certificate =>
      Reconcile.LetsEncryptCertificates.reconcile context certificate
  | .customCertificate, certificate => Reconcile.CustomCertificates.reconcile context certificate
  | .accessList, list => Reconcile.AccessLists.reconcile context list

end ProxyOperator
