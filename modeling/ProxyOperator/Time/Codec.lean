import ProxyOperator.Json.Record
import ProxyOperator.Time.Reader
/-!
Instants in JSON: written as RFC 3339, read in its liberal form.
-/
namespace ProxyOperator

namespace Codec

def readInstant (text : String) : Decoded Instant :=
  match Instant.ofText? text with
  | some instant => .ok instant
  | none => .error .malformed

/-- Instants to the nanosecond. -/
def instant : Codec Instant := string.through Instant.rfc3339 readInstant

/-- Instants of cluster metadata, written to the second. -/
def clusterInstant : Codec Instant := string.through Instant.rfc3339Seconds readInstant

def clusterMicros : Codec Instant := string.through Instant.rfc3339Micros readInstant

end Codec

end ProxyOperator
