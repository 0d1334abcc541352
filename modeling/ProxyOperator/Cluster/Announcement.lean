import ProxyOperator.Cluster.Event
/-!
Announcements: events as the cluster stores them, with the one who reports them, and how often and how
lately they came about.
-/
namespace ProxyOperator

structure Series where
  count : Int32
  lastObserved : Instant
  deriving DecidableEq, Inhabited

namespace Series

def record : Record Series Series :=
  Series.mk
    <$> .lenient "count" (·.count) .int32 0
    <*> .lenient "lastObservedTime" (·.lastObserved) .clusterMicros default

def codec : Codec Series := record.codec .cluster

end Series

structure Announcement where
  action : Option String
  time : Option Instant
  metadata : Metadata
  note : Option String
  reason : Option String
  regarding : Option ObjectReference
  related : Option ObjectReference
  controller : Option String
  reporter : Option String
  series : Option Series
  type : Option String
  deriving Inhabited

namespace Announcement

/-- Where a report came from, in announcements of the past. -/
def sourceRecord : Record Unit Unit :=
  (fun _ _ => ())
    <$> .obsolete "component" .string
    <*> .obsolete "host" .string

def record : Record Announcement Announcement :=
  (fun _ _ action _ _ _ _ time metadata note reason regarding related controller reporter series
      type =>
      ⟨action, time, metadata, note, reason, regarding, related, controller, reporter, series, type⟩)
    <$> .constant "apiVersion" "events.k8s.io/v1"
    <*> .constant "kind" "Event"
    <*> .optional "action" (·.action) .string
    <*> .obsolete "deprecatedCount" .int32
    <*> .obsolete "deprecatedFirstTimestamp" .clusterInstant
    <*> .obsolete "deprecatedLastTimestamp" .clusterInstant
    <*> .obsolete "deprecatedSource" (sourceRecord.codec .cluster)
    <*> .optional "eventTime" (·.time) .clusterMicros
    <*> .lenient "metadata" (·.metadata) Metadata.codec default
    <*> .optional "note" (·.note) .string
    <*> .optional "reason" (·.reason) .string
    <*> .optional "regarding" (·.regarding) ObjectReference.codec
    <*> .optional "related" (·.related) ObjectReference.codec
    <*> .optional "reportingController" (·.controller) .string
    <*> .optional "reportingInstance" (·.reporter) .string
    <*> .optional "series" (·.series) Series.codec
    <*> .optional "type" (·.type) .string

def codec : Codec Announcement := record.codec .cluster

def lastTime? (announcement : Announcement) : Option Instant :=
  (announcement.series.map (·.lastObserved)) <|> announcement.time

def again (announcement : Announcement) (now : Instant) : Announcement :=
  let count := (announcement.series.map (·.count)).getD 1
  { announcement with series := some ⟨count + 1, now⟩ }

end Announcement

end ProxyOperator
