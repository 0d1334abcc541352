import ProxyOperator.Wire.ClusterApi
/-!
The recorder announces events. An event that comes about again while it is fresh is counted on its first
announcement instead of being announced once more.
-/
namespace ProxyOperator

namespace Wire

/-- What has been announced lately. -/
structure Recorder where
  /-- The name by which this running operator reports. -/
  reporter : String
  /-- Events, without their notes, and what was announced of them. -/
  announced : List (Event × Announcement)

namespace Recorder

/-- A recorder that has not announced anything. A running operator without a name of its own reports by
the name of all of them. -/
def fresh (name : Option String) : Recorder := ⟨name.getD ClusterApi.manager, []⟩

/-- Seconds for which an announcement is kept after the event last came about. -/
def keepSeconds : Int := 360

/-- Forget what has not come about for a while. -/
def forget (recorder : Recorder) (now : Instant) : Recorder :=
  let isFresh (announcement : Announcement) : Bool :=
    announcement.lastTime?.all fun time => now < time.shift keepSeconds
  { recorder with announced := recorder.announced.filter fun entry => isFresh entry.2 }

/-- Events that differ in their notes only are the same. -/
def identity (event : Event) : Event := { event with note := none }

def find? (recorder : Recorder) (event : Event) : Option Announcement :=
  (recorder.announced.find? fun entry => entry.1 = identity event).map (·.2)

def keep (recorder : Recorder) (event : Event) (announcement : Announcement) : Recorder :=
  let others := recorder.announced.filter fun entry => entry.1 ≠ identity event
  { recorder with announced := (identity event, announcement) :: others }

/-- A number that tells announcements apart: the nanoseconds since the start of 1970 if they fit into 64
bits, and else the seconds, in hexadecimal digits. -/
def stamp (now : Instant) : String :=
  let nanos := now.toNanos
  let number := if (Int64.ofInt nanos).toInt = nanos then nanos else now.second
  Hex.ofNat (UInt64.ofInt number).toNat

def first (recorder : Recorder) (event : Event) (now : Instant) : Announcement where
  action := some event.action
  time := some now
  metadata :=
    { (default : Metadata) with
      name := some (event.about.name.getD ClusterApi.manager ++ "." ++ stamp now)
      «namespace» := event.about.namespace }
  note := event.note
  reason := some event.reason
  regarding := some event.about
  related := none
  controller := some ClusterApi.manager
  reporter := some recorder.reporter
  series := none
  type := some event.type.name

/-- The announcement of an event, the first one or the first one counted on. -/
def announcement (recorder : Recorder) (event : Event) (now : Instant) : Announcement :=
  match recorder.find? event with
  | some announcement => announcement.again now
  | none => recorder.first event now

/-- Send an announcement: a new one is created, one that counts is merged into the first one. Events about
objects without a namespace are announced in the default one. -/
def send (event : Event) (announcement : Announcement) : Exchange Unit := do
  let collection := ClusterApi.announcementsPath (event.about.namespace.getD "default")
  let document := Announcement.codec.encode announcement
  let body ←
    if announcement.series.isSome then do
      let path ← ClusterApi.objectPath collection announcement.metadata.spokenName
      ClusterApi.send .patch path [] (.mergePatch document)
    else ClusterApi.send .post collection [] (.json document)
  let _ ← ClusterApi.read Announcement.codec body

/-- Announce an event. An announcement that fails is let go. -/
def publish (event : Event) : StateT Recorder (Program Operations) Unit := do
  let now ← Operation.readClock.ask
  modify (·.forget now)
  let announcement := (← get).announcement event now
  match ← (send event announcement).run with
  | .ok _ => modify (·.keep event announcement)
  | .error _ => pure ()

end Recorder

end Wire

end ProxyOperator
