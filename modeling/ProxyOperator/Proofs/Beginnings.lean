import ProxyOperator.Proofs.Conditions
import ProxyOperator.Proofs.Footing
import ProxyOperator.Proofs.Frames
/-!
Reports that a pass over a generation is under way. What is stored of a resource is followed together with
all writes of its status: a report is made only where the status does not settle its generation yet, every
write settles the generation it is about, and no other one unsettles it.
-/
namespace ProxyOperator

open Attempt Reconcile

/-! ## Generations -/

namespace Generation

/-- A generation comes no later than another one; none counts as the first. -/
def Upto (early late : Option Int64) : Prop := ∀ one ∈ early, ∃ other ∈ late, one ≤ other

variable {first second third : Option Int64}

theorem Upto.refl (generation : Option Int64) : Upto generation generation :=
  fun one same => ⟨one, same, Int64.le_refl one⟩

theorem Upto.trans (start : Upto first second) (further : Upto second third) : Upto first third := by
  intro one same
  obtain ⟨other, isSecond, below⟩ := start one same
  obtain ⟨last, isThird, above⟩ := further other isSecond
  exact ⟨last, isThird, Int64.le_trans below above⟩

theorem Upto.antisymm (one : Upto first second) (other : Upto second first) : first = second := by
  cases first with
  | none =>
      cases second with
      | none => rfl
      | some value =>
          obtain ⟨_, none, _⟩ := other value rfl
          cases none
  | some value =>
      obtain ⟨later, rfl, below⟩ := one value rfl
      obtain ⟨_, ⟨⟩, above⟩ := other later rfl
      exact congrArg some (Int64.le_antisymm below above)

end Generation

/-! ## Reports -/

namespace Kind

instance : (kind : Kind) → DecidableEq kind.Status
  | .proxyHost => inferInstanceAs (DecidableEq ProxyHost.Status)
  | .stream => inferInstanceAs (DecidableEq Stream.Status)
  | .token => inferInstanceAs (DecidableEq Token.Status)
  | .letsEncryptCertificate => inferInstanceAs (DecidableEq LetsEncryptCertificate.Status)
  | .customCertificate => inferInstanceAs (DecidableEq CustomCertificate.Status)
  | .accessList => inferInstanceAs (DecidableEq AccessList.Status)

/-- The generation last converged, of kinds that record it. -/
def observedGeneration : (kind : Kind) → kind.Status → Option Int64
  | .proxyHost, status => status.observedGeneration
  | .stream, status => status.observedGeneration
  | .token, _ => none
  | .letsEncryptCertificate, _ => none
  | .customCertificate, _ => none
  | .accessList, _ => none

/-- A pass over a generation is under way, as a status has it. -/
def underWay (kind : Kind) (generation : Option Int64) (status : kind.Status) : Bool :=
  Condition.tells (kind.conditions status) Condition.reconciling .true generation

/-- A write of a status reports that a pass over a generation is under way: the new status has it so, and
the old one did not, or nothing but conditions was written. -/
def reports (kind : Kind) (generation : Option Int64) (before after : kind.Status) : Bool :=
  kind.underWay generation after &&
    (!kind.underWay generation before ||
      decide (after = kind.mapConditions (fun _ => kind.conditions after) before))

/-- No report is due for a generation any more. -/
def Settled (kind : Kind) (generation : Option Int64) (status : kind.Status) : Prop :=
  Condition.shouldMarkReconciling (kind.conditions status) (kind.observedGeneration status)
    generation = false

def Tidy (kind : Kind) (status : kind.Status) : Prop := Condition.Tidy (kind.conditions status)

variable {kind : Kind} {generation : Option Int64} {before after : kind.Status}

theorem tidy_emptyStatus (kind : Kind) : kind.Tidy kind.emptyStatus := by
  cases kind <;> exact List.nodup_nil

theorem settled_iff {status : kind.Status} : kind.Settled generation status ↔
    kind.observedGeneration status = generation ∨ kind.underWay generation status = true ∨
      Condition.tells (kind.conditions status) Condition.error .true generation = true :=
  Condition.shouldMarkReconciling_eq_false _ _

/-- A write after which no pass over a generation is under way reports none. -/
theorem reports_eq_false (idle : kind.underWay generation after = false) :
    kind.reports generation before after = false := by
  unfold reports
  rw [idle, Bool.false_and]

/-- What the status of a resource may be changed to by a pass over a generation: a report is made, where one
is due; or no report is made, and a settled generation stays so. -/
inductive Proceeds (kind : Kind) (generation : Option Int64) (before after : kind.Status) : Prop
  | report (now : Instant) (message : String) (due : ¬ kind.Settled generation before)
      (same : after = kind.mapConditions (Condition.markReconciling now generation message) before)
  | other (tidy : kind.Tidy before → kind.Tidy after)
      (silent : kind.Tidy before → ∀ other, kind.reports other before after = false)
      (settled : kind.Tidy before → kind.Settled generation before → kind.Settled generation after)

namespace Proceeds

theorem tidy (proceeds : kind.Proceeds generation before after) (tidy : kind.Tidy before) :
    kind.Tidy after := by
  cases proceeds with
  | report now message due same =>
      subst same
      unfold Tidy
      rw [conditions_mapConditions]
      exact Condition.Tidy.set tidy
  | other stays => exact stays tidy

/-- A report is about the generation of the pass, and was due. -/
theorem of_reports {other : Option Int64} (proceeds : kind.Proceeds generation before after)
    (tidy : kind.Tidy before) (reports : kind.reports other before after = true) :
    other = generation ∧ ¬ kind.Settled generation before := by
  cases proceeds with
  | report now message due same =>
      have told := (Bool.and_eq_true_iff.mp reports).1
      unfold underWay at told
      rw [same, conditions_mapConditions, Condition.tells_markReconciling tidy, decide_eq_true_eq]
        at told
      exact ⟨told.symm, due⟩
  | other _ silent => cases reports.symm.trans (silent tidy other)

theorem settled (proceeds : kind.Proceeds generation before after) (tidy : kind.Tidy before)
    (reported : kind.Settled generation before ∨ kind.reports generation before after = true) :
    kind.Settled generation after := by
  cases proceeds with
  | report now message due same =>
      have told : kind.underWay generation after = true := by
        unfold underWay
        rw [same, conditions_mapConditions, Condition.tells_markReconciling tidy]
        exact decide_eq_true rfl
      exact settled_iff.mpr (.inr (.inl told))
  | other _ silent stays =>
      rcases reported with already | reports
      · exact stays tidy already
      · cases reports.symm.trans (silent tidy generation)

/-- A failure of a pass over a generation settles it. -/
theorem markError {now : Instant} {reason message : String} :
    kind.Proceeds generation before
      (kind.mapConditions (Condition.markError now generation reason message) before) := by
  refine .other (fun tidy => ?_) (fun tidy other => ?_) fun tidy _ => ?_
  · unfold Tidy
    rw [conditions_mapConditions]
    exact tidy.set.set.set
  · apply reports_eq_false
    unfold underWay
    rw [conditions_mapConditions]
    exact Condition.tells_markError tidy other
  · refine settled_iff.mpr (.inr (.inr ?_))
    rw [conditions_mapConditions]
    exact Condition.tells_markError_error tidy

/-- So does a success. -/
theorem markReady {now : Instant} {message : String}
    (conditions : kind.conditions after = Condition.markReady now message (kind.conditions before))
    (observed : kind.observedGeneration after = generation) :
    kind.Proceeds generation before after := by
  refine .other (fun tidy => ?_) (fun tidy other => ?_) fun _ _ => settled_iff.mpr (.inl observed)
  · unfold Tidy
    rw [conditions]
    exact tidy.set.set.set
  · apply reports_eq_false
    unfold underWay
    rw [conditions]
    exact Condition.tells_markReady tidy

/-- To record a remote object where none was on record is no report. -/
theorem recorded {adopting : Adopting kind} {id : UInt32} {snapshot : Option adopting.Snapshot}
    (unknown : (adopting.footing before).id = none)
    (conditions : kind.conditions (adopting.recorded id snapshot before) = kind.conditions before)
    (observed : kind.observedGeneration (adopting.recorded id snapshot before) =
      kind.observedGeneration before) :
    kind.Proceeds generation before (adopting.recorded id snapshot before) := by
  refine .other (fun tidy => ?_) (fun _ other => ?_) fun _ settled => ?_
  · unfold Tidy
    rwa [conditions]
  · have different : adopting.recorded id snapshot before ≠
        kind.mapConditions (fun _ => kind.conditions (adopting.recorded id snapshot before))
          before := by
      intro same
      have footing := congrArg adopting.footing same
      rw [adopting.footing_mapConditions] at footing
      unfold Adopting.recorded at footing
      rw [adopting.footing_withFooting] at footing
      cases unknown.symm.trans (congrArg Footing.id footing).symm
    unfold reports underWay
    rw [conditions] at different ⊢
    rw [decide_eq_false different]
    cases Condition.tells (kind.conditions before) Condition.reconciling .true other <;> rfl
  · unfold Settled at settled ⊢
    rwa [conditions, observed]

end Proceeds

end Kind

/-! ## Annals -/

/-- A resource in the cluster while passes run on what it was when they began, and the writes of its status
up to now, each with the status that it replaced. -/
structure Annals (kind : Kind) where
  stored : Resource kind
  /-- What the pass that runs, or ran last, was given. -/
  subject : Resource kind
  writes : List (kind.Status × kind.Status)

namespace Annals

variable {kind : Kind}

/-- What users may do to a resource: anything but change its status or what it is called, or take its
generation back. -/
structure Edited (before after : Resource kind) : Prop extends before.Edited after where
  generation : Generation.Upto before.metadata.generation after.metadata.generation

/-- How the cluster serves a request about a resource, and the status that it stores then, if any. A write
whose failure is reported may have happened all the same, unless another writer was first. -/
inductive Serves (key : ObjectKey) (stored : Resource kind) :
    Exchange Effects → Option kind.Status → Prop
  | read : Serves key stored ⟨.read kind key, .ok (some stored)⟩ none
  | gone : Serves key stored ⟨.read kind key, .ok none⟩ none
  | unread (failure : Failure) : Serves key stored ⟨.read kind key, .error failure⟩ none
  | written (revision : Option String) (status : kind.Status) :
      Serves key stored ⟨.writeStatus kind key revision status, .ok ()⟩ (some status)
  | refused (revision : Option String) (status : kind.Status) (failure : Failure) :
      Serves key stored ⟨.writeStatus kind key revision status, .error failure⟩ none
  | unheard (revision : Option String) (status : kind.Status) (failure : Failure)
      (alone : failure.isConflict = false) :
      Serves key stored ⟨.writeStatus kind key revision status, .error failure⟩ (some status)
  | elsewhere {exchange : Exchange Effects} (other : ¬ exchange.request.Concerns kind key) :
      Serves key stored exchange none

def store (annals : Annals kind) : Option kind.Status → Annals kind
  | none => annals
  | some status =>
      { annals with
        stored := { annals.stored with status := some status }
        writes := annals.writes ++ [(annals.stored.statusOrEmpty, status)] }

/-- Whatever a pass asks, it is served, and the user may edit the resource after that. -/
structure Answers (before : Annals kind) (exchange : Exchange Effects) (after : Annals kind) :
    Prop where
  served : ∃ status, Serves before.subject.metadata.spokenKey before.stored exchange status ∧
    Edited (before.store status).stored after.stored ∧ after.writes = (before.store status).writes
  subject : after.subject = before.subject

/-- A pass begins on the resource as it is stored, whether or not its deletion was asked for. -/
structure Begins (before : Annals kind) (pass : Running) (after : Annals kind) : Prop where
  pass : ∃ context, pass = (reconcile context kind before.stored).run
  stored : Edited before.stored after.stored
  subject : after.subject = before.stored
  writes : after.writes = before.writes

structure Disturbs (before after : Annals kind) : Prop where
  stored : Edited before.stored after.stored
  subject : after.subject = before.subject
  writes : after.writes = before.writes

def setting (kind : Kind) : Setting (Annals kind) := ⟨Answers, Begins, Disturbs⟩

/-- For each generation, at most one of the writes reports that a pass over it is under way. -/
def ReportedOnce (annals : Annals kind) : Prop :=
  ∀ generation, annals.writes.countP (fun write => kind.reports generation write.1 write.2) ≤ 1

/-- What a pass may do in an exchange: leave the status as it is, or take it on as passes do. -/
inductive Moves (before : Annals kind) (exchange : Exchange Effects) (after : Annals kind) : Prop
  | idle (stored : after.stored.status = before.stored.status)
      (writes : after.writes = before.writes)
  | wrote (status : kind.Status) (stored : after.stored.status = some status)
      (writes : after.writes = before.writes ++ [(before.stored.statusOrEmpty, status)])
      (proceeds : kind.Proceeds before.subject.metadata.generation before.stored.statusOrEmpty status)

/-- What holds of annals at any time: reports are about generations up to that of the last pass, and if there
is one about this very generation, it is settled. -/
structure Steady (annals : Annals kind) : Prop where
  tidy : kind.Tidy annals.stored.statusOrEmpty
  current : Generation.Upto annals.subject.metadata.generation annals.stored.metadata.generation
  reported : ∀ write ∈ annals.writes, ∀ generation,
    kind.reports generation write.1 write.2 = true →
      Generation.Upto generation annals.subject.metadata.generation
  settled : ∀ write ∈ annals.writes,
    kind.reports annals.subject.metadata.generation write.1 write.2 = true →
      kind.Settled annals.subject.metadata.generation annals.stored.statusOrEmpty
  once : annals.ReportedOnce

variable {before after annals : Annals kind} {exchange : Exchange Effects}

theorem statusOrEmpty_eq {one other : Resource kind} (same : one.status = other.status) :
    one.statusOrEmpty = other.statusOrEmpty := by
  unfold Resource.statusOrEmpty
  rw [same]

/-- As long as no pass begins and no status is written, all stays well. -/
theorem Steady.idle (steady : before.Steady) (stored : after.stored.status = before.stored.status)
    (current : Generation.Upto before.stored.metadata.generation after.stored.metadata.generation)
    (subject : after.subject = before.subject) (writes : after.writes = before.writes) :
    after.Steady := by
  have same := statusOrEmpty_eq stored
  refine ⟨same ▸ steady.tidy, ?_, ?_, ?_, ?_⟩
  · rw [subject]
    exact steady.current.trans current
  · rw [subject, writes]
    exact steady.reported
  · rw [subject, writes, same]
    exact steady.settled
  · unfold ReportedOnce
    rw [writes]
    exact steady.once

/-- A write of a status that goes on from the one it replaces keeps all well. -/
theorem Steady.wrote {status : kind.Status} (steady : before.Steady)
    (stored : after.stored.status = some status)
    (current : Generation.Upto before.stored.metadata.generation after.stored.metadata.generation)
    (subject : after.subject = before.subject)
    (writes : after.writes = before.writes ++ [(before.stored.statusOrEmpty, status)])
    (proceeds : kind.Proceeds before.subject.metadata.generation before.stored.statusOrEmpty
      status) : after.Steady := by
  have same : after.stored.statusOrEmpty = status := by
    unfold Resource.statusOrEmpty
    rw [stored]
    rfl
  refine ⟨same.symm ▸ proceeds.tidy steady.tidy, ?_, ?_, ?_, ?_⟩
  · rw [subject]
    exact steady.current.trans current
  · rw [subject, writes]
    intro write inside generation reports
    rcases List.mem_append.mp inside with earlier | last
    · exact steady.reported write earlier generation reports
    · rcases List.mem_singleton.mp last with rfl
      rw [(proceeds.of_reports steady.tidy reports).1]
      exact .refl _
  · rw [subject, writes, same]
    intro write inside reports
    apply proceeds.settled steady.tidy
    rcases List.mem_append.mp inside with earlier | last
    · exact .inl (steady.settled write earlier reports)
    · rcases List.mem_singleton.mp last with rfl
      exact .inr reports
  · intro generation
    rw [writes, List.countP_append, List.countP_singleton]
    split
    · next reports =>
      -- a second report would be about a generation that is settled
      have ⟨same, due⟩ := proceeds.of_reports steady.tidy reports
      have none : before.writes.countP (fun write => kind.reports generation write.1 write.2) = 0 := by
        rw [List.countP_eq_zero]
        intro write earlier again
        exact due (steady.settled write earlier (same ▸ again))
      exact Nat.le_of_eq (congrArg (· + 1) none)
    · exact steady.once generation

/-- A pass begins over a generation that was settled if it was reported. -/
theorem Steady.begins {pass : Running} (steady : before.Steady) (begun : Begins before pass after) :
    after.Steady := by
  have same := statusOrEmpty_eq begun.stored.status
  refine ⟨same ▸ steady.tidy, ?_, ?_, ?_, ?_⟩
  · rw [begun.subject]
    exact begun.stored.generation
  · rw [begun.subject, begun.writes]
    intro write inside generation reports
    exact (steady.reported write inside generation reports).trans steady.current
  · rw [begun.subject, begun.writes, same]
    intro write inside reports
    have equal := (steady.reported write inside _ reports).antisymm steady.current
    rw [equal] at reports ⊢
    exact steady.settled write inside reports
  · unfold ReportedOnce
    rw [begun.writes]
    exact steady.once

theorem Answers.current (answered : before.Answers exchange after) :
    Generation.Upto before.stored.metadata.generation after.stored.metadata.generation := by
  obtain ⟨status, _, edit, _⟩ := answered.served
  cases status <;> exact edit.generation

/-- If all passes move as they may, reports are made once. -/
theorem upholds (meets : ∀ (context : Context) (subject : Resource kind) (annals : Annals kind),
      annals.subject = subject → annals.stored.status = subject.status →
      Meets Answers Moves (fun _ _ => True) (fun _ _ => True) (reconcile context kind subject)
        annals) :
    (setting kind).Upholds Steady Moves where
  begins := by
    intro before pass after steady begun
    refine ⟨steady.begins begun, ?_⟩
    rcases begun.pass with ⟨context, rfl⟩
    refine Program.Meets.mono (fun _ _ _ => trivial) (meets context before.stored after ?_ ?_)
    · exact begun.subject
    · exact begun.stored.status
  exchanges := by
    intro before exchange after steady answered moved
    cases moved with
    | idle stored writes => exact steady.idle stored answered.current answered.subject writes
    | wrote status stored writes proceeds =>
        exact steady.wrote stored answered.current answered.subject writes proceeds
  disturbs steady disturbed :=
    steady.idle disturbed.stored.status disturbed.stored.generation disturbed.subject
      disturbed.writes

theorem Steady.fresh {resource : Resource kind} (fresh : resource.status = none) :
    Steady ⟨resource, resource, []⟩ := by
  have empty : resource.statusOrEmpty = kind.emptyStatus := by
    unfold Resource.statusOrEmpty
    rw [fresh]
    rfl
  exact ⟨empty.symm ▸ kind.tidy_emptyStatus, .refl _, fun _ none => (nomatch none),
    fun _ none => (nomatch none), fun _ => Nat.zero_le 1⟩

end Annals

end ProxyOperator
