import ProxyOperator.Proofs.FootingUpkeep
/-!
How a pass comes by its footing: from the status, by adopting a remote object, or by making one. Each
part is answered with the object that the footing is about.
-/
namespace ProxyOperator

open Attempt Scene

namespace Adopting

variable {kind : Kind} {adopting : Adopting kind} {subject : Resource kind} {scene : Scene kind}
  {known : List (Exchange Effects)} {footing : Footing adopting.Snapshot} {context : Context}
  {session : Remote.Session}

theorem footing_recorded (adopting : Adopting kind) (id : UInt32)
    (snapshot : Option adopting.Snapshot) (status : kind.Status) :
    adopting.footing (adopting.recorded id snapshot status) =
      (adopting.footing status).recorded id snapshot :=
  adopting.footing_withFooting _ _

theorem recordRemote_meets {id : UInt32} {snapshot : Option adopting.Snapshot} {reason : String}
    (allowed : ∀ scene : Scene kind, scene.Stands adopting subject known .nothing →
      Footing.Change adopting subject scene.seen .nothing (Footing.nothing.recorded id snapshot))
    (stands : scene.Stands adopting subject known .nothing) :
    Meets Answers (Keeps adopting)
      (fun _ after => after.Stands adopting subject known (Footing.nothing.recorded id snapshot))
      (fun _ after => after.Goes adopting subject)
      (adopting.recordRemote context subject id snapshot reason) scene := by
  have turns : ∀ status, adopting.footing status = .nothing ∨
      adopting.footing status = Footing.nothing.recorded id snapshot →
      adopting.footing (adopting.recorded id snapshot status) =
        Footing.nothing.recorded id snapshot := by
    intro status turns
    rw [footing_recorded]
    rcases turns with before | after
    · rw [before]
    · rw [after, Footing.recorded_again]
  refine .bind ((stands.of_updateStatus turns allowed).mono (fun _ after stands => ?_)
    fun _ _ goes => goes)
  refine .publish fun later answered => ?_
  exact (answered.quiet trivial stands).imp_right (·.forget)

theorem adopt_meets (asked : adopting.binds subject.spec = true)
    (stands : scene.Stands adopting subject [] .nothing) :
    Meets Answers (Keeps adopting)
      (fun existing after => after.Knows adopting subject
        (existing.map adopting.collection.idOf) existing.isSome)
      (fun _ after => after.Goes adopting subject) (adopting.adopt context session subject) scene := by
  refine .bind (.remote (fun objects after answered => ?_) fun failure after answered => ?_)
  · have ⟨kept, stood⟩ := answered.quiet trivial stands
    refine ⟨kept, ?_⟩
    cases found : adopting.wanted subject.spec objects with
    | none => exact .pure ⟨.nothing, .nothing, stood.forget⟩
    | some remote =>
        refine .bind ((recordRemote_meets (fun scene stands => ?_) stood).mono
          (fun _ after stands => ?_) fun _ _ goes => goes)
        · exact .adopted (stands.known _ (.head _)) asked found
        · exact .pure ⟨_, .adopted _ (adopting.snapshot remote), stands.forget⟩
  · exact (answered.quiet trivial stands).imp_right (·.goes)

theorem findRemote_meets (sound : (adopting.footingOf subject).Sound)
    (stands : scene.Stands adopting subject [] (adopting.footingOf subject)) :
    Meets Answers (Keeps adopting)
      (fun found after =>
        after.Knows adopting subject (found.1.map adopting.collection.idOf) found.2)
      (fun _ after => after.Goes adopting subject)
      (adopting.findRemote context session subject) scene := by
  unfold findRemote
  generalize adopting.footingOf subject = footing at sound stands ⊢
  have fits : footing.Fits footing.id footing.bound := ⟨sound, rfl, rfl⟩
  dsimp only
  cases recorded : footing.id with
  | some id =>
      refine .bind (.staged (.remote (fun object after answered => ?_)
        fun failure after answered => ?_))
      · have ⟨kept, stood⟩ := answered.quiet trivial stands
        have same : adopting.collection.idOf object = id := answered.faithful object rfl
        rw [recorded, ← same] at fits
        exact ⟨kept, .pure ⟨footing, fits, stood.forget⟩⟩
      · exact (answered.quiet trivial stands).imp_right (·.goes)
  | none =>
      rw [recorded] at fits
      rcases fits.eq_nothing with rfl
      rw [← fits.bound]
      dsimp only
      split
      · next asked =>
        refine .bind (.staged ((adopt_meets asked stands).mono ?_ fun _ _ goes => goes))
        rintro existing after ⟨footing, fits, stands⟩
        exact .pure ⟨footing, (Bool.or_false _).symm ▸ fits, stands⟩
      · exact .pure ⟨.nothing, .nothing, stands⟩

theorem update_meets {remote : adopting.collection.Object} {bound : Bool}
    {payload : adopting.collection.Payload}
    (fits : footing.Fits (some (adopting.collection.idOf remote)) bound)
    (stands : scene.Stands adopting subject [] footing) :
    Meets Answers (Keeps adopting)
      (fun remote after =>
        after.Knows adopting subject (some (adopting.collection.idOf remote)) bound)
      (fun _ after => after.Goes adopting subject)
      (session.update adopting.collection (adopting.collection.idOf remote) payload) scene := by
  refine .remote (fun object after answered => ?_) fun failure after answered => ?_
  · have ⟨kept, stood⟩ := answered.quiet trivial stands
    have same : adopting.collection.idOf object = adopting.collection.idOf remote :=
      answered.faithful object rfl
    exact ⟨kept, footing, same ▸ fits, stood.forget⟩
  · exact (answered.quiet trivial stands).imp_right (·.goes)

theorem write_meets {existing : Option adopting.collection.Object} {bound : Bool}
    {payload : adopting.collection.Payload}
    (fits : footing.Fits (existing.map adopting.collection.idOf) bound)
    (stands : scene.Stands adopting subject [] footing) :
    Meets Answers (Keeps adopting)
      (fun remote after =>
        after.Knows adopting subject (some (adopting.collection.idOf remote)) bound)
      (fun _ after => after.Goes adopting subject)
      (adopting.write context session subject existing payload) scene := by
  unfold write
  cases existing with
  | some remote => exact update_meets fits stands
  | none =>
      rcases fits.eq_nothing with rfl
      rcases fits.bound with rfl
      refine .bind (.remote (fun object after answered => ?_) fun failure after answered => ?_)
      · have ⟨kept, stood⟩ := answered.quiet trivial stands
        refine ⟨kept, .bind ((recordRemote_meets (fun scene stands => ?_) stood).mono
          (fun _ after stands => ?_) fun _ _ goes => goes)⟩
        · exact .made (stands.known _ (.head _))
        · exact .pure ⟨_, .made _, stands.forget⟩
      · exact (answered.quiet trivial stands).imp_right (·.goes)

end Adopting

end ProxyOperator
