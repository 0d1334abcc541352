import Mathlib.Data.List.Induction
import ProxyOperator.Proofs.Playing
import ProxyOperator.Proofs.Uploads
/-!
Runs of passes on a custom certificate, and what was uploaded last in all of them. A pass takes the material
it reads for uploaded if the status has its fingerprint. That is so if the pass that uploaded last left the
fingerprint of what it uploaded behind; it is not if that pass failed in between, and the material is then
what it was before that.
-/
namespace ProxyOperator

open Reconcile

/-- What was uploaded last into the certificate of an id. -/
def lastUpload? (id : UInt32) (log : List (Exchange Effects)) : Option Remote.Material :=
  (uploads log).reverse.lookup id

theorem lastUpload?_append (id : UInt32) (earlier later : List (Exchange Effects)) :
    lastUpload? id (earlier ++ later) = (lastUpload? id later).or (lastUpload? id earlier) := by
  rw [lastUpload?, uploads, List.filterMap_append, List.reverse_append, List.lookup_append]
  rfl

theorem mem_uploads_of_last {id : UInt32} {material : Remote.Material} {log : List (Exchange Effects)}
    (last : lastUpload? id log = some material) : (id, material) ∈ uploads log := by
  have ⟨_, _, split, _⟩ := List.lookup_eq_some_iff.mp last
  rw [← List.mem_reverse, split]
  exact List.mem_append_right _ List.mem_cons_self

theorem lastUpload?_of_one {id other : UInt32} {material : Remote.Material}
    {log : List (Exchange Effects)} (one : uploads log = [(other, material)]) :
    lastUpload? id log = if id = other then some material else none := by
  rw [lastUpload?, one, List.reverse_singleton]
  by_cases same : id = other
  · simp [same]
  · simp [same, List.lookup_cons, beq_false_of_ne same]

theorem lastUpload?_of_nothing {id : UInt32} {log : List (Exchange Effects)}
    (nothing : uploads log = []) : lastUpload? id log = none := by
  rw [lastUpload?, nothing]
  rfl

namespace CustomCertificate

variable {id : UInt32} {uploaded : Remote.Material} {start stored after : CustomCertificate}
  {log : List (Exchange Effects)}

/-! ## One pass -/

/-- A certificate with a pass on it that only begins. -/
theorem at_begin (certificate : CustomCertificate) :
    certificate.At ⟨certificate.statusOrEmpty.id, certificate.statusOrEmpty.materialHash, [], []⟩
      (certificate, []) :=
  ⟨rfl, .waiting fun _ same => same⟩

theorem stopped_of_goes {context : Context} {rest : Running}
    (goes : Program.Goes (Tends stored.metadata.spokenKey)
      (reconcile context .customCertificate stored).run stored log rest after) :
    stored.Stopped (after, log) :=
  (reconciles stored.at_begin).holds stored.Stopped (goes.logged []) stored.at_begin.stopped

/-- A pass uploads nothing, or material that is due, into the certificate that is then on record. -/
theorem Stopped.elim (stopped : stored.Stopped (after, log)) :
    (uploads log = [] ∧
      after.statusOrEmpty.materialHash = stored.statusOrEmpty.materialHash ∧
      ∀ id, stored.statusOrEmpty.id = some id → after.statusOrEmpty.id = some id) ∨
    ∃ id material, uploads log = [(id, material)] ∧ stored.Due id material ∧
      after.statusOrEmpty.id = some id := by
  unfold Stopped at stopped
  generalize told : account stored.secretKey (after, log) = here at stopped
  cases stopped with
  | waiting kept =>
      simp only [account, Account.mk.injEq] at told
      left
      exact ⟨told.2.2.2, told.2.1, fun id known => told.1.trans (kept id known)⟩
  | uploaded due =>
      simp only [account, Account.mk.injEq] at told
      right
      exact ⟨_, _, told.2.2.2, due, told.1⟩
  | recorded due =>
      simp only [account, Account.mk.injEq] at told
      right
      exact ⟨_, _, told.2.2.2, due, told.1⟩

/-! ## Runs -/

/-- What a pass asked and was answered, and what was stored when it ended or was interrupted. -/
structure Visit where
  log : List (Exchange Effects)
  left : CustomCertificate

/-- Passes that ran on a certificate, one after the other and each on what was stored when it began, and
edits in between. -/
inductive Visited (start : CustomCertificate) : List Visit → CustomCertificate → Prop
  | none : Visited start [] start
  | edit {visits : List Visit} {stored edited : CustomCertificate}
      (earlier : Visited start visits stored) (edit : Resource.Edited stored edited) :
      Visited start visits edited
  | pass {visits : List Visit} {stored after : CustomCertificate} {context : Context}
      {log : List (Exchange Effects)} {rest : Running} (earlier : Visited start visits stored)
      (goes : Program.Goes (Tends stored.metadata.spokenKey)
        (reconcile context .customCertificate stored).run stored log rest after) :
      Visited start (visits ++ [⟨log, after⟩]) after

/-- All that passes asked and were answered. -/
def logOf (visits : List Visit) : List (Exchange Effects) := visits.flatMap (·.log)

/-- The last of some passes that uploaded into a certificate, and what it uploaded. -/
def lastUploader? (id : UInt32) (visits : List Visit) : Option (Visit × Remote.Material) :=
  visits.reverse.findSome? fun visit => (lastUpload? id visit.log).map fun material => (visit, material)

variable {visits : List Visit} {visit : Visit}

theorem lastUploader?_snoc (visits : List Visit) (visit : Visit) :
    lastUploader? id (visits ++ [visit]) =
      ((lastUpload? id visit.log).map fun material => (visit, material)).or
        (lastUploader? id visits) := by
  rw [lastUploader?, List.reverse_append, List.reverse_singleton, List.singleton_append,
    List.findSome?_cons]
  cases lastUpload? id visit.log <;> rfl

/-- What was uploaded last is what the last one that uploaded has uploaded. -/
theorem lastUpload?_logOf (visits : List Visit) :
    lastUpload? id (logOf visits) = (lastUploader? id visits).map Prod.snd := by
  induction visits using List.reverseRecOn with
  | nil => rfl
  | append_singleton visits visit induction =>
      rw [lastUploader?_snoc, logOf, List.flatMap_append, lastUpload?_append, List.flatMap_singleton]
      change (lastUpload? id visit.log).or (lastUpload? id (logOf visits)) = _
      rw [induction]
      cases lastUpload? id visit.log <;> rfl

/-- Whoever uploaded last, the status has its certificate and the fingerprint that it left behind. -/
theorem Visited.traces (visited : Visited start visits stored)
    (uploader : lastUploader? id visits = some (visit, uploaded)) :
    stored.statusOrEmpty.id = some id ∧
      stored.statusOrEmpty.materialHash = visit.left.statusOrEmpty.materialHash := by
  induction visited with
  | none => cases uploader
  | edit earlier edit induction =>
      rw [Resource.statusOrEmpty, edit.status]
      exact induction uploader
  | @pass visits stored after context log rest earlier goes induction =>
      rw [lastUploader?_snoc] at uploader
      rcases (stopped_of_goes goes).elim with ⟨nothing, same, kept⟩ | ⟨other, material, one, due, known⟩
      · rw [lastUpload?_of_nothing nothing] at uploader
        rcases induction uploader with ⟨known, recorded⟩
        exact ⟨kept id known, same.trans recorded⟩
      · rw [lastUpload?_of_one one] at uploader
        split at uploader
        · next same =>
          rcases Prod.mk.inj (Option.some.inj uploader) with ⟨rfl, _⟩
          exact ⟨same ▸ known, rfl⟩
        · next different =>
          -- what is on record is what such a pass uploads into
          have recorded := (induction uploader).1
          rcases due with missing | ⟨same, _⟩
          · rw [recorded] at missing
            cases missing
          · rw [recorded] at same
            exact (different (Option.some.inj same)).elim

/-- A pass that succeeds has read material once. What was uploaded last is that material if this very pass
uploaded it, or else if the last pass that uploaded left the fingerprint of what it uploaded behind; then
only material that is made of the same bytes could still be another one. -/
theorem upload_is_current_iff {context : Context} {seen : List (Exchange Effects)} {action : Action}
    (visited : Visited start visits stored) (remains : stored.metadata.isDeleting = false)
    (goes : Program.Goes (Tends stored.metadata.spokenKey)
      (reconcile context .customCertificate stored).run stored seen (.done (.ok action)) after)
    (apart : ∀ upload ∈ uploads (logOf visits), ∀ material ∈ readings stored.secretKey seen,
      upload.2.fingerprint = material.fingerprint → upload.2.bytes = material.bytes) :
    ∃ id material, after.statusOrEmpty.id = some id ∧
      Condition.isTrue after.statusOrEmpty.conditions Condition.ready ∧
      readings stored.secretKey seen = [material] ∧
      (lastUpload? id (logOf visits ++ seen) = some material ↔
        (id, material) ∈ uploads seen ∨
        ∃ visit uploaded, lastUploader? id visits = some (visit, uploaded) ∧
          visit.left.statusOrEmpty.materialHash = some uploaded.fingerprint ∧
          (uploaded.bytes = material.bytes → uploaded = material)) := by
  rcases (reconciles stored.at_begin).goes (goes.logged []) remains with ⟨completed, ready⟩
  rw [List.nil_append] at completed
  generalize told : account stored.secretKey (after, seen) = here at completed
  cases completed with
  | @uploaded id material due =>
      simp only [account, Account.mk.injEq] at told
      rcases told with ⟨known, recorded, read, made⟩
      refine ⟨id, material, known, ready, read, ?_⟩
      have last : lastUpload? id (logOf visits ++ seen) = some material := by
        rw [lastUpload?_append, lastUpload?_of_one made, if_pos rfl]
        rfl
      have now : (id, material) ∈ uploads seen := by
        rw [made]
        exact List.mem_singleton_self _
      exact ⟨fun _ => .inl now, fun _ => last⟩
  | @current id material known recorded =>
      simp only [account, Account.mk.injEq] at told
      rcases told with ⟨still, _, read, made⟩
      refine ⟨id, material, still, ready, read, ?_⟩
      rw [lastUpload?_append, lastUpload?_of_nothing made, Option.none_or, lastUpload?_logOf, made]
      constructor
      · intro last
        rcases Option.map_eq_some_iff.mp last with ⟨⟨visit, uploaded⟩, uploader, rfl⟩
        have same := (visited.traces uploader).2
        exact .inr ⟨visit, uploaded, uploader, same.symm.trans recorded, fun _ => rfl⟩
      · intro cause
        rcases cause with now | ⟨visit, uploaded, uploader, left, alike⟩
        · cases now
        · have same := (visited.traces uploader).2
          have equal : uploaded.fingerprint = material.fingerprint :=
            Option.some.inj (left.symm.trans (same.symm.trans recorded))
          have last : lastUpload? id (logOf visits) = some uploaded := by
            rw [lastUpload?_logOf, uploader]
            rfl
          have here : material ∈ readings stored.secretKey seen := by
            rw [read]
            exact List.mem_singleton_self _
          rw [uploader, alike (apart _ (mem_uploads_of_last last) material here equal)]
          rfl

end CustomCertificate

namespace Sample

def corp : CustomCertificate where
  metadata := { (default : Metadata) with
    name := some "corp", «namespace» := some "apps", finalizers := some [finalizer] }
  spec := ⟨none, "corp-tls", none⟩
  status := none

def tls (certificate : String) : Secret :=
  { (default : Secret) with
    data := some (Dictionary.empty.insert "tls.crt" (Utf8.encode certificate) |>.insert "tls.key"
      (Utf8.encode "key")) }

/-- What a world answers to the certificate `corp`: its status and its Secret are served, a remote
certificate is made and takes what is uploaded, and it may be that it cannot be read back. -/
def attending? (secret : Secret) (returns : Bool) (stored : CustomCertificate) :
    (request : Effect) → Option request.Answer
  | .read .customCertificate key => if key = ⟨"apps", "corp"⟩ then some (.ok (some stored)) else none
  | .writeStatus .customCertificate key _ _ =>
      if key = ⟨"apps", "corp"⟩ then some (.ok ()) else none
  | .list .token _ => some (.ok [token])
  | .secret _ => some (.ok (some secret))
  | .connect _ => some (.ok ())
  | .publish _ => some ()
  | .remote _ (.create .certificates _) => some (.ok { (default : Remote.Certificate) with id := 1 })
  | .remote _ (.upload _ _) => some (.ok ())
  | .remote _ (.get .certificates id) =>
      some <| if returns then .ok { (default : Remote.Certificate) with id := id }
        else .error default
  | _ => none

def attendedStores (stored : CustomCertificate) : Effect → CustomCertificate
  | .writeStatus .customCertificate _ _ status => { stored with status := some status }
  | _ => stored

def attending (secret : Secret) (returns : Bool) : Responder Effects CustomCertificate :=
  fun stored request => (attending? secret returns stored request).map fun answer =>
    (answer, attendedStores stored request)

theorem attending_allowed (secret : Secret) (returns : Bool) :
    Program.Allowed (Tends ⟨"apps", "corp"⟩) (attending secret returns) := by
  intro stored request answer after answered
  rcases Option.map_eq_some_iff.mp answered with ⟨_, known, same⟩
  rcases Prod.mk.inj same with ⟨rfl, rfl⟩
  have edit (resource : CustomCertificate) : Resource.Edited resource resource := ⟨rfl, rfl⟩
  unfold attending? at known
  split at known
  · split at known
    · next key same =>
      rcases same with rfl
      rcases Option.some.inj known with rfl
      exact ⟨⟨_, .read, edit _⟩, trivial⟩
    · cases known
  · split at known
    · next key revision status same =>
      rcases same with rfl
      rcases Option.some.inj known with rfl
      exact ⟨⟨_, .written _ _, edit _⟩, trivial⟩
    · cases known
  · exact ⟨⟨_, .elsewhere not_false, edit _⟩, trivial⟩
  · exact ⟨⟨_, .elsewhere not_false, edit _⟩, trivial⟩
  · exact ⟨⟨_, .elsewhere not_false, edit _⟩, trivial⟩
  · exact ⟨⟨_, .elsewhere not_false, edit _⟩, trivial⟩
  · exact ⟨⟨_, .elsewhere not_false, edit _⟩, trivial⟩
  · exact ⟨⟨_, .elsewhere not_false, edit _⟩, trivial⟩
  · refine ⟨⟨_, .elsewhere not_false, edit _⟩, ?_⟩
    rcases Option.some.inj known with rfl
    intro object same
    split at same
    · rcases Except.ok.inj same with rfl
      rfl
    · cases same
  · cases known

/-- What a pass on the certificate asks and is answered, and what is stored then. -/
def visit (secret : Secret) (returns : Bool) (stored : CustomCertificate) :
    CustomCertificate.Visit where
  log := (reconcile context .customCertificate stored).run.heard (attending secret returns) stored
  left := ((reconcile context .customCertificate stored).run.play (attending secret returns) stored).2

theorem visit_goes {secret : Secret} {returns : Bool} {stored : CustomCertificate}
    (called : stored.metadata.spokenKey = ⟨"apps", "corp"⟩) :
    Program.Goes (Tends stored.metadata.spokenKey) (reconcile context .customCertificate stored).run
      stored (visit secret returns stored).log
      ((reconcile context .customCertificate stored).run.play (attending secret returns) stored).1
      (visit secret returns stored).left :=
  called ▸ (attending_allowed secret returns).goes_heard _ stored

theorem visit_succeeds {secret : Secret} {returns : Bool} {stored : CustomCertificate}
    (called : stored.metadata.spokenKey = ⟨"apps", "corp"⟩)
    (ended : ((reconcile context .customCertificate stored).run.play (attending secret returns)
      stored).1.succeeds = true) :
    ∃ action, Program.Goes (Tends stored.metadata.spokenKey)
      (reconcile context .customCertificate stored).run stored (visit secret returns stored).log
      (.done (.ok action)) (visit secret returns stored).left := by
  rcases Program.eq_done_ok_of_succeeds ended with ⟨action, same⟩
  exact ⟨action, same ▸ visit_goes called⟩

/-- The certificate is made and gets its first material. -/
def made : CustomCertificate.Visit := visit (tls "first") true corp

/-- The second material is uploaded, but the certificate cannot be read back. -/
def lost : CustomCertificate.Visit := visit (tls "second") false made.left

end Sample

namespace CustomCertificate

theorem Visited.played {start stored : CustomCertificate} {visits : List Visit} {secret : Secret}
    {returns : Bool} (visited : Visited start visits stored)
    (called : stored.metadata.spokenKey = ⟨"apps", "corp"⟩) :
    Visited start (visits ++ [Sample.visit secret returns stored])
      (Sample.visit secret returns stored).left :=
  visited.pass (Sample.visit_goes called)

/-- Material that was uploaded and recorded is not uploaded again, and it is what was uploaded last. -/
theorem upload_is_current_unchanged :
    ∃ (seen : List (Exchange Effects)) (action : Action) (after : CustomCertificate)
      (id : UInt32) (material : Remote.Material),
      Visited Sample.corp [Sample.made] Sample.made.left ∧
      Program.Goes (Tends Sample.made.left.metadata.spokenKey)
        (reconcile Sample.context .customCertificate Sample.made.left).run Sample.made.left seen
        (.done (.ok action)) after ∧
      uploads seen = [] ∧ after.statusOrEmpty.id = some id ∧
      readings Sample.made.left.secretKey seen = [material] ∧
      lastUpload? id (logOf [Sample.made] ++ seen) = some material := by
  have visited : Visited Sample.corp [Sample.made] Sample.made.left :=
    Visited.none.played (by decide +kernel)
  let again := Sample.visit (Sample.tls "first") true Sample.made.left
  have ⟨action, goes⟩ : ∃ action, Program.Goes (Tends Sample.made.left.metadata.spokenKey)
      (reconcile Sample.context .customCertificate Sample.made.left).run Sample.made.left again.log
      (.done (.ok action)) again.left :=
    Sample.visit_succeeds (by decide +kernel) (by decide +kernel)
  have ⟨id, material, known, _, read, current⟩ :=
    upload_is_current_iff visited (by decide +kernel) goes (by decide +kernel)
  have ⟨idle, first, one, uploaded⟩ : uploads again.log = [] ∧
      readings Sample.made.left.secretKey again.log = [⟨"first", "key", none⟩] ∧
      again.left.statusOrEmpty.id = some 1 ∧
      lastUpload? 1 Sample.made.log = some ⟨"first", "key", none⟩ := by
    decide +kernel
  rcases Option.some.inj (known.symm.trans one) with rfl
  rcases (List.cons.inj (read.symm.trans first)).1 with rfl
  have uploader : lastUploader? 1 [Sample.made] = some (Sample.made, ⟨"first", "key", none⟩) := by
    rw [lastUploader?, List.reverse_singleton, List.findSome?_cons, uploaded]
    rfl
  have last := current.mpr (.inr ⟨_, _, uploader, by decide +kernel, fun _ => rfl⟩)
  exact ⟨_, action, _, 1, _, visited, goes, idle, known, read, last⟩

/-- The first material comes back after the second one was uploaded and not recorded. The pass that reads it
succeeds without an upload, and what was uploaded last is still the second. -/
theorem upload_is_stale :
    ∃ (visits : List Visit) (stored after : CustomCertificate) (seen : List (Exchange Effects))
      (action : Action) (material other : Remote.Material),
      Visited Sample.corp visits stored ∧
      Program.Goes (Tends stored.metadata.spokenKey)
        (reconcile Sample.context .customCertificate stored).run stored seen (.done (.ok action))
        after ∧
      after.statusOrEmpty.id = some 1 ∧
      Condition.isTrue after.statusOrEmpty.conditions Condition.ready = true ∧
      readings stored.secretKey seen = [material] ∧
      lastUpload? 1 (logOf visits ++ seen) = some other ∧
      other.fingerprint ≠ material.fingerprint := by
  have visited : Visited Sample.corp [Sample.made, Sample.lost] Sample.lost.left :=
    (Visited.none.played (by decide +kernel)).played (by decide +kernel)
  let last := Sample.visit (Sample.tls "first") true Sample.lost.left
  have ⟨action, goes⟩ : ∃ action, Program.Goes (Tends Sample.lost.left.metadata.spokenKey)
      (reconcile Sample.context .customCertificate Sample.lost.left).run Sample.lost.left last.log
      (.done (.ok action)) last.left :=
    Sample.visit_succeeds (by decide +kernel) (by decide +kernel)
  exact ⟨_, _, _, _, action, ⟨"first", "key", none⟩, ⟨"second", "key", none⟩, visited, goes,
    by decide +kernel⟩

end CustomCertificate

end ProxyOperator
