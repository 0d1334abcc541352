import Mathlib.Logic.Relation
import ProxyOperator.Proofs.ClusterCalls
import ProxyOperator.Proofs.MergedRecords
/-!
The finalizers of an object that others hold back as well. The operator reads the object, and then writes
the whole list of its finalizers, whatever became of it in between. So what others did to the list is still
there afterwards as long as nobody did anything between the two requests.
-/
namespace ProxyOperator

open Wire.ClusterApi

/-! ## Finalizers of stored objects -/

namespace Json

/-- The finalizers that an object has. -/
def finalizers (object : Json) : List String :=
  (((object.get? "metadata").bind (·.get? "finalizers")).map items |>.getD []).filterMap text?

theorem get?_eq (object : Json) (name : String) :
    object.get? name = object.members.lookup name := by
  cases object <;> rfl

/-- A patch of one member is merged into what there is under its name. -/
theorem get?_mergePatch (object : Json) (name : String) {patch : Json} (proper : patch ≠ .null) :
    (object.mergePatch (.object [(name, patch)])).get? name =
      some (mergePatch ((object.get? name).getD .null) patch) := by
  have merged : object.mergePatch (.object [(name, patch)]) =
      .object (putMember name (mergePatch ((object.members.lookup name).getD .null) patch)
        object.members) :=
    congrArg Json.object (mergeMembers_cons proper)
  rw [merged, get?_eq object name]
  exact lookup_putMember_self

theorem filterMap_text?_strings (names : List String) :
    (names.map Json.string).filterMap text? = names := by
  rw [List.filterMap_map]
  exact List.filterMap_some

/-- A patch of the finalizers replaces the list. -/
theorem finalizers_mergePatch (object : Json) (names : List String) :
    (object.mergePatch
      (.object [("metadata", .object [("finalizers", .strings names)])])).finalizers = names := by
  unfold finalizers
  rw [get?_mergePatch _ _ Json.noConfusion, Option.bind_some,
    get?_mergePatch _ _ Json.noConfusion, Option.map_some, Option.getD_some]
  exact filterMap_text?_strings names

end Json

/-- An object as it is stored. Its finalizers are in one place. -/
structure StoredObject where
  members : List (String × Json)
  metadata : List (String × Json)
  told : members.lookup "metadata" = some (.object metadata)
  listedOnce : (metadata.map (·.1)).count "finalizers" ≤ 1

namespace StoredObject

def json (object : StoredObject) : Json := .object object.members

def finalizers (object : StoredObject) : List String := object.json.finalizers

theorem finalizers_eq (object : StoredObject) : object.finalizers =
    (((object.metadata.lookup "finalizers").map Json.items).getD []).filterMap Json.text? := by
  have told : object.json.get? "metadata" = some (.object object.metadata) := object.told
  unfold finalizers Json.finalizers
  rw [told]
  rfl

end StoredObject

/-! ## Reading the finalizers -/

theorem Codec.filterMap_text?_of_mapM {items : List Json} {names : List String}
    (reads : items.mapM Codec.string.decode = .ok names) : items.filterMap Json.text? = names := by
  induction items generalizing names with
  | nil => exact Except.ok.inj reads
  | cons item rest induction =>
      rw [List.mapM_cons] at reads
      rcases Except.bind_eq_ok.mp reads with ⟨name, first, further⟩
      rcases Except.bind_eq_ok.mp further with ⟨others, second, same⟩
      rcases Except.ok.inj same with rfl
      cases item with
      | string text =>
          rcases Except.ok.inj first with rfl
          exact congrArg (text :: ·) (induction second)
      | _ => cases first

open Record in
theorem Metadata.finalizers_of_decode {members : List (String × Json)} {metadata : Metadata}
    (once : (members.map (·.1)).count "finalizers" ≤ 1)
    (reads : Metadata.codec.decode (.object members) = .ok metadata) :
    metadata.finalizers.getD [] =
      (((members.lookup "finalizers").map Json.items).getD []).filterMap Json.text? := by
  rcases Except.bind_eq_ok.mp reads with ⟨_, _, built⟩
  change Metadata.record.build (Json.find members) = .ok metadata at built
  rw [← builds_eq] at built
  unfold Metadata.record at built
  simp only [builds_seq, builds_map] at built
  rcases built with ⟨_, -, _, -, _, -, _, -, finalizers, found, _, -, _, -, _, -, _, -, _, -, _, -,
    _, -, _, -, _, -, _, -, rfl⟩
  rw [Json.lookup_eq_find once]
  unfold Record.optional at found
  cases looked : Json.find members "finalizers" with
  | none =>
      rw [build_missing looked] at found
      rcases Except.ok.inj found with rfl
      rfl
  | some value =>
      rw [build_found looked] at found
      cases value with
      | null =>
          rcases Except.ok.inj found with rfl
          rfl
      | array items =>
          rcases Except.functor_map_eq_ok.mp found with ⟨names, read, rfl⟩
          exact (Codec.filterMap_text?_of_mapM read).symm
      | _ => cases found

open Record in
theorem StoredObject.finalizers_of_decode {kind : Kind} {object : StoredObject}
    {resource : Resource kind} (reads : (Resource.codec kind).decode object.json = .ok resource) :
    resource.metadata.finalizers.getD [] = object.finalizers := by
  rcases decode_strict_object.mp reads with ⟨accepts, built⟩
  have looked : ∃ check, (Resource.record kind).members.lookup "metadata" = some check := ⟨_, rfl⟩
  rcases looked with ⟨check, looked⟩
  have found : Json.find object.members "metadata" = some (.object object.metadata) := by
    rw [← Json.lookup_eq_find (accepts.once looked)]
    exact object.told
  rw [← builds_eq] at built
  unfold Resource.record at built
  simp only [builds_seq, builds_map] at built
  rcases built with ⟨_, -, _, -, metadata, read, _, -, _, -, rfl⟩
  unfold Record.required at read
  rw [build_found found] at read
  rw [object.finalizers_eq]
  exact Metadata.finalizers_of_decode object.listedOnce read

/-! ## Objects that others hold back as well -/

/-- An object under its name, and the names of others' finalizers that were added and that their owners did not
remove. -/
structure Shared where
  stored : Option StoredObject
  owed : List String

/-- The finalizers that there are. Where there is no object there are none. -/
def finalizersOf (stored : Option StoredObject) : List String :=
  (stored.map StoredObject.finalizers).getD []

namespace Shared

/-- What the owners of other finalizers do, and whoever else writes to the object. It goes when nobody holds
it back. -/
inductive Drifts : Shared → Shared → Prop
  | added {object next : StoredObject} {owed : List String} {name : String}
      (foreign : name ≠ finalizer)
      (one : ∀ other, other ∈ next.finalizers ↔ other = name ∨ other ∈ object.finalizers) :
      Drifts ⟨some object, owed⟩ ⟨some next, name :: owed⟩
  | removed {object next : StoredObject} {owed : List String} {name : String}
      (foreign : name ≠ finalizer)
      (others : ∀ other, other ∈ next.finalizers ↔ other ≠ name ∧ other ∈ object.finalizers) :
      Drifts ⟨some object, owed⟩ ⟨some next, owed.filter (· ≠ name)⟩
  | edited {object next : StoredObject} {owed : List String}
      (same : ∀ other, other ∈ next.finalizers ↔ other ∈ object.finalizers) :
      Drifts ⟨some object, owed⟩ ⟨some next, owed⟩
  | erased {object : StoredObject} {owed : List String} (free : object.finalizers = []) :
      Drifts ⟨some object, owed⟩ ⟨none, owed⟩
  | created {object : StoredObject} {owed : List String} :
      Drifts ⟨none, owed⟩ ⟨some object, object.finalizers⟩

/-- Of the finalizers of others there are those that are owed. -/
def Tidy (shared : Shared) : Prop :=
  ∀ name ≠ finalizer, name ∈ finalizersOf shared.stored ↔ name ∈ shared.owed

theorem Drifts.tidy {before after : Shared} (drifts : before.Drifts after) (tidy : before.Tidy) :
    after.Tidy := by
  intro name foreign
  have known := tidy name foreign
  cases drifts with
  | added _ one => exact (one name).trans ((or_congr_right known).trans List.mem_cons.symm)
  | removed _ others =>
      rw [List.mem_filter, decide_eq_true_iff, and_comm]
      exact (others name).trans (and_congr_right fun _ => known)
  | edited same => exact (same name).trans known
  | erased free =>
      change name ∈ StoredObject.finalizers _ ↔ _ at known
      rw [free] at known
      exact known
  | created => exact .rfl

/-- The revision that a document speaks of. -/
def revisionOf (document : Json) : Option Json :=
  (document.get? "metadata").bind (·.get? "resourceVersion")

/-- What a request about the object does. It is shown as it is, and patches are merged into it unless they are
for another revision. One that is answered with an error, or not at all, may have been merged all the same. -/
inductive Answers (kind : Kind) (key : ObjectKey) :
    Shared → Exchange Wire.Operations → Shared → Prop
  | shown {object : StoredObject} {owed : List String} {response : Wire.Response}
      (passed : Wire.Status.isError response.status = false)
      (tells : (Json.read response.body).root = object.json) :
      Answers kind key ⟨some object, owed⟩ ⟨.send (fetching kind key), .ok response⟩
        ⟨some object, owed⟩
  | missing {owed : List String} {request : Wire.Request} {response : Wire.Response}
      (failed : Wire.Status.isError response.status = true) :
      Answers kind key ⟨none, owed⟩ ⟨.send request, .ok response⟩ ⟨none, owed⟩
  | patched {object : StoredObject} {next : Option StoredObject} {owed : List String}
      {query : List (String × String)} {changes : Json} {answer : Except String Wire.Response}
      (current : revisionOf changes = none ∨ revisionOf changes = revisionOf object.json)
      (merged : finalizersOf next = (object.json.mergePatch changes).finalizers) :
      Answers kind key ⟨some object, owed⟩
        ⟨.send ⟨.cluster, .patch, pathOf kind key, query, .mergePatch changes⟩, answer⟩ ⟨next, owed⟩
  | refused {shared : Shared} {request : Wire.Request} {response : Wire.Response}
      (failed : Wire.Status.isError response.status = true)
      (other : (errorOf response).reason ≠ "NotFound") :
      Answers kind key shared ⟨.send request, .ok response⟩ shared
  | unreachable {shared : Shared} {request : Wire.Request} {reason : String} :
      Answers kind key shared ⟨.send request, .error reason⟩ shared

end Shared

/-- Before each request others may have done anything. -/
def Shares (kind : Kind) (key : ObjectKey) : Conduct Wire.Operations Shared :=
  fun before exchange after =>
    ∃ between, Relation.ReflTransGen Shared.Drifts before between ∧
      Shared.Answers kind key between exchange after

namespace Shared

/-- A request was answered with the resource. -/
def Shows (kind : Kind) (key : ObjectKey) (log : List (Exchange Wire.Operations))
    (resource : Resource kind) : Prop :=
  ∃ response, ⟨.send (fetching kind key), .ok response⟩ ∈ log ∧
    Wire.Status.isError response.status = false ∧
    (Resource.codec kind).ofText response.body = .ok resource

/-- Whoever was shown a resource saw all finalizers of others that are owed now, and no other ones. -/
def Seen (kind : Kind) (key : ObjectKey) (log : List (Exchange Wire.Operations))
    (owed : List String) : Prop :=
  ∀ resource, Shows kind key log resource → ∀ name ≠ finalizer,
    name ∈ resource.metadata.finalizers.getD [] ↔ name ∈ owed

variable {kind : Kind} {key : ObjectKey} {held : Bool} {before after : Shared}
  {log : List (Exchange Wire.Operations)}

theorem tidy_of_drifts (drifts : Relation.ReflTransGen Drifts before after) (tidy : before.Tidy) :
    after.Tidy := by
  induction drifts with
  | refl => exact tidy
  | tail _ one induction => exact one.tidy induction

/-- What is read out of an answer are the finalizers that there are. -/
theorem finalizers_of_shows {response : Wire.Response} {resource : Resource kind}
    (answered : Shares kind key before ⟨.send (fetching kind key), .ok response⟩ after)
    (passed : Wire.Status.isError response.status = false)
    (reads : (Resource.codec kind).ofText response.body = .ok resource) (tidy : before.Tidy) :
    after.Tidy ∧ finalizersOf after.stored = resource.metadata.finalizers.getD [] := by
  have ⟨between, drifts, answers⟩ := answered
  have kept := tidy_of_drifts drifts tidy
  cases answers with
  | shown _ tells =>
      refine ⟨kept, ?_⟩
      unfold Codec.ofText Codec.ofDocument at reads
      rw [tells] at reads
      have ⟨_, decodes, rest⟩ := Except.bind_eq_ok.mp reads
      split at rest
      · obtain rfl := Except.ok.inj rest
        exact (StoredObject.finalizers_of_decode decodes).symm
      · cases rest
  | missing failed => rw [passed] at failed; cases failed
  | refused failed => rw [passed] at failed; cases failed

theorem stored_of_missing {response : Wire.Response}
    (answered : Shares kind key before ⟨.send (fetching kind key), .ok response⟩ after)
    (failed : Wire.Status.isError response.status = true)
    (missing : (errorOf response).reason = "NotFound") (tidy : before.Tidy) :
    after.Tidy ∧ after.stored = none := by
  have ⟨between, drifts, answers⟩ := answered
  have kept := tidy_of_drifts drifts tidy
  cases answers with
  | shown passed _ => rw [failed] at passed; cases passed
  | missing _ => exact ⟨kept, rfl⟩
  | refused _ other => exact absurd missing other

theorem finalizers_of_listing {names : List String} {response : Wire.Response}
    (answered : Shares kind key before ⟨.send (listing kind key names), .ok response⟩ after)
    (accepted : Wire.Status.isError response.status = false) :
    finalizersOf after.stored = names := by
  have ⟨between, _, answers⟩ := answered
  cases answers with
  | patched _ merged => exact merged.trans (Json.finalizers_mergePatch _ names)
  | missing failed => rw [accepted] at failed; cases failed
  | refused failed => rw [accepted] at failed; cases failed

theorem mem_finalizersWhen {names : List String} {name : String} (foreign : name ≠ finalizer) :
    name ∈ finalizersWhen held names ↔ name ∈ names := by
  cases held <;> simp [finalizersWhen, foreign]

theorem finalizer_mem_finalizersWhen {names : List String} :
    finalizer ∈ finalizersWhen held names ↔ held = true := by
  cases held <;> simp [finalizersWhen]

/-- Where a resource was shown only once, that is all that was seen. -/
theorem seen_iff {response : Wire.Response} {resource : Resource kind}
    {later : List (Exchange Wire.Operations)} {owed : List String}
    (passed : Wire.Status.isError response.status = false)
    (reads : (Resource.codec kind).ofText response.body = .ok resource)
    (writes : ∀ exchange ∈ later, ∃ names, exchange.request = .send (listing kind key names)) :
    Seen kind key (⟨.send (fetching kind key), .ok response⟩ :: later) owed ↔
      ∀ name ≠ finalizer, name ∈ resource.metadata.finalizers.getD [] ↔ name ∈ owed := by
  constructor
  · intro seen
    exact seen resource ⟨response, List.mem_cons_self, passed, reads⟩
  · intro all found ⟨again, member, _, readsAgain⟩
    rcases List.mem_cons.mp member with same | further
    · injection same with _ same
      obtain rfl := Except.ok.inj same
      obtain rfl := Except.ok.inj (reads.symm.trans readsAgain)
      exact all
    · have ⟨_, listing⟩ := writes _ further
      injection listing with listing
      injection listing with _ different
      cases different

theorem seen_of_failed {response : Wire.Response} {owed : List String}
    (failed : Wire.Status.isError response.status = true) :
    Seen kind key [⟨.send (fetching kind key), .ok response⟩] owed := by
  intro resource ⟨again, member, passed, _⟩
  injection List.mem_singleton.mp member with _ same
  rw [Except.ok.inj same, failed] at passed
  cases passed

/-- Where the finalizers are known, it is known of the object whether the operator holds it back. -/
theorem held_of_finalizers {names : List String} (listed : finalizersOf after.stored = names)
    (own : finalizer ∈ names ↔ held = true) :
    ∀ object ∈ after.stored, finalizer ∈ object.finalizers ↔ held = true := by
  intro object there
  rw [there] at listed
  change object.finalizers = names at listed
  rw [listed]
  exact own

/-- After a call that succeeds the operator holds the object back or not, as it was asked to. The finalizers of
others are those that are owed exactly if the call was shown these ones, which it writes over whatever others
did in the meantime. -/
theorem others_kept_iff (tidy : before.Tidy)
    (goes : Program.Goes (Shares kind key) (setHeld kind key held).run before log (.done (.ok ()))
      after) :
    (∀ object ∈ after.stored, finalizer ∈ object.finalizers ↔ held = true) ∧
      (after.Tidy ↔ Seen kind key log after.owed) := by
  cases settles_of_goes goes with
  | gone answered failed missing =>
      have ⟨kept, nothing⟩ := stored_of_missing answered failed missing tidy
      refine ⟨fun object there => ?_, iff_of_true kept (seen_of_failed failed)⟩
      rw [nothing] at there
      cases there
  | already answered passed reads same =>
      have ⟨kept, listed⟩ := finalizers_of_shows answered passed reads tidy
      refine ⟨held_of_finalizers listed ?_, ?_⟩
      · rw [← List.contains_iff_mem, ← same]
        exact .rfl
      · rw [seen_iff passed reads fun _ => (absurd · List.not_mem_nil), ← listed]
        exact .rfl
  | listed answered passed reads written accepted =>
      have listed := finalizers_of_listing written accepted
      refine ⟨held_of_finalizers listed finalizer_mem_finalizersWhen, ?_⟩
      rw [seen_iff passed reads fun _ member =>
        ⟨_, congrArg Exchange.request (List.mem_singleton.mp member)⟩]
      unfold Tidy
      rw [listed]
      exact forall₂_congr fun name foreign => by rw [mem_finalizersWhen foreign]

end Shared

namespace Sample

def site : ObjectKey := ⟨"apps", "web"⟩

/-- A host that is held back by some finalizers. -/
def document (finalizers : List String) : StoredObject where
  members :=
    [("metadata", .object [("name", .string "web"), ("finalizers", .strings finalizers)]),
      ("spec", .object [("domainNames", .strings ["a.example.com"]),
        ("forward", .object [
          ("hosts", .array [.object [("host", .string "h"), ("port", .whole 80)]])])])]
  metadata := [("name", .string "web"), ("finalizers", .strings finalizers)]
  told := rfl
  listedOnce := show ["name", "finalizers"].count "finalizers" ≤ 1 by decide

theorem finalizers_document {finalizers : List String} :
    (document finalizers).finalizers = finalizers := Json.filterMap_text?_strings finalizers

def backedUp : Wire.Response where
  status := 200
  body := "\x7b\"metadata\":\x7b\"name\":\"web\",\"finalizers\":[\"example.com/backup\"]\x7d,"
    ++ "\"spec\":\x7b\"domainNames\":[\"a.example.com\"],"
    ++ "\"forward\":\x7b\"hosts\":[\x7b\"host\":\"h\",\"port\":80\x7d]\x7d\x7d\x7d"

def heldAsWell : Wire.Response where
  status := 200
  body := "\x7b\"metadata\":\x7b\"name\":\"web\","
    ++ "\"finalizers\":[\"example.com/backup\",\"npm.operator.io/finalizer\"]\x7d,"
    ++ "\"spec\":\x7b\"domainNames\":[\"a.example.com\"],"
    ++ "\"forward\":\x7b\"hosts\":[\x7b\"host\":\"h\",\"port\":80\x7d]\x7d\x7d\x7d"

-- The texts are read one character at a time, each inside what was read before.
set_option maxRecDepth 4000 in
theorem read_backedUp :
    Json.read backedUp.body = ⟨(document ["example.com/backup"]).json, true⟩ := by
  unfold Json.read Json.tokens
  rw [String.foldl_eq_foldl_toList]
  rfl

set_option maxRecDepth 4000 in
theorem read_heldAsWell :
    Json.read heldAsWell.body = ⟨(document ["example.com/backup", finalizer]).json, true⟩ := by
  unfold Json.read Json.tokens
  rw [String.foldl_eq_foldl_toList]
  rfl

theorem reads_backedUp : ∃ resource, (Resource.codec .proxyHost).ofText backedUp.body = .ok resource ∧
    resource.metadata.finalizers = some ["example.com/backup"] := by
  unfold Codec.ofText
  rw [read_backedUp]
  exact ⟨_, rfl, rfl⟩

theorem reads_heldAsWell : ∃ resource, (Resource.codec .proxyHost).ofText heldAsWell.body = .ok resource := by
  unfold Codec.ofText
  rw [read_heldAsWell]
  exact ⟨_, rfl⟩

/-- What is asked and answered when the host is to be held back. -/
def exchanged : List (Exchange Wire.Operations) :=
  [⟨.send (fetching .proxyHost site), .ok backedUp⟩,
    ⟨.send (listing .proxyHost site ["example.com/backup", finalizer]), .ok heldAsWell⟩]

def bothHold : Shared := ⟨some (document ["example.com/backup"]), ["example.com/backup"]⟩

theorem bothHold_tidy : bothHold.Tidy := by
  intro name _
  change name ∈ (document _).finalizers ↔ _
  rw [finalizers_document]
  exact .rfl

/-- Others do something between the two requests. -/
theorem holds_of_drifts {names owed : List String}
    (drifts : Relation.ReflTransGen Shared.Drifts bothHold ⟨some (document names), owed⟩) :
    Program.Goes (Shares .proxyHost site) (setHeld .proxyHost site true).run bothHold exchanged
      (.done (.ok ())) ⟨some (document ["example.com/backup", finalizer]), owed⟩ := by
  obtain ⟨resource, reads, listed⟩ := reads_backedUp
  obtain ⟨again, understands⟩ := reads_heldAsWell
  have shown : Shares .proxyHost site bothHold ⟨.send (fetching .proxyHost site), .ok backedUp⟩
      bothHold :=
    ⟨_, .refl, .shown rfl (congrArg Json.Document.root read_backedUp)⟩
  have different : resource.isHeld ≠ true := by
    unfold Resource.isHeld Metadata.hasFinalizer
    rw [listed]
    decide
  have written : Shares .proxyHost site bothHold ⟨.send (listing .proxyHost site
        (finalizersWhen true (resource.metadata.finalizers.getD []))), .ok heldAsWell⟩
      ⟨some (document ["example.com/backup", finalizer]), owed⟩ := by
    rw [listed]
    refine ⟨_, drifts, .patched (.inl rfl) ?_⟩
    rw [Json.finalizers_mergePatch]
    exact finalizers_document
  have goes := goes_of_listing rfl shown rfl reads different written rfl understands
  rw [listed] at goes
  exact goes

end Sample

namespace Shared

/-- Nobody does anything in between, and the finalizer of the other one is still there. -/
theorem others_kept_undisturbed : ∃ after : Shared, Sample.bothHold.Tidy ∧
    Program.Goes (Shares .proxyHost Sample.site) (setHeld .proxyHost Sample.site true).run
      Sample.bothHold Sample.exchanged (.done (.ok ())) after ∧
    Seen .proxyHost Sample.site Sample.exchanged after.owed ∧ after.Tidy := by
  have goes := Sample.holds_of_drifts .refl
  have ⟨resource, reads, listed⟩ := Sample.reads_backedUp
  have seen : Seen .proxyHost Sample.site Sample.exchanged ["example.com/backup"] := by
    refine (seen_iff rfl reads fun _ member =>
      ⟨_, congrArg Exchange.request (List.mem_singleton.mp member)⟩).mpr fun name _ => ?_
    rw [listed]
    exact .rfl
  exact ⟨_, Sample.bothHold_tidy, goes, seen,
    (others_kept_iff Sample.bothHold_tidy goes).2.mpr seen⟩

/-- In between, the owner of one finalizer removes it, and another one is added. Afterwards the first one is
back, and the second one is lost. -/
theorem others_overwritten : ∃ after : Shared, Sample.bothHold.Tidy ∧
    Program.Goes (Shares .proxyHost Sample.site) (setHeld .proxyHost Sample.site true).run
      Sample.bothHold Sample.exchanged (.done (.ok ())) after ∧
    (∃ name ≠ finalizer, name ∈ after.owed ∧ name ∉ finalizersOf after.stored) ∧
    ∃ name ≠ finalizer, name ∉ after.owed ∧ name ∈ finalizersOf after.stored := by
  have removed : Drifts Sample.bothHold ⟨some (Sample.document []),
      ["example.com/backup"].filter (· ≠ "example.com/backup")⟩ := by
    refine .removed (by decide) fun other => ?_
    simp only [Sample.finalizers_document]
    simp
  have added (owed : List String) : Drifts ⟨some (Sample.document []), owed⟩
      ⟨some (Sample.document ["example.com/audit"]), "example.com/audit" :: owed⟩ := by
    refine .added (by decide) fun other => ?_
    simp only [Sample.finalizers_document]
    simp
  have goes := Sample.holds_of_drifts (.tail (.single removed) (added _))
  have stored : finalizersOf (some (Sample.document ["example.com/backup", finalizer])) =
      ["example.com/backup", finalizer] := Sample.finalizers_document
  refine ⟨_, Sample.bothHold_tidy, goes, ⟨"example.com/audit", by decide, by decide, ?_⟩,
    "example.com/backup", by decide, by decide, ?_⟩
  · rw [stored]
    decide
  · rw [stored]
    decide

end Shared

end ProxyOperator
