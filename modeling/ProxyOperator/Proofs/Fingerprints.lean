import ProxyOperator.Proofs.TextOrder
import ProxyOperator.Proofs.UploadHistory
/-!
What a fingerprint of material tells. Its bytes are the parts of the material with a zero byte between them, and
this is no more than the pieces between all zero bytes: not which of them make up which part, and not whether an
empty part is there at all. Material that has the pieces of what is on record is taken for it and not uploaded.
-/
namespace ProxyOperator

/-! ## Bytes of texts -/

namespace Utf8

theorem encode_inj {first second : String} : encode first = encode second ↔ first = second := by
  constructor
  · intro same
    rcases lt_trichotomy first second with before | rfl | after
    · exact absurd (same ▸ encode_lt_of_lt before) (List.lt_irrefl _)
    · rfl
    · exact absurd (same ▸ encode_lt_of_lt after) (List.lt_irrefl _)
  · exact congrArg encode

theorem zero_mem_encodeChar {character : Char} :
    0 ∈ String.utf8EncodeChar character ↔ character = '\x00' := by
  constructor
  · intro member
    apply Char.ext
    apply UInt32.toNat_inj.mp
    change character.val.toNat = 0
    unfold String.utf8EncodeChar at member
    dsimp only at member
    generalize character.val.toNat = value at *
    split_ifs at member <;>
      simp only [List.mem_cons, List.not_mem_nil, or_false, ← UInt8.toNat_inj, UInt8.toNat_ofNat',
        UInt8.toNat_zero] at member <;>
      omega
  · rintro rfl
    decide

/-- The zero byte stands for the character of that number, and for nothing else. -/
theorem zero_mem_encode {text : String} : 0 ∈ encode text ↔ '\x00' ∈ text.toList := by
  rw [encode_eq_flatMap, List.mem_flatMap]
  simp only [zero_mem_encodeChar, exists_eq_right]

end Utf8

/-! ## Pieces -/

namespace Remote.Material

/-- What stands between zero bytes in a text. -/
def piecesOf (text : String) : List (List UInt8) := (Utf8.encode text).splitOn 0

/-- What stands between zero bytes in the parts of material, one part after the other. -/
def pieces (material : Material) : List (List UInt8) :=
  [material.certificate, material.key, material.chain.getD ""].flatMap piecesOf

/-- Texts as they are expected: the certificate and the key are without zero characters. -/
def Plain (material : Material) : Prop :=
  '\x00' ∉ material.certificate.toList ∧ '\x00' ∉ material.key.toList

variable {one other : Material} {first second : String}

theorem piecesOf_inj : piecesOf first = piecesOf second ↔ first = second := by
  constructor
  · intro same
    have joined := congrArg (List.intercalate [0]) same
    rw [piecesOf, piecesOf, List.intercalate_splitOn, List.intercalate_splitOn] at joined
    exact Utf8.encode_inj.mp joined
  · exact congrArg piecesOf

theorem piecesOf_plain (plain : '\x00' ∉ first.toList) : piecesOf first = [Utf8.encode first] :=
  List.splitOn_eq_singleton (mt Utf8.zero_mem_encode.mp plain)

theorem splitOn_bytes (material : Material) : material.bytes.splitOn 0 = material.pieces := by
  have empty : Utf8.encode "" = [] := by
    rw [Utf8.encode_eq_flatMap]
    rfl
  have chain : (material.chain.map Utf8.encode).getD [] = Utf8.encode (material.chain.getD "") := by
    cases material.chain with
    | none => exact empty.symm
    | some text => rfl
  rw [bytes, chain, List.splitOn_append_cons_self, List.splitOn_append_cons_self]
  simp [pieces, piecesOf]

/-- The bytes of a fingerprint are those pieces. -/
theorem bytes_eq_iff : one.bytes = other.bytes ↔ one.pieces = other.pieces := by
  rw [← splitOn_bytes, ← splitOn_bytes]
  constructor
  · exact congrArg (List.splitOn 0)
  · intro same
    have joined := congrArg (List.intercalate [0]) same
    rwa [List.intercalate_splitOn, List.intercalate_splitOn] at joined

/-- Without zero characters in the certificate and the key, the pieces are the parts. -/
theorem pieces_eq_iff (plain : one.Plain) (plainToo : other.Plain) : one.pieces = other.pieces ↔
    one.certificate = other.certificate ∧ one.key = other.key ∧ one.chain.getD "" = other.chain.getD "" := by
  simp only [pieces, List.flatMap_cons, List.flatMap_nil, List.append_nil, piecesOf_plain plain.1,
    piecesOf_plain plain.2, piecesOf_plain plainToo.1, piecesOf_plain plainToo.2, List.singleton_append,
    List.cons.injEq, Utf8.encode_inj, piecesOf_inj]

theorem fingerprint_eq_of_pieces (same : one.pieces = other.pieces) : one.fingerprint = other.fingerprint :=
  congrArg Sha256.hexDigest (bytes_eq_iff.mpr same)

end Remote.Material

/-! ## Passes that read other material -/

namespace CustomCertificate

open Reconcile

variable {stored after : CustomCertificate} {context : Context} {seen : List (Exchange Effects)}
  {action : Action} {id : UInt32} {old new : Remote.Material}

/-- A pass on a certificate that is on record with the fingerprint of material uploads the material that it
reads if it has another fingerprint, and nothing otherwise. -/
theorem uploads_of_recorded (remains : stored.metadata.isDeleting = false)
    (known : stored.statusOrEmpty.id = some id)
    (recorded : stored.statusOrEmpty.materialHash = some old.fingerprint)
    (read : readings stored.secretKey seen = [new])
    (goes : Program.Goes (Tends stored.metadata.spokenKey) (reconcile context .customCertificate stored).run
      stored seen (.done (.ok action)) after) :
    uploads seen = if old.fingerprint = new.fingerprint then [] else [(id, new)] := by
  rcases (reconciles stored.at_begin).goes (goes.logged []) remains with ⟨completed, _⟩
  rw [List.nil_append] at completed
  generalize told : account stored.secretKey (after, seen) = here at completed
  cases completed with
  | @uploaded other material due =>
      simp only [account, Account.mk.injEq] at told
      rcases told with ⟨_, _, readToo, made⟩
      rcases (List.cons.inj (read.symm.trans readToo)).1 with rfl
      rcases due with missing | ⟨same, differs⟩
      · rw [known] at missing
        cases missing
      · rcases Option.some.inj (known.symm.trans same) with rfl
        rw [recorded, ne_eq, Option.some.injEq] at differs
        rw [made, if_neg differs]
  | @current other material _ same =>
      simp only [account, Account.mk.injEq] at told
      rcases told with ⟨_, _, readToo, made⟩
      rcases (List.cons.inj (read.symm.trans readToo)).1 with rfl
      rw [made, if_pos (Option.some.inj (recorded.symm.trans same))]

/-- The bytes of two materials differ just if their pieces do. Where the certificates and keys are plain, they
differ unless the parts are the same, with no chain for an empty one. With a hash that tells the bytes apart, a
pass uploads the material that it reads just if it has not the pieces of what is on record. -/
theorem rotation_uploaded_iff (old new : Remote.Material) :
    (old.bytes = new.bytes ↔ old.pieces = new.pieces) ∧
    (old.Plain → new.Plain → (old.bytes = new.bytes ↔
      old.certificate = new.certificate ∧ old.key = new.key ∧ old.chain.getD "" = new.chain.getD "")) ∧
    ∀ (stored after : CustomCertificate) (context : Context) (seen : List (Exchange Effects)) (action : Action)
      (id : UInt32), stored.metadata.isDeleting = false → stored.statusOrEmpty.id = some id →
      stored.statusOrEmpty.materialHash = some old.fingerprint →
      (old.fingerprint = new.fingerprint → old.bytes = new.bytes) →
      Program.Goes (Tends stored.metadata.spokenKey) (reconcile context .customCertificate stored).run stored
        seen (.done (.ok action)) after →
      readings stored.secretKey seen = [new] →
      (uploads seen = [(id, new)] ∧ old.pieces ≠ new.pieces) ∨
        (uploads seen = [] ∧ old.pieces = new.pieces) := by
  refine ⟨Remote.Material.bytes_eq_iff, fun plain plainToo => ?_, ?_⟩
  · rw [Remote.Material.bytes_eq_iff, Remote.Material.pieces_eq_iff plain plainToo]
  · intro stored after context seen action id remains known recorded apart goes read
    have made := uploads_of_recorded remains known recorded read goes
    by_cases same : old.pieces = new.pieces
    · rw [if_pos (Remote.Material.fingerprint_eq_of_pieces same)] at made
      exact .inr ⟨made, same⟩
    · have differs : old.fingerprint ≠ new.fingerprint := fun alike =>
        same (Remote.Material.bytes_eq_iff.mp (apart alike))
      rw [if_neg differs] at made
      exact .inl ⟨made, same⟩

/-- Another certificate is uploaded in place of the first one. -/
theorem rotation_uploaded_second :
    ∃ (seen : List (Exchange Effects)) (action : Action) (after : CustomCertificate),
      Program.Goes (Tends Sample.made.left.metadata.spokenKey)
        (reconcile Sample.context .customCertificate Sample.made.left).run Sample.made.left seen
        (.done (.ok action)) after ∧
      readings Sample.made.left.secretKey seen = [⟨"second", "key", none⟩] ∧
      uploads seen = [(1, ⟨"second", "key", none⟩)] := by
  let again := Sample.visit (Sample.tls "second") true Sample.made.left
  have ⟨action, goes⟩ : ∃ action, Program.Goes (Tends Sample.made.left.metadata.spokenKey)
      (reconcile Sample.context .customCertificate Sample.made.left).run Sample.made.left again.log
      (.done (.ok action)) again.left :=
    Sample.visit_succeeds (by decide +kernel) (by decide +kernel)
  have read : readings Sample.made.left.secretKey again.log = [⟨"second", "key", none⟩] := by
    decide +kernel
  have rotated := (rotation_uploaded_iff ⟨"first", "key", none⟩ ⟨"second", "key", none⟩).2.2 _ _ _ _ _ 1
    (by decide +kernel) (by decide +kernel) (by decide +kernel) (by decide +kernel) goes read
  have differ : Remote.Material.pieces ⟨"first", "key", none⟩ ≠
      Remote.Material.pieces ⟨"second", "key", none⟩ := by
    decide +kernel
  rcases rotated with ⟨made, _⟩ | ⟨_, same⟩
  · exact ⟨_, action, _, goes, read, made⟩
  · exact absurd same differ

/-- The Secret of the first material, with a chain that is empty. -/
def chained : Secret :=
  { (default : Secret) with data := (Sample.tls "first").data.map (·.insert "ca.crt" []) }

/-- A chain that is empty is taken for none, and what stands behind a zero character of the key for a chain.
When the Secret gets such an empty chain, the pass that reads it uploads nothing. -/
theorem rotation_overlooked :
    (⟨"first", "key", none⟩ : Remote.Material) ≠ ⟨"first", "key", some ""⟩ ∧
    Remote.Material.bytes ⟨"first", "key", none⟩ = Remote.Material.bytes ⟨"first", "key", some ""⟩ ∧
    Remote.Material.bytes ⟨"first", "key\x00chain", none⟩ =
      Remote.Material.bytes ⟨"first", "key", some "chain\x00"⟩ ∧
    ∃ (seen : List (Exchange Effects)) (action : Action) (after : CustomCertificate),
      Program.Goes (Tends Sample.made.left.metadata.spokenKey)
        (reconcile Sample.context .customCertificate Sample.made.left).run Sample.made.left seen
        (.done (.ok action)) after ∧
      Sample.made.left.statusOrEmpty.materialHash = some (Remote.Material.fingerprint ⟨"first", "key", none⟩) ∧
      readings Sample.made.left.secretKey seen = [⟨"first", "key", some ""⟩] ∧ uploads seen = [] := by
  have ⟨action, goes⟩ : ∃ action, Program.Goes (Tends Sample.made.left.metadata.spokenKey)
      (reconcile Sample.context .customCertificate Sample.made.left).run Sample.made.left
      (Sample.visit chained true Sample.made.left).log (.done (.ok action))
      (Sample.visit chained true Sample.made.left).left :=
    Sample.visit_succeeds (by decide +kernel) (by decide +kernel)
  exact ⟨by decide, by decide +kernel, by decide +kernel, _, action, _, goes, by decide +kernel⟩

end CustomCertificate

end ProxyOperator
