import Mathlib.Logic.Basic
import ProxyOperator.Proofs.Dictionaries
import ProxyOperator.Upstream
/-!
Pools: several backends, and the upstream block they are sent as. A block is found under the name of its pool;
whether it is the block of that very pool depends on what the digest in the name is taken of.
-/
namespace ProxyOperator

/-! ## Names -/

private theorem digit_injective {first second : Nat} (firstSmall : first < 16)
    (secondSmall : second < 16) (same : Nat.digitChar first = Nat.digitChar second) :
    first = second := by
  have digits : ∀ first second : Fin 16, Nat.digitChar first = Nat.digitChar second →
      first = second := by decide
  exact congrArg Fin.val (digits ⟨first, firstSmall⟩ ⟨second, secondSmall⟩ same)

private theorem digits_injective {first second : Nat}
    (same : Nat.toDigits 16 first = Nat.toDigits 16 second) : first = second := by
  induction first using Nat.strongRecOn generalizing second with
  | _ first induction =>
      rw [Nat.toDigits_eq_if (by decide), Nat.toDigits_eq_if (n := second) (by decide)] at same
      split at same <;> split at same
      · next firstSmall secondSmall =>
        exact digit_injective firstSmall secondSmall (List.singleton_inj.mp same)
      · rw [← List.nil_append [Nat.digitChar first]] at same
        have empty := (List.append_inj' same rfl).1
        exact (Nat.toDigits_ne_nil empty.symm).elim
      · rw [← List.nil_append [Nat.digitChar second]] at same
        have empty := (List.append_inj' same rfl).1
        exact (Nat.toDigits_ne_nil empty).elim
      · next large _ =>
        have ⟨higher, last⟩ := List.append_inj' same rfl
        have quotients := induction (first / 16) (by omega) higher
        have remainders := digit_injective (Nat.mod_lt first (by decide))
          (Nat.mod_lt second (by decide)) (List.singleton_inj.mp last)
        omega

theorem Hex.ofNat_injective {first second : Nat} (same : Hex.ofNat first = Hex.ofNat second) :
    first = second :=
  digits_injective (String.ofList_injective same)

theorem Digest.ofText_inj {first second : String} :
    Digest.ofText first = Digest.ofText second ↔
      Digest.ofBytes (Utf8.encode first) = Digest.ofBytes (Utf8.encode second) :=
  ⟨fun same => UInt64.toNat_inj.mp (Hex.ofNat_injective same), fun same => by
    unfold Digest.ofText
    rw [same]⟩

namespace Upstream

theorem nameFor_inj {owner : ObjectKey} {first second : List Backend} :
    nameFor owner first = nameFor owner second ↔
      Digest.ofBytes (Utf8.encode (digestText first)) =
        Digest.ofBytes (Utf8.encode (digestText second)) := by
  rw [← Digest.ofText_inj]
  exact ⟨fun same => (String.append_right_inj _).mp same, fun same => by unfold nameFor; rw [same]⟩

end Upstream

/-! ## Addresses one after the other -/

/-- A list is split in one way only where a property ends that all of the first part has. -/
private theorem split_injective {α : Type} (property : α → Bool)
    {first second rest others : List α} (firstAll : ∀ value ∈ first, property value)
    (secondAll : ∀ value ∈ second, property value)
    (restEnds : ∀ value ∈ rest.head?, property value = false)
    (othersEnd : ∀ value ∈ others.head?, property value = false)
    (same : first ++ rest = second ++ others) : first = second ∧ rest = others := by
  have ends : ∀ list : List α, (∀ value ∈ list.head?, property value = false) →
      list.takeWhile property = [] := by
    intro list stops
    cases list with
    | nil => rfl
    | cons value list => exact List.takeWhile_cons_of_neg (by simpa using stops value rfl)
  have equal : first = second := by
    have taken := congrArg (List.takeWhile property) same
    rwa [List.takeWhile_append_of_pos firstAll, List.takeWhile_append_of_pos secondAll,
      ends rest restEnds, ends others othersEnd, List.append_nil, List.append_nil] at taken
  subst equal
  exact ⟨rfl, List.append_cancel_left same⟩

/-- The host of a backend can be told from the port of another one before it, and from its own. -/
structure Backend.Plain (backend : Backend) : Prop where
  colon : ':' ∉ backend.host.toList
  digit : ∀ character ∈ backend.host.toList.head?, character.isDigit = false

namespace Upstream

theorem toList_digestText_cons (backend : Backend) (backends : List Backend) :
    (digestText (backend :: backends)).toList =
      backend.host.toList ++ ':' :: (Nat.toDigits 10 backend.port.toNat ++
        (digestText backends).toList) := by
  simp only [digestText, List.map_cons, String.join_cons, String.toList_append, Backend.address,
    Nat.toString_eq_ofList_toDigits, String.toList_ofList, List.append_assoc]
  rfl

private theorem head_digestText {backends : List Backend}
    (plain : ∀ backend ∈ backends, backend.Plain) :
    ∀ character ∈ (digestText backends).toList.head?, character.isDigit = false := by
  cases backends with
  | nil =>
      intro character member
      cases member
  | cons backend rest =>
      have digit := (plain backend (.head _)).digit
      rw [toList_digestText_cons]
      cases list : backend.host.toList with
      | nil =>
          intro character member
          cases member
          rfl
      | cons character others =>
          rw [list] at digit
          exact digit

theorem digestText_injective {first second : List Backend}
    (firstPlain : ∀ backend ∈ first, backend.Plain) (secondPlain : ∀ backend ∈ second, backend.Plain)
    (same : digestText first = digestText second) : first = second := by
  induction first generalizing second with
  | nil =>
      cases second with
      | nil => rfl
      | cons backend rest =>
          have spelled := congrArg String.toList same
          rw [toList_digestText_cons] at spelled
          exact (List.append_ne_nil_of_right_ne_nil _ (List.cons_ne_nil _ _) spelled.symm).elim
  | cons backend rest induction =>
      cases second with
      | nil =>
          have spelled := congrArg String.toList same
          rw [toList_digestText_cons] at spelled
          exact (List.append_ne_nil_of_right_ne_nil _ (List.cons_ne_nil _ _) spelled).elim
      | cons other others =>
          have spelled := congrArg String.toList same
          rw [toList_digestText_cons, toList_digestText_cons] at spelled
          rcases List.forall_mem_cons.mp firstPlain with ⟨plain, restPlain⟩
          rcases List.forall_mem_cons.mp secondPlain with ⟨otherPlain, othersPlain⟩
          have colonEnds : ∀ list : List Char, ∀ character ∈ (':' :: list).head?,
              decide (character ≠ ':') = false := by
            rintro list _ ⟨⟩
            rfl
          -- The host ends at its colon, and the port where the next host begins.
          obtain ⟨hosts, further⟩ := split_injective (· ≠ ':')
            (fun _ member => decide_eq_true fun colon => plain.colon (colon ▸ member))
            (fun _ member => decide_eq_true fun colon => otherPlain.colon (colon ▸ member))
            (colonEnds _) (colonEnds _) spelled
          obtain ⟨ports, texts⟩ := split_injective Char.isDigit
            (fun _ => Nat.isDigit_of_mem_toDigits (by decide) (by decide))
            (fun _ => Nat.isDigit_of_mem_toDigits (by decide) (by decide))
            (head_digestText restPlain) (head_digestText othersPlain) (List.cons.inj further).2
          have samePort : backend.port.toNat = other.port.toNat := by
            rw [← Nat.ofDigitChars_toDigits (b := 10) (n := backend.port.toNat) (by decide)
              (by decide), ports, Nat.ofDigitChars_toDigits (by decide) (by decide)]
          have sameBackend : backend = other := by
            cases backend
            cases other
            exact congrArg₂ Backend.mk (String.toList_injective hosts) (UInt16.toNat_inj.mp samePort)
          rw [sameBackend, induction restPlain othersPlain (String.toList_injective texts)]

end Upstream

/-! ## Collected blocks -/

namespace UpstreamSet

/-- What is in a set after blocks were added: blocks that were, and older ones that none of them
replaced. -/
theorem mem_foldl_insertAny {upstreams : List (Option Upstream)} {set : UpstreamSet}
    {entry : String × String} (member : entry ∈ (upstreams.foldl insertAny set).blocks.entries) :
    some ⟨entry.1, entry.2⟩ ∈ upstreams ∨ entry ∈ set.blocks.entries := by
  induction upstreams generalizing set with
  | nil => exact .inr member
  | cons upstream rest induction =>
      rcases induction member with later | earlier
      · exact .inl (.tail _ later)
      · cases upstream with
        | none => exact .inr earlier
        | some upstream =>
            rcases Dictionary.mem_insert.mp earlier with rfl | ⟨different, older⟩
            · exact .inl (.head _)
            · exact .inr older

theorem name_mem_foldl_insertAny {upstreams : List (Option Upstream)} {set : UpstreamSet}
    {name : String}
    (there : (∃ block, (name, block) ∈ set.blocks.entries) ∨ ∃ block, some ⟨name, block⟩ ∈ upstreams) :
    ∃ block, (name, block) ∈ (upstreams.foldl insertAny set).blocks.entries := by
  induction upstreams generalizing set with
  | nil => exact there.resolve_right fun ⟨_, impossible⟩ => nomatch impossible
  | cons upstream rest induction =>
      apply induction
      rcases there with ⟨block, older⟩ | ⟨block, added⟩
      · refine .inl ?_
        cases upstream with
        | none => exact ⟨block, older⟩
        | some upstream =>
            by_cases same : name = upstream.name
            · exact ⟨upstream.block, Dictionary.mem_insert.mpr (.inl (congrArg (·, _) same))⟩
            · exact ⟨block, Dictionary.mem_insert.mpr (.inr ⟨same, older⟩)⟩
      · rcases List.mem_cons.mp added with rfl | later
        · exact .inl ⟨block, Dictionary.mem_insert.mpr (.inl rfl)⟩
        · exact .inr ⟨block, later⟩

end UpstreamSet

end ProxyOperator
