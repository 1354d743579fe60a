import Bazaar.Id
import Bazaar.Proofs.Codec.Kept
import Mathlib.Algebra.Order.Ring.Nat

/-! # Identifiers read back

An identifier is read from its own written form.
-/

namespace Bazaar.Uuid

theorem length_hyphenate (ns : List Nat) (cs : List Char) :
    (hyphenate ns cs).length = cs.length + ns.length := by
  induction ns generalizing cs with
  | nil => rfl
  | cons n ns ih =>
    simp only [hyphenate, List.length_append, List.length_take, List.length_cons, ih,
      List.length_drop]
    omega

theorem unhyphenate?_hyphenate {ns : List Nat} {cs : List Char} (h : ns.sum ≤ cs.length) :
    unhyphenate? ns (hyphenate ns cs) = some cs := by
  induction ns generalizing cs with
  | nil => rfl
  | cons n ns ih =>
    rw [List.sum_cons] at h
    have hrest : unhyphenate? ns (hyphenate ns (cs.drop n)) = some (cs.drop n) := by
      apply ih
      rw [List.length_drop]
      omega
    have hlength : (cs.take n).length = n := List.length_take_of_le (by omega)
    rw [hyphenate, unhyphenate?, List.drop_left' hlength]
    simp only [hrest, Option.map_some, List.take_left' hlength, List.take_append_drop]

theorem digit?_digitChar (d : Fin 16) : digit? (digitChar d) = some d := by
  revert d
  decide

theorem ofDigits?_digits (u : Uuid) : ofDigits? (u.digits.map digitChar) = some u := by
  have hdigits : (u.digits.map digitChar).mapM digit? = some u.digits :=
    mapM_eq_some_iff.2 (by simp [digit?_digitChar])
  rw [ofDigits?, hdigits]
  exact dif_pos u.length_eq

/-- An identifier is read back from its written form. -/
theorem parse?_render (u : Uuid) : parse? u.render = some u := by
  have hlength : (hyphenate groups (u.digits.map digitChar)).length = 36 := by
    rw [length_hyphenate, List.length_map, u.length_eq]
    rfl
  have hgroups : groups.sum ≤ (u.digits.map digitChar).length := by
    rw [List.length_map, u.length_eq]
    decide
  rw [parse?, render, String.toList_ofList, hlength]
  change (unhyphenate? groups _).bind ofDigits? = some u
  rw [unhyphenate?_hyphenate hgroups]
  exact ofDigits?_digits u

end Bazaar.Uuid
