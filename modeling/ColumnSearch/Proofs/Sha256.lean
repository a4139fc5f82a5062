import ColumnSearch.Sha256
import Mathlib.Algebra.Group.Nat.Defs

/-!
# Hashes in hexadecimal

The hexadecimal form of a hash loses nothing, so texts of the same hash have the same digest.
-/

namespace ColumnSearch.Sha256

deriving instance DecidableEq for State

/-- No two of the texts collide: those with the same digest are the same. -/
def CollisionFree (texts : List String) : Prop :=
  ∀ first ∈ texts, ∀ second ∈ texts,
    digest first.toUTF8.toList = digest second.toUTF8.toList → first = second

private theorem toList_loop_eq (bytes : ByteArray) (start : Nat) (reversed : List UInt8) :
    ByteArray.toList.loop bytes start reversed =
      reversed.reverse ++ bytes.data.toList.drop start := by
  fun_induction ByteArray.toList.loop bytes start reversed with
  | case1 start reversed within ih =>
      have inside : start < bytes.data.toList.length := within
      rw [ih, List.drop_eq_getElem_cons inside, List.reverse_cons, List.append_assoc]
      simp [ByteArray.get!, getElem!_pos bytes.data start within]
  | case2 start reversed beyond =>
      rw [List.drop_eq_nil_of_le (Nat.le_of_not_lt beyond), List.append_nil]

/-- The bytes of a text are those of its characters in order. -/
theorem toList_toUTF8_ofList (cs : List Char) :
    (String.ofList cs).toUTF8.toList = cs.flatMap String.utf8EncodeChar := by
  have bytes : (String.ofList cs).toUTF8.data.toList = cs.flatMap String.utf8EncodeChar :=
    List.toList_data_toByteArray
  rw [ByteArray.toList, toList_loop_eq, List.reverse_nil, List.nil_append, List.drop_zero, bytes]

private theorem digitChar_injective {m n : Nat} (smallM : m < 16) (smallN : n < 16)
    (same : Nat.digitChar m = Nat.digitChar n) : m = n := by
  have every : ∀ m < 16, ∀ n < 16, Nat.digitChar m = Nat.digitChar n → m = n := by decide
  exact every m smallM n smallN same

private theorem length_hexDigits (count n : Nat) : (hexDigits count n).length = count := by
  rw [hexDigits, List.length_map, List.length_reverse, List.length_range]

private theorem hexDigits_succ (count n : Nat) :
    hexDigits (count + 1) n = Nat.digitChar (n / 16 ^ count % 16) :: hexDigits count n := by
  rw [hexDigits, List.range_succ, List.reverse_append, List.reverse_singleton,
    List.singleton_append, List.map_cons, Nat.shiftRight_eq_div_pow, Nat.pow_mul]
  rfl

/-- As many hexadecimal digits determine a number up to a power of sixteen. -/
theorem mod_eq_of_hexDigits_eq {count m n : Nat} (same : hexDigits count m = hexDigits count n) :
    m % 16 ^ count = n % 16 ^ count := by
  induction count with
  | zero => rw [Nat.pow_zero, Nat.mod_one, Nat.mod_one]
  | succ count ih =>
      rw [hexDigits_succ, hexDigits_succ, List.cons.injEq] at same
      have digit := digitChar_injective (Nat.mod_lt _ (by decide)) (Nat.mod_lt _ (by decide)) same.1
      rw [Nat.mod_pow_succ, Nat.mod_pow_succ, digit, ih same.2]

private theorem flatMap_injective {α β : Type} (encode : α → List β) {size : Nat}
    (fixed : ∀ item, (encode item).length = size)
    (injective : ∀ first second, encode first = encode second → first = second)
    {items others : List α} (lengths : items.length = others.length)
    (same : items.flatMap encode = others.flatMap encode) : items = others := by
  induction items generalizing others with
  | nil => exact (List.length_eq_zero_iff.mp lengths.symm).symm
  | cons item items ih =>
      cases others with
      | nil => cases lengths
      | cons other others =>
          rw [List.flatMap_cons, List.flatMap_cons] at same
          obtain ⟨first, rest⟩ := List.append_inj same (by rw [fixed, fixed])
          rw [injective item other first, ih (Nat.succ.inj lengths) rest]

private theorem State.length_words (x : State) : x.words.length = 8 :=
  rfl

private theorem State.words_injective {x y : State} (same : x.words = y.words) : x = y := by
  cases x
  cases y
  simpa only [State.words, List.cons.injEq, and_true, State.mk.injEq] using same

/-- The digits of a word. -/
def wordDigits (word : UInt32) : List Char :=
  hexDigits 8 word.toNat

private theorem length_wordDigits (word : UInt32) : (wordDigits word).length = 8 :=
  length_hexDigits 8 _

private theorem wordDigits_injective (first second : UInt32)
    (same : wordDigits first = wordDigits second) : first = second := by
  have words := mod_eq_of_hexDigits_eq same
  have small (word : UInt32) : word.toNat < 16 ^ 8 := word.toNat_lt
  rw [Nat.mod_eq_of_lt (small first), Nat.mod_eq_of_lt (small second)] at words
  exact UInt32.toNat_inj.mp words

/-- Texts of the same hash have the same digest. -/
theorem digest_eq_of_hex_eq {s t : String} (same : hex s = hex t) :
    digest s.toUTF8.toList = digest t.toUTF8.toList := by
  rw [hex, hex, String.ofList_inj] at same
  apply State.words_injective
  refine flatMap_injective wordDigits length_wordDigits wordDigits_injective ?_ same
  rw [State.length_words, State.length_words]

end ColumnSearch.Sha256
