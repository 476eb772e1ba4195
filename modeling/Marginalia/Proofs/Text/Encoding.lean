/-
Module: Marginalia.Proofs.Text.Encoding
Purpose: The octet form of a text, read from its first octet on. The lead octet of a code point tells how
  many octets the code point has and whether it is a line feed, so octets can be walked over without being
  decoded. Code points with the same first octets are the same, which makes the octet form of a text
  unambiguous. Offsets into it are related to prefixes: `prefixWithin` is the longest prefix that a number
  of octets has room for, and it grows with that number.
Main exports: CodePoint.encode_eq_cons, Text.encode_injective, Text.prefixWithin, prefixWithin_isPrefix,
  isPrefix_prefixWithin, prefixWithin_length_encode, prefixWithin_length_encode_add,
  prefixWithin_append_of_le
-/

import Marginalia.Text.Utf8

namespace Marginalia

namespace CodePoint

theorem width_pos (c : CodePoint) : 0 < c.width := by
  unfold width
  repeat' split
  all_goals omega

@[simp] theorem width_newline : newline.width = 1 := rfl

theorem toNat_octet {n : Nat} (small : n < 0x100) : (UInt8.ofNat n).toNat = n := by
  rw [UInt8.toNat_ofNat']
  exact Nat.mod_eq_of_lt small

/-- An octet below 0x100 is the line feed's octet exactly when it is that number. -/
theorem octet_eq_newline_iff {n : Nat} (small : n < 0x100) : UInt8.ofNat n = 0x0A ↔ n = 0x0A := by
  rw [← UInt8.toNat_inj, toNat_octet small]
  rfl

theorem eq_newline_iff {c : CodePoint} : c = newline ↔ c.val = 0x0A := by
  constructor
  · rintro rfl
    rfl
  · intro same
    cases c
    simp only at same
    subst same
    rfl

/-- A code point is written as a lead octet, which tells its width and whether it is a line feed, and the
    octets that fill the width. -/
theorem encode_eq_cons (c : CodePoint) :
    ∃ lead tail, c.encode = lead :: tail ∧ tail.length + 1 = c.width ∧
      Utf8.leadWidth lead.toNat = c.width ∧ (lead = 0x0A ↔ c = newline) := by
  have bound := c.isLt
  rw [eq_newline_iff]
  by_cases one : c.val < 0x80
  · refine ⟨UInt8.ofNat c.val, [], by simp [encode, one], by simp [width, one], ?_, ?_⟩
    · rw [toNat_octet (by omega)]
      simp only [Utf8.leadWidth, width, one, if_true]
      rw [if_pos (by omega)]
    · exact octet_eq_newline_iff (by omega)
  by_cases two : c.val < 0x800
  · refine ⟨UInt8.ofNat (0xC0 + c.val / 0x40), [continuation c.val], by simp [encode, one, two],
      by simp [width, one, two], ?_, ?_⟩
    · rw [toNat_octet (by omega)]
      simp only [Utf8.leadWidth, width, one, two, if_true, if_false]
      rw [if_neg (by omega), if_pos (by omega)]
    · rw [octet_eq_newline_iff (by omega)]
      omega
  by_cases three : c.val < 0x10000
  · refine ⟨UInt8.ofNat (0xE0 + c.val / 0x1000), [continuation (c.val / 0x40), continuation c.val],
      by simp [encode, one, two, three], by simp [width, one, two, three], ?_, ?_⟩
    · rw [toNat_octet (by omega)]
      simp only [Utf8.leadWidth, width, one, two, three, if_true, if_false]
      rw [if_neg (by omega), if_neg (by omega), if_pos (by omega)]
    · rw [octet_eq_newline_iff (by omega)]
      omega
  · refine ⟨UInt8.ofNat (0xF0 + c.val / 0x40000),
      [continuation (c.val / 0x1000), continuation (c.val / 0x40), continuation c.val],
      by simp [encode, one, two, three], by simp [width, one, two, three], ?_, ?_⟩
    · rw [toNat_octet (by omega)]
      simp only [Utf8.leadWidth, width, one, two, three, if_false]
      rw [if_neg (by omega), if_neg (by omega), if_neg (by omega), if_pos (by omega)]
    · rw [octet_eq_newline_iff (by omega)]
      omega

@[simp] theorem length_encode (c : CodePoint) : c.encode.length = c.width := by
  obtain ⟨lead, tail, split, length, -, -⟩ := c.encode_eq_cons
  simp [split, length]

/-!
### No ambiguity

The octets of a code point hold all of its bits, so two code points with the same octets are one. The
number of octets is known from the lead octet, hence what follows them is known as well.
-/

theorem octet_inj {m n : Nat} (hm : m < 0x100) (hn : n < 0x100) (same : UInt8.ofNat m = UInt8.ofNat n) :
    m = n := by
  have h := congrArg UInt8.toNat same
  rwa [toNat_octet hm, toNat_octet hn] at h

theorem width_le_one_iff {c : CodePoint} : c.width ≤ 1 ↔ c.val < 0x80 := by
  unfold width
  repeat' split
  all_goals omega

theorem width_le_two_iff {c : CodePoint} : c.width ≤ 2 ↔ c.val < 0x800 := by
  unfold width
  repeat' split
  all_goals omega

theorem width_le_three_iff {c : CodePoint} : c.width ≤ 3 ↔ c.val < 0x10000 := by
  unfold width
  repeat' split
  all_goals omega

/-- A continuation octet keeps the six lowest bits. -/
theorem continuation_inj {m n : Nat} (same : continuation m = continuation n) : m % 0x40 = n % 0x40 := by
  have h := octet_inj (by omega) (by omega) same
  omega

theorem width_eq_of_encode_append_eq {c d : CodePoint} {x y : Octets}
    (same : c.encode ++ x = d.encode ++ y) : c.width = d.width := by
  obtain ⟨lead, tail, hc, -, width_c, -⟩ := c.encode_eq_cons
  obtain ⟨lead', tail', hd, -, width_d, -⟩ := d.encode_eq_cons
  rw [hc, hd, List.cons_append, List.cons_append, List.cons.injEq] at same
  rw [← width_c, ← width_d, same.1]

theorem eq_of_encode_eq {c d : CodePoint} (same : c.encode = d.encode) : c = d := by
  have widths : c.width = d.width := width_eq_of_encode_append_eq (congrArg (· ++ []) same)
  have bound_c := c.isLt
  have bound_d := d.isLt
  have one : c.val < 0x80 ↔ d.val < 0x80 := by rw [← width_le_one_iff, widths, width_le_one_iff]
  have two : c.val < 0x800 ↔ d.val < 0x800 := by rw [← width_le_two_iff, widths, width_le_two_iff]
  have three : c.val < 0x10000 ↔ d.val < 0x10000 := by
    rw [← width_le_three_iff, widths, width_le_three_iff]
  have vals : c.val = d.val := by
    simp only [encode, one, two, three] at same
    split at same
    next => exact octet_inj (by omega) (by omega) (List.cons.inj same).1
    split at same
    next =>
      simp only [List.cons.injEq, and_true] at same
      have high := octet_inj (by omega) (by omega) same.1
      have low := continuation_inj same.2
      omega
    split at same
    next =>
      simp only [List.cons.injEq, and_true] at same
      have high := octet_inj (by omega) (by omega) same.1
      have middle := continuation_inj same.2.1
      have low := continuation_inj same.2.2
      omega
    next =>
      simp only [List.cons.injEq, and_true] at same
      have high := octet_inj (by omega) (by omega) same.1
      have upper := continuation_inj same.2.1
      have lower := continuation_inj same.2.2.1
      have low := continuation_inj same.2.2.2
      omega
  cases c
  cases d
  simpa using vals

/-- Octets that start with a code point start with no other one. -/
theorem encode_append_inj {c d : CodePoint} {x y : Octets} (same : c.encode ++ x = d.encode ++ y) :
    c = d ∧ x = y := by
  have widths : c.encode.length = d.encode.length := by
    simpa using width_eq_of_encode_append_eq same
  obtain ⟨heads, tails⟩ := List.append_inj same widths
  exact ⟨eq_of_encode_eq heads, tails⟩

end CodePoint

namespace Text

@[simp] theorem encode_nil : encode [] = [] := rfl

@[simp] theorem encode_cons (c : CodePoint) (t : Text) : encode (c :: t) = c.encode ++ encode t := rfl

@[simp] theorem encode_append (t u : Text) : encode (t ++ u) = encode t ++ encode u :=
  List.flatMap_append

/-- Texts with the same octets are the same. -/
theorem encode_injective : Function.Injective encode := by
  intro t u same
  induction t generalizing u with
  | nil =>
      cases u with
      | nil => rfl
      | cons d u =>
          obtain ⟨lead, tail, split, -⟩ := d.encode_eq_cons
          simp [split] at same
  | cons c t ih =>
      cases u with
      | nil =>
          obtain ⟨lead, tail, split, -⟩ := c.encode_eq_cons
          simp [split] at same
      | cons d u =>
          obtain ⟨rfl, rest⟩ := CodePoint.encode_append_inj same
          rw [ih rest]

/-- A line feed is an octet of its own. -/
theorem newline_octet_mem_encode {t : Text} (mem : CodePoint.newline ∈ t) : 0x0A ∈ t.encode :=
  List.mem_flatMap.2 ⟨CodePoint.newline, mem, by decide⟩

/-!
### Prefixes and offsets
-/

/-- The longest prefix of a text that a number of octets has room for. -/
def prefixWithin (budget : Nat) : Text → Text
  | [] => []
  | c :: rest => if c.width ≤ budget then c :: prefixWithin (budget - c.width) rest else []

theorem prefixWithin_isPrefix (budget : Nat) (t : Text) : t.prefixWithin budget <+: t := by
  induction t generalizing budget with
  | nil => exact List.prefix_rfl
  | cons c rest ih =>
      rw [prefixWithin]
      split
      · exact List.cons_prefix_cons.2 ⟨rfl, ih _⟩
      · exact List.nil_prefix

theorem length_encode_prefixWithin_le (budget : Nat) (t : Text) :
    (t.prefixWithin budget).encode.length ≤ budget := by
  induction t generalizing budget with
  | nil => simp [prefixWithin]
  | cons c rest ih =>
      rw [prefixWithin]
      split
      next fits =>
        have := ih (budget - c.width)
        simp only [encode_cons, List.length_append, CodePoint.length_encode]
        omega
      next => simp

/-- No longer prefix has room. -/
theorem isPrefix_prefixWithin {budget : Nat} {p t : Text} (start : p <+: t)
    (fits : p.encode.length ≤ budget) : p <+: t.prefixWithin budget := by
  induction p generalizing t budget with
  | nil => exact List.nil_prefix
  | cons c p ih =>
      obtain ⟨rest, rfl⟩ := start
      simp only [encode_cons, List.length_append, CodePoint.length_encode] at fits
      rw [List.cons_append, prefixWithin, if_pos (by omega)]
      exact List.cons_prefix_cons.2 ⟨rfl, ih (List.prefix_append p rest) (by omega)⟩

/-- More room means a longer prefix. -/
theorem prefixWithin_mono {a b : Nat} (le : a ≤ b) (t : Text) : t.prefixWithin a <+: t.prefixWithin b :=
  isPrefix_prefixWithin (prefixWithin_isPrefix a t) (Nat.le_trans (length_encode_prefixWithin_le a t) le)

/-- The room that a prefix takes has room for this prefix and no more. -/
theorem prefixWithin_length_encode {p t : Text} (start : p <+: t) : t.prefixWithin p.encode.length = p := by
  induction p generalizing t with
  | nil =>
      cases t with
      | nil => rfl
      | cons c rest =>
          have room := c.width_pos
          rw [prefixWithin, if_neg (by simp; omega)]
  | cons c p ih =>
      obtain ⟨rest, rfl⟩ := start
      rw [List.cons_append, prefixWithin, if_pos (by simp)]
      simp only [encode_cons, List.length_append, CodePoint.length_encode, Nat.add_sub_cancel_left]
      rw [ih (List.prefix_append p rest)]

/-- Room for a front leaves the remaining room to what comes behind it. -/
theorem prefixWithin_length_encode_add (front t : Text) (n : Nat) :
    (front ++ t).prefixWithin (front.encode.length + n) = front ++ t.prefixWithin n := by
  induction front with
  | nil => simp
  | cons c front ih =>
      simp only [List.cons_append, prefixWithin, encode_cons, List.length_append, CodePoint.length_encode]
      rw [if_pos (by omega), ← ih]
      congr 2
      omega

/-- What has room in a front does not reach what comes behind it. -/
theorem prefixWithin_append_of_le {t : Text} {n : Nat} (inside : n ≤ t.encode.length) (rest : Text) :
    (t ++ rest).prefixWithin n = t.prefixWithin n := by
  induction t generalizing n with
  | nil =>
      obtain rfl : n = 0 := Nat.le_zero.1 inside
      exact prefixWithin_length_encode List.nil_prefix
  | cons c t ih =>
      simp only [encode_cons, List.length_append, CodePoint.length_encode] at inside
      rw [List.cons_append, prefixWithin, prefixWithin, ih (by omega)]

/-- A text that has room is its longest prefix that has. -/
theorem prefixWithin_of_length_encode_le {t : Text} {n : Nat} (fits : t.encode.length ≤ n) :
    t.prefixWithin n = t :=
  (prefixWithin_isPrefix n t).eq_of_length_le (isPrefix_prefixWithin List.prefix_rfl fits).length_le

end Text

end Marginalia
