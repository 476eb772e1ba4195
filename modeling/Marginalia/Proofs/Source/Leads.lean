/-
Module: Marginalia.Proofs.Source.Leads
Purpose: What the octets of a text tell without being decoded. Every code point is one lead octet with
  continuation octets behind it, and the two kinds never look alike. So the boundaries of a text are the
  offsets of its lead octets and the end, its code points are as many as its lead octets, and its line feeds
  as many as the octets that are one; both counts can start anew behind the last line feed.
Main exports: Utf8.isContinuation, CodePoint.encode_eq_lead_cons, Text.isBoundary_cons_iff,
  Text.isBoundary_iff_octet, Text.countP_lead_encode, Text.count_newline_encode, Text.rtakeWhile_encode
-/

import Mathlib.Data.List.DropRight
import Marginalia.Proofs.Source.Boundaries

namespace Marginalia

/-- A continuation octet lies in the range in which no sequence starts. -/
def Utf8.isContinuation (octet : UInt8) : Bool := 0x80 ≤ octet.toNat && octet.toNat < 0xC0

open Utf8 (isContinuation)

namespace CodePoint

theorem isContinuation_continuation (n : Nat) : isContinuation (continuation n) = true := by
  simp only [isContinuation, continuation, toNat_octet (show 0x80 + n % 0x40 < 0x100 by omega),
    Bool.and_eq_true, decide_eq_true_eq]
  omega

theorem isContinuation_octet {n : Nat} (small : n < 0x100) (leads : n < 0x80 ∨ 0xC0 ≤ n) :
    isContinuation (UInt8.ofNat n) = false := by
  simp only [isContinuation, toNat_octet small, Bool.and_eq_false_iff, decide_eq_false_iff_not]
  omega

/-- The first octet of a code point leads and all others continue. -/
theorem encode_eq_lead_cons (c : CodePoint) :
    ∃ lead tail, c.encode = lead :: tail ∧ isContinuation lead = false ∧
      ∀ octet ∈ tail, isContinuation octet = true := by
  have bound := c.isLt
  rw [encode]
  split
  next => exact ⟨_, _, rfl, isContinuation_octet (by omega) (by omega), by simp⟩
  split
  next =>
    refine ⟨_, _, rfl, isContinuation_octet (by omega) (by omega), ?_⟩
    simp [isContinuation_continuation]
  split
  next =>
    refine ⟨_, _, rfl, isContinuation_octet (by omega) (by omega), ?_⟩
    simp [isContinuation_continuation]
  next =>
    refine ⟨_, _, rfl, isContinuation_octet (by omega) (by omega), ?_⟩
    simp [isContinuation_continuation]

/-- No octet of another code point is a line feed. -/
theorem newline_not_mem_encode {c : CodePoint} (other : c ≠ newline) : (0x0A : UInt8) ∉ c.encode := by
  rcases c.encode_eq_lead_cons with ⟨lead, tail, split, -, continue_all⟩
  rcases c.encode_eq_cons with ⟨lead', tail', split', -, -, feed⟩
  obtain ⟨rfl, rfl⟩ := List.cons.inj (split.symm.trans split')
  rw [split, List.mem_cons]
  rintro (same | later)
  · exact other (feed.1 same.symm)
  · exact absurd (continue_all _ later) (by decide)

/-- Lone surrogates are written like the code points around them, in three octets. -/
theorem length_encode_of_isSurrogate {c : CodePoint} (surrogate : c.isSurrogate = true) :
    c.encode.length = 3 := by
  simp only [isSurrogate, Bool.and_eq_true, decide_eq_true_eq] at surrogate
  rw [length_encode, width, if_neg (by omega), if_neg (by omega), if_pos (by omega)]

end CodePoint

namespace Text

/-!
### Boundaries
-/

variable {t rest : Text} {c : CodePoint} {n : Nat}

theorem isBoundary_zero (t : Text) : t.IsBoundary 0 := ⟨[], List.nil_prefix, rfl⟩

theorem isBoundary_nil_iff : IsBoundary [] n ↔ n = 0 := by
  constructor
  · rintro ⟨p, start, rfl⟩
    rw [List.prefix_nil.1 start]
    rfl
  · rintro rfl
    exact isBoundary_zero []

/-- A boundary of a longer text is its start or one of the rest, behind the first code point. -/
theorem isBoundary_cons_iff : IsBoundary (c :: rest) n ↔ n = 0 ∨ ∃ m, rest.IsBoundary m ∧ n = c.width + m := by
  constructor
  · rintro ⟨p, start, rfl⟩
    cases p with
    | nil => exact .inl rfl
    | cons d p =>
        rcases List.cons_prefix_cons.1 start with ⟨rfl, inner⟩
        exact .inr ⟨(encode p).length, ⟨p, inner, rfl⟩, by simp⟩
  · rintro (rfl | ⟨m, ⟨p, start, rfl⟩, rfl⟩)
    · exact isBoundary_zero _
    · exact ⟨c :: p, List.cons_prefix_cons.2 ⟨rfl, start⟩, by simp⟩

/-- The boundaries of a text are the offsets of its lead octets, and its end. -/
theorem isBoundary_iff_octet (t : Text) (n : Nat) :
    t.IsBoundary n ↔
      n = t.encode.length ∨ ∃ octet, t.encode[n]? = some octet ∧ isContinuation octet = false := by
  induction t generalizing n with
  | nil => simp [isBoundary_nil_iff]
  | cons c rest ih =>
      rcases c.encode_eq_lead_cons with ⟨lead, tail, split, leads, continue_all⟩
      have length : c.width = tail.length + 1 := by rw [← c.length_encode, split, List.length_cons]
      rw [isBoundary_cons_iff, encode_cons, split, List.length_append, List.length_cons]
      rcases Nat.lt_trichotomy n 0 with below | rfl | above
      · omega
      · exact iff_of_true (.inl rfl) (.inr ⟨lead, rfl, leads⟩)
      by_cases inside : n < c.width
      · -- Inside the first code point there are only continuation octets.
        have in_tail : n - 1 < tail.length := by omega
        have octet : (lead :: tail ++ encode rest)[n]? = some tail[n - 1] := by
          rw [List.getElem?_append_left (by simp only [List.length_cons]; omega),
            List.getElem?_cons, if_neg (by omega), List.getElem?_eq_getElem in_tail]
        have continues := continue_all _ (List.getElem_mem in_tail)
        refine iff_of_false ?_ ?_
        · rintro (start | ⟨m, -, behind⟩) <;> omega
        · rintro (at_end | ⟨other, found, leads_too⟩)
          · omega
          · obtain rfl : tail[n - 1] = other := Option.some.inj (octet.symm.trans found)
            simp [continues] at leads_too
      · -- Behind it the octets are those of the rest.
        have behind : (lead :: tail ++ encode rest)[n]? = (encode rest)[n - c.width]? := by
          rw [List.getElem?_append_right (by simp only [List.length_cons]; omega), List.length_cons, length]
        rw [behind]
        have inner := ih (n - c.width)
        constructor
        · rintro (start | ⟨m, bound, rfl⟩)
          · omega
          · rw [Nat.add_sub_cancel_left] at inner ⊢
            refine (inner.1 bound).imp (fun at_end => ?_) id
            omega
        · intro leads_or_end
          refine .inr ⟨n - c.width, inner.2 (leads_or_end.imp (fun at_end => ?_) id), by omega⟩
          omega

/-!
### Counting
-/

/-- A text has as many code points as lead octets. -/
theorem countP_lead_encode (t : Text) : t.encode.countP (fun octet => !isContinuation octet) = t.length := by
  induction t with
  | nil => rfl
  | cons c rest ih =>
      rcases c.encode_eq_lead_cons with ⟨lead, tail, split, leads, continue_all⟩
      have no_more : tail.countP (fun octet => !isContinuation octet) = 0 := by
        rw [List.countP_eq_zero]
        intro octet mem
        simp [continue_all octet mem]
      rw [encode_cons, List.countP_append, ih, split, List.countP_cons_of_pos (by simp [leads]), no_more,
        List.length_cons]
      omega

/-- A text has as many line feeds as octets that are one. -/
theorem count_newline_encode (t : Text) : t.encode.count 0x0A = t.count CodePoint.newline := by
  induction t with
  | nil => rfl
  | cons c rest ih =>
      rw [encode_cons, List.count_append, ih, List.count_cons]
      by_cases feed : c = CodePoint.newline
      · subst feed
        simp [Nat.add_comm, show CodePoint.newline.encode = [0x0A] from rfl]
      · rw [List.count_eq_zero_of_not_mem (CodePoint.newline_not_mem_encode feed)]
        simp [feed]

/-- What stands behind the last line feed, in octets, encodes what stands behind it. -/
theorem rtakeWhile_encode (t : Text) :
    t.encode.rtakeWhile (fun octet => octet ≠ 0x0A) =
      Text.encode (t.rtakeWhile fun c => c ≠ CodePoint.newline) := by
  induction t using List.reverseRecOn with
  | nil => rfl
  | append_singleton t c ih =>
      rw [encode_append, List.rtakeWhile_concat]
      by_cases feed : c = CodePoint.newline
      · subst feed
        rw [show encode [CodePoint.newline] = [0x0A] from rfl, List.rtakeWhile_concat]
        simp
      · have free : ∀ octet ∈ (encode [c]).reverse, decide (octet ≠ 0x0A) = true := by
          intro octet mem
          rw [decide_eq_true_eq]
          rintro rfl
          exact CodePoint.newline_not_mem_encode feed (by simpa using mem)
        rw [List.rtakeWhile, List.reverse_append, List.takeWhile_append_of_pos free, List.reverse_append,
          List.reverse_reverse, ← List.rtakeWhile, ih, if_pos (by simpa using feed), encode_append]

end Text

end Marginalia
