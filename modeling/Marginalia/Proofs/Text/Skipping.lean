/-
Module: Marginalia.Proofs.Text.Skipping
Purpose: Reading octets that break off. The reader that drops faulty sequences gives every whole character
  that it meets and nothing for the front of a character that was cut off. Of the octet form of a text
  without surrogates, cut anywhere, it therefore gives the longest prefix of the text that the octets left
  over have room for.
Main exports: Utf8.skipFrom_encode_append, Utf8.skipFrom_take_encode, Utf8.decodeSkipping_take_encode
-/

import Marginalia.Proofs.Text.Decoding

namespace Marginalia.Utf8

variable {p : Pending} {c : CodePoint}

/-- A sequence under way that is there to its end is read as one character. -/
theorem skipFrom_pending {next : UInt8} {further : Octets} (rest : Octets) (admitted : Within p.low p.high next)
    (count : further.length = p.due) (continue_all : ∀ octet ∈ further, Within 0x80 0xBF octet) :
    skipFrom (some p) (next :: (further ++ rest)) =
      CodePoint.ofNat (further.foldl extend (extend p.value next)) :: skipFrom none rest := by
  induction further generalizing p next with
  | nil =>
      have last : p.due = 0 := count.symm
      rw [skipFrom, if_pos (admits_iff.2 admitted), if_pos last]
      rfl
  | cons octet further ih =>
      rcases List.forall_mem_cons.1 continue_all with ⟨follows, continue_all⟩
      rw [List.length_cons] at count
      have due : further.length = (p.advance next).due := Nat.eq_sub_of_add_eq count
      rw [skipFrom, if_pos (admits_iff.2 admitted), if_neg (by omega), List.cons_append,
        ih (p := p.advance next) follows due continue_all, value_advance, List.foldl_cons]

/-- A sequence under way that breaks off gives nothing. -/
theorem skipFrom_pending_eq_nil {octets : Octets} (short : octets.length ≤ p.due)
    (admitted : ∀ octet ∈ octets.head?, Within p.low p.high octet)
    (continue_all : ∀ octet ∈ octets.tail, Within 0x80 0xBF octet) : skipFrom (some p) octets = [] := by
  induction octets generalizing p with
  | nil => rfl
  | cons octet octets ih =>
      rw [List.length_cons] at short
      rw [skipFrom, if_pos (admits_iff.2 (admitted octet rfl)), if_neg (by omega)]
      refine ih (p := p.advance octet) (Nat.le_sub_one_of_lt short) ?_ ?_
      · exact fun next is_next => continue_all next (List.mem_of_mem_head? is_next)
      · exact fun next mem => continue_all next (List.mem_of_mem_tail mem)

/-- A whole character in front is read. -/
theorem skipFrom_encode_append (scalar : c.isSurrogate = false) (rest : Octets) :
    skipFrom none (c.encode ++ rest) = c :: skipFrom none rest := by
  generalize encoded : c.encode = sequence
  have characters := sequence_encode scalar
  rw [encoded] at characters
  cases characters with
  | single small =>
      rw [List.singleton_append, skipFrom, opening_of_small small]
      rw [CodePoint.eq_of_encode_eq (encoded.trans (encode_single small).1.symm)]
  | several known leads follows count continue_all =>
      have same := encode_value known leads follows count continue_all
      rw [List.cons_append, skipFrom, opening_of_form known leads, List.cons_append]
      simp only
      rw [skipFrom_pending rest follows count continue_all,
        CodePoint.eq_of_encode_eq (encoded.trans same.1.symm), value, count, opened]

/-- The front of a character gives nothing. -/
theorem skipFrom_take_encode (scalar : c.isSurrogate = false) {n : Nat} (cut : n < c.width) :
    skipFrom none (c.encode.take n) = [] := by
  rw [← CodePoint.length_encode] at cut
  generalize c.encode = sequence, sequence_encode scalar = characters at cut
  rcases n with - | n
  · rfl
  cases characters with
  | single small => exact absurd cut (by simp)
  | @several form lead second further known leads follows count continue_all =>
      rw [List.length_cons, List.length_cons, count] at cut
      rw [List.take_succ_cons, skipFrom, opening_of_form known leads]
      refine skipFrom_pending_eq_nil ?_ ?_ ?_
      · rw [List.length_take]
        simp only
        omega
      · intro octet is_next
        rcases n with - | n
        · cases is_next
        · cases is_next
          exact follows
      · intro octet mem
        rcases n with - | n
        · exact absurd mem List.not_mem_nil
        · exact continue_all octet (List.mem_of_mem_take mem)

/-- The octet form of a text, cut anywhere, is read as the longest prefix that the octets left over have room
    for. -/
theorem decodeSkipping_take_encode {t : Text} (scalars : ∀ c ∈ t, c.isSurrogate = false) (n : Nat) :
    decodeSkipping (t.encode.take n) = t.prefixWithin n := by
  rw [decodeSkipping]
  induction t generalizing n with
  | nil => simp [skipFrom, Text.prefixWithin]
  | cons c rest ih =>
      rcases List.forall_mem_cons.1 scalars with ⟨scalar, scalars⟩
      rw [Text.encode_cons, Text.prefixWithin]
      split
      next fits =>
        rw [List.take_append, List.take_of_length_le (by rwa [CodePoint.length_encode]),
          skipFrom_encode_append scalar, CodePoint.length_encode, ih scalars]
      next cut =>
        rw [List.take_append_of_le_length (by rw [CodePoint.length_encode]; omega),
          skipFrom_take_encode scalar (Nat.lt_of_not_le cut)]

end Marginalia.Utf8
