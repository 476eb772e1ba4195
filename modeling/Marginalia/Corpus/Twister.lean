/-
Module: Marginalia.Corpus.Twister
Purpose: A sampler that is the same on every machine: the 19937-bit twister over 624 words, seeded from the
  32-bit words of an integer. A number below a bound is drawn by rejection, from as many high bits of an
  output as the bound has; a point of the unit interval takes 27 bits of one output and 26 of the next.
Main exports: Twister, Twister.ofSeed, Twister.next, Twister.sampler
-/

import Marginalia.Corpus.Sampler

namespace Marginalia

/-- The words of the generator and the index of the next one to be given out. -/
structure Twister where
  words : Array UInt32
  index : Nat

namespace Twister

/-- The number of words. -/
def size : Nat := 624

/-- The distance to the word that is mixed into each. -/
def middle : Nat := 397

/-- Words from a single one; each comes from the one before it. -/
def fill (seed : UInt32) : Array UInt32 :=
  (List.range (size - 1)).foldl (fun (words : Array UInt32) i =>
    let last := words.getD i 0
    words.push ((1812433253 : UInt32) * (last ^^^ (last >>> 30)) + UInt32.ofNat (i + 1))) #[seed]

/-- Stir words with a multiplier, going round from index `i` on for a number of steps. At the end of the
    round the last word also becomes the first. `extra` is what each step adds. -/
def stir (multiplier : UInt32) (extra : Nat → Nat → UInt32) (start : Array UInt32 × Nat) (steps : Nat) :
    Array UInt32 × Nat :=
  (List.range steps).foldl (fun ((words, i) : Array UInt32 × Nat) k =>
    let last := words.getD (i - 1) 0
    let word := (words.getD i 0 ^^^ ((last ^^^ (last >>> 30)) * multiplier)) + extra k i
    let words := words.setIfInBounds i word
    if size ≤ i + 1 then (words.setIfInBounds 0 word, 1) else (words, i + 1)) start

/-- The 32-bit words of a number, the lowest first. Zero has one word. -/
def wordsOf (fuel n : Nat) : List UInt32 :=
  match fuel with
  | 0 => [UInt32.ofNat n]
  | fuel + 1 =>
    if n < UInt32.size then [UInt32.ofNat n]
    else UInt32.ofNat (n % UInt32.size) :: wordsOf fuel (n / UInt32.size)

/-- The generator of a seed; a seed and its negative give the same one. -/
def ofSeed (seed : Int) : Twister :=
  let key := (wordsOf (seed.natAbs.log2 / 32) seed.natAbs).toArray
  let (words, i) := stir 1664525
    (fun k _ => key.getD (k % key.size) 0 + UInt32.ofNat (k % key.size)) (fill 19650218, 1) (max size key.size)
  let (words, _) := stir 1566083941 (fun _ i => 0 - UInt32.ofNat i) (words, i) (size - 1)
  ⟨words.setIfInBounds 0 0x80000000, size⟩

/-- The next 624 words. -/
def renew (words : Array UInt32) : Array UInt32 :=
  (List.range size).foldl (fun (words : Array UInt32) k =>
    let mixed := (words.getD k 0 &&& 0x80000000) ||| (words.getD ((k + 1) % size) 0 &&& 0x7FFFFFFF)
    let odd : UInt32 := if mixed &&& 1 = 0 then 0 else 0x9908B0DF
    words.setIfInBounds k (words.getD ((k + middle) % size) 0 ^^^ (mixed >>> 1) ^^^ odd)) words

/-- A word made even over all its bits. -/
def temper (word : UInt32) : UInt32 :=
  let word := word ^^^ (word >>> 11)
  let word := word ^^^ ((word <<< 7) &&& 0x9D2C5680)
  let word := word ^^^ ((word <<< 15) &&& 0xEFC60000)
  word ^^^ (word >>> 18)

/-- The next output. -/
def next : StateM Twister UInt32 := fun t =>
  let t := if size ≤ t.index then ⟨renew t.words, 0⟩ else t
  (temper (t.words.getD t.index 0), ⟨t.words, t.index + 1⟩)

/-- The high bits of the next output. -/
def bits (count : Nat) : StateM Twister Nat := do
  let word ← next
  return (word >>> UInt32.ofNat (32 - count)).toNat

/-- A number below a bound by rejection, in at most so many tries. Nothing shows that every state of the
    twister has an acceptable output ahead, so the tries are counted to make the draw end, and a draw that
    runs out of them is zero. Rejection without a limit would go on drawing there; it agrees with this draw
    wherever one of the tries is accepted, and each is with a probability of at least one half. -/
def tryBelow (n : Nat) (n_pos : 0 < n) : Nat → StateM Twister (Fin n)
  | 0 => return ⟨0, n_pos⟩
  | tries + 1 => do
    let k ← bits (n.log2 + 1)
    if h : k < n then return ⟨k, h⟩ else tryBelow n n_pos tries

/-- The twister as a sampler. A number below a bound has 4096 tries, after which it is zero. -/
def sampler : Sampler Twister where
  below n n_pos := tryBelow n n_pos 4096
  unit := do
    let high ← bits 27
    let low ← bits 26
    let parts := high * 67108864 + low
    return ⟨parts % unitParts, Nat.mod_lt parts unitParts_pos⟩

end Twister

end Marginalia
