/-!
Words of sixty-four bits, as natural numbers up to the largest one. Counting goes round: behind the
largest word comes zero.
-/

namespace DigitalTwin

/-- The largest word of sixty-four bits. -/
def maxWord : Nat := Nat.pow 2 64 - 1

/-- The word behind a word. -/
def nextWord (n : Nat) : Nat := if n < maxWord then n + 1 else 0

theorem nextWord_of_lt {n : Nat} (h : n < maxWord) : nextWord n = n + 1 := if_pos h

theorem nextWord_le (n : Nat) : nextWord n ≤ maxWord := by
  unfold nextWord
  split
  · assumption
  · exact Nat.zero_le _

end DigitalTwin
