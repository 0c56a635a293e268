/-! # Powers

Powers of two, ten and 256, and how many words there are of 64 bits, in which differences wrap. -/
set_option autoImplicit false

namespace HttpService

def twoTo (exponent : Nat) : Nat := Nat.pow 2 exponent

def tenTo (exponent : Nat) : Nat := Nat.pow 10 exponent

def bytesTo (count : Nat) : Nat := Nat.pow 256 count

def wordCount : Nat := 18446744073709551616

/-- The difference of two 64-bit words: it wraps where the second is the larger. -/
def wordDifference (left right : Nat) : Nat :=
  if right ≤ left then left - right else left + wordCount - right

theorem sub_le_wordDifference (left right : Nat) : left - right ≤ wordDifference left right := by
  unfold wordDifference
  split
  · exact Nat.le_refl _
  · omega

theorem wordDifference_of_le {left right : Nat} (fits : right ≤ left) :
    wordDifference left right = left - right :=
  if_pos fits

end HttpService
