import HttpService.Encoding.Base64
/-! # Digits of six bits

Decoding gives back what was encoded (`decode?_encode`), and every digit of what can be decoded has a
value (`valued_of_decode?`). So encoded bytes are ASCII, and a byte without a value separates them. -/
set_option autoImplicit false

namespace HttpService.Base64

theorem value?_digit : ∀ value < 64, value? url (digit url value) = some value := by
  decide +kernel

theorem valued_of_decode? (alphabet : Alphabet) (digits : Bytes) {bytes : Bytes}
    (decoded : decode? alphabet digits = some bytes) :
    ∀ digit ∈ digits, ∃ value, value? alphabet digit = some value := by
  induction digits using decode?.induct generalizing bytes with
  | case1 a b c d rest ih =>
      simp only [decode?, Option.bind_eq_bind, Option.bind_eq_some_iff] at decoded
      obtain ⟨valueA, valuedA, valueB, valuedB, valueC, valuedC, valueD, valuedD, more, later, -⟩ :=
        decoded
      simp only [List.forall_mem_cons]
      exact ⟨⟨_, valuedA⟩, ⟨_, valuedB⟩, ⟨_, valuedC⟩, ⟨_, valuedD⟩, ih later⟩
  | case2 a b c =>
      simp only [decode?, Option.bind_eq_bind, Option.bind_eq_some_iff] at decoded
      obtain ⟨valueA, valuedA, valueB, valuedB, valueC, valuedC, -⟩ := decoded
      simp only [List.forall_mem_cons]
      exact ⟨⟨_, valuedA⟩, ⟨_, valuedB⟩, ⟨_, valuedC⟩, nofun⟩
  | case3 a b =>
      simp only [decode?, Option.bind_eq_bind, Option.bind_eq_some_iff] at decoded
      obtain ⟨valueA, valuedA, valueB, valuedB, -⟩ := decoded
      simp only [List.forall_mem_cons]
      exact ⟨⟨_, valuedA⟩, ⟨_, valuedB⟩, nofun⟩
  | case4 => simp [decode?] at decoded
  | case5 => nofun

theorem split_digit (group rest : Nat) : group / rest / 64 * 64 + group / rest % 64 = group / rest :=
  Nat.div_add_mod' (group / rest) 64

theorem three_digits (group : Nat) :
    group / 4096 * 4096 + group / 64 % 64 * 64 + group % 64 = group := by
  have low := split_digit group 1
  have middle := split_digit group 64
  rw [Nat.div_one] at low
  rw [Nat.div_div_eq_div_mul] at middle
  generalize group / 64 = more at low middle ⊢
  generalize group / 4096 = most at middle ⊢
  calc most * 4096 + more % 64 * 64 + group % 64
    _ = (most * 64 + more % 64) * 64 + group % 64 := by rw [Nat.add_mul, Nat.mul_assoc]
    _ = group := by rw [middle, low]

theorem four_digits (group : Nat) :
    group / 262144 * 262144 + group / 4096 % 64 * 4096 + group / 64 % 64 * 64 + group % 64 =
      group := by
  have low := three_digits group
  have high := split_digit group 4096
  rw [Nat.div_div_eq_div_mul] at high
  generalize group / 4096 = more at low high ⊢
  generalize group / 262144 = most at high ⊢
  calc most * 262144 + more % 64 * 4096 + group / 64 % 64 * 64 + group % 64
    _ = (most * 64 + more % 64) * 4096 + group / 64 % 64 * 64 + group % 64 := by
      rw [Nat.add_mul, Nat.mul_assoc]
    _ = group := by rw [high, low]

theorem decode?_encode (bytes : Bytes) : decode? url (encode url bytes) = some bytes := by
  have low (number : Nat) : value? url (digit url (number % 64)) = some (number % 64) :=
    value?_digit _ (Nat.mod_lt _ (by decide))
  have byte (original : UInt8) {number : Nat} (same : number = original.toNat) :
      UInt8.ofNat number = original := by
    rw [same, UInt8.ofNat_toNat]
  induction bytes using encode.induct with
  | case1 a b c rest ih =>
      have boundA := a.toNat_lt
      have boundB := b.toNat_lt
      have boundC := c.toNat_lt
      generalize digitsOf : a.toNat * 65536 + b.toNat * 256 + c.toNat = group
      have high : value? url (digit url (group / 262144)) = some (group / 262144) :=
        value?_digit _ (by omega)
      have first : UInt8.ofNat (group / 65536) = a := byte a (by omega)
      have second : UInt8.ofNat (group / 256 % 256) = b := byte b (by omega)
      have third : UInt8.ofNat (group % 256) = c := byte c (by omega)
      simp only [encode, digitsOf, decode?, high, low, ih, Option.bind_eq_bind, Option.bind_some]
      rw [four_digits, first, second, third]
      rfl
  | case2 a b =>
      have boundA := a.toNat_lt
      have boundB := b.toNat_lt
      generalize digitsOf : a.toNat * 1024 + b.toNat * 4 = group
      have high : value? url (digit url (group / 4096)) = some (group / 4096) :=
        value?_digit _ (by omega)
      have first : UInt8.ofNat (group / 1024) = a := byte a (by omega)
      have second : UInt8.ofNat (group / 4 % 256) = b := byte b (by omega)
      simp only [encode, digitsOf, decode?, high, low, Option.bind_eq_bind, Option.bind_some]
      rw [three_digits, if_pos (by omega), first, second]
      rfl
  | case3 a =>
      have boundA := a.toNat_lt
      generalize digitsOf : a.toNat * 16 = group
      have high : value? url (digit url (group / 64)) = some (group / 64) :=
        value?_digit _ (by omega)
      have first : UInt8.ofNat (group / 16) = a := byte a (by omega)
      simp only [encode, digitsOf, decode?, high, low, Option.bind_eq_bind, Option.bind_some]
      rw [Nat.div_add_mod', if_pos (by omega), first]
      rfl
  | case4 => rfl

theorem valued_of_mem_encode {bytes : Bytes} {byte : UInt8} (present : byte ∈ encode url bytes) :
    ∃ value, value? url byte = some value :=
  valued_of_decode? url _ (decode?_encode bytes) byte present

theorem ascii_of_value? {byte : UInt8} {value : Nat} (valued : value? url byte = some value) :
    byte.toNat ≤ 127 := by
  simp only [value?, Bool.and_eq_true, decide_eq_true_eq, UInt8.le_iff_toNat_le] at valued
  split at valued
  next bounds => exact Nat.le_trans bounds.2 (by decide)
  split at valued
  next bounds => exact Nat.le_trans bounds.2 (by decide)
  split at valued
  next bounds => exact Nat.le_trans bounds.2 (by decide)
  split at valued
  next same =>
    rw [same]
    decide
  split at valued
  next same =>
    rw [same]
    decide
  next => cases valued

end HttpService.Base64
