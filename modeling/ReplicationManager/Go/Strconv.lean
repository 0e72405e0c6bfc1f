import Mathlib.Data.BitVec
import Mathlib.Data.Nat.Digits

namespace ReplicationManager.Go.Strconv

-- One character of `strconv.ParseUint`'s loop in base 10 (which admits no underscores).
def decimalStep (acc : Option Nat) (c : Char) : Option Nat :=
  acc.bind fun n => if c.isDigit then some (10 * n + (c.toNat - '0'.toNat)) else none

-- The value of a run of decimal digits, none for an empty run or any other character.
def parseDecimal (digits : List Char) : Option Nat :=
  if digits = [] then none else digits.foldl decimalStep (some 0)

-- `strconv.ParseInt(s, 10, 64)` up to its error value: an optional sign, then
-- `ParseUint`'s digits, then the cutoff 2^63 on each side. `ParseUint`'s own range
-- error (a value of 2^64 or more) ends in the same cutoff, so one check covers both.
def parseInt (s : String) : Option (BitVec 64) :=
  match s.toList with
  | [] => none
  | c :: rest =>
      let (neg, digits) :=
        if c = '+' then (false, rest) else if c = '-' then (true, rest) else (false, c :: rest)
      match parseDecimal digits with
      | none => none
      | some un =>
          if !neg && 2 ^ 63 ≤ un then none
          else if neg && 2 ^ 63 < un then none
          else some (if neg then -BitVec.ofNat 64 un else BitVec.ofNat 64 un)

-- `strconv.FormatInt(i, 10)`: the decimal form of the signed value.
def formatInt (i : BitVec 64) : String := toString i.toInt

-- `FormatInt` prints through `Nat.toDigits`; `ParseInt` reads that back.

theorem digitChar_isDigit : ∀ m < 10, (Nat.digitChar m).isDigit = true ∧
    (Nat.digitChar m).toNat - '0'.toNat = m := by
  decide

-- Read from any accumulator, the printed digits of `n` shift it left and add `n`.
theorem foldl_toDigitsCore (fuel n : Nat) (ds : List Char) (hn : n < fuel) :
    ∃ k, ∀ acc, (Nat.toDigitsCore 10 fuel n ds).foldl decimalStep (some acc) =
      ds.foldl decimalStep (some (acc * 10 ^ k + n)) := by
  induction fuel generalizing n ds with
  | zero => omega
  | succ fuel ih =>
      obtain ⟨hdig, hval⟩ := digitChar_isDigit (n % 10) (Nat.mod_lt _ (by omega))
      simp only [Nat.toDigitsCore]
      split
      · next h0 =>
        refine ⟨1, fun acc => ?_⟩
        simp only [List.foldl_cons, decimalStep, Option.some_bind, hdig, hval, if_true]
        congr 2
        omega
      · next h0 =>
        obtain ⟨k, hk⟩ := ih (n / 10) (Nat.digitChar (n % 10) :: ds) (by omega)
        refine ⟨k + 1, fun acc => ?_⟩
        simp only [hk, List.foldl_cons, decimalStep, Option.some_bind, hdig, hval, if_true,
          pow_succ]
        congr 2
        rw [← Nat.mul_assoc]
        omega

theorem isDigit_of_mem_toDigitsCore (fuel n : Nat) (ds : List Char) (c : Char)
    (hc : c ∈ Nat.toDigitsCore 10 fuel n ds) : c ∈ ds ∨ c.isDigit = true := by
  induction fuel generalizing n ds with
  | zero => exact .inl hc
  | succ fuel ih =>
      have hdig := (digitChar_isDigit (n % 10) (Nat.mod_lt _ (by omega))).1
      simp only [Nat.toDigitsCore] at hc
      split at hc
      · rcases List.mem_cons.mp hc with rfl | h
        · exact .inr hdig
        · exact .inl h
      · rcases ih _ _ hc with h | h
        · rcases List.mem_cons.mp h with rfl | h
          · exact .inr hdig
          · exact .inl h
        · exact .inr h

theorem toDigits_ne_nil (n : Nat) : Nat.toDigits 10 n ≠ [] := by
  simp only [Nat.toDigits, Nat.toDigitsCore]
  split
  · simp
  · exact List.ne_nil_of_length_pos (by rw [Nat.toDigitsCore_lens_eq]; omega)

theorem parseDecimal_toDigits (n : Nat) : parseDecimal (Nat.toDigits 10 n) = some n := by
  obtain ⟨k, hk⟩ := foldl_toDigitsCore (n + 1) n [] (by omega)
  simpa [parseDecimal, toDigits_ne_nil] using hk 0

-- A printed natural number starts with a digit, so `ParseInt` reads no sign from it.
theorem head_toDigits (m : Nat) :
    ∃ c rest, Nat.toDigits 10 m = c :: rest ∧ c ≠ '+' ∧ c ≠ '-' := by
  obtain ⟨c, rest, hd⟩ := List.exists_cons_of_ne_nil (toDigits_ne_nil m)
  have hc : c.isDigit = true :=
    (isDigit_of_mem_toDigitsCore _ _ _ c (hd ▸ List.mem_cons_self c rest)).resolve_left (by simp)
  exact ⟨c, rest, hd, fun h => absurd (h ▸ hc) (by decide), fun h => absurd (h ▸ hc) (by decide)⟩

theorem parseInt_repr (m : Nat) (hm : m < 2 ^ 63) :
    parseInt (Nat.repr m) = some (BitVec.ofNat 64 m) := by
  obtain ⟨c, rest, hd, hplus, hminus⟩ := head_toDigits m
  have hm' : ¬ 2 ^ 63 ≤ m := by omega
  have hp := parseDecimal_toDigits m
  rw [hd] at hp
  show parseInt ⟨Nat.toDigits 10 m⟩ = _
  simp only [parseInt, String.toList, hd, hplus, hminus, if_false, hp, decide_eq_false hm',
    Bool.not_false, Bool.and_false, Bool.false_and, Bool.false_eq_true]

theorem parseInt_neg_repr (m : Nat) (hm : m ≤ 2 ^ 63) :
    parseInt ("-" ++ Nat.repr m) = some (-BitVec.ofNat 64 m) := by
  show parseInt ⟨'-' :: Nat.toDigits 10 m⟩ = _
  simp [parseInt, parseDecimal_toDigits]
  omega

-- `ParseInt(FormatInt(i, 10), 10, 64)` gives back `i` for every int64.
theorem parseInt_formatInt (i : BitVec 64) : parseInt (formatInt i) = some i := by
  have hcond := BitVec.toInt_eq_toNat_cond i
  have hlt := i.isLt
  rw [formatInt]
  cases h : i.toInt with
  | ofNat m =>
      rw [h, Int.ofNat_eq_coe] at hcond
      have hm : i.toNat = m := by split at hcond <;> omega
      rw [show toString (Int.ofNat m) = Nat.repr m from rfl,
        parseInt_repr m (by split at hcond <;> omega)]
      exact congrArg some (BitVec.eq_of_toNat_eq (by simp [hm]; omega))
  | negSucc m =>
      rw [h, Int.negSucc_coe] at hcond
      have hm : i.toNat = 2 ^ 64 - (m + 1) := by split at hcond <;> omega
      rw [show toString (Int.negSucc m) = "-" ++ Nat.repr (m + 1) from rfl,
        parseInt_neg_repr (m + 1) (by split at hcond <;> omega)]
      exact congrArg some (BitVec.eq_of_toNat_eq (by simp [hm]; omega))

-- A printed int64 is a sign and digits, so it never breaks a line of text it is part of.
theorem mem_formatInt (i : BitVec 64) (c : Char) (hc : c ∈ (formatInt i).toList) :
    c = '-' ∨ c.isDigit = true := by
  have hdigit : ∀ m, c ∈ Nat.toDigits 10 m → c.isDigit = true := fun m h =>
    (isDigit_of_mem_toDigitsCore _ _ _ c h).resolve_left (by simp)
  rw [formatInt] at hc
  generalize i.toInt = n at hc
  cases n with
  | ofNat m => exact .inr (hdigit m hc)
  | negSucc m =>
      rcases List.mem_cons.mp (show c ∈ '-' :: Nat.toDigits 10 (m + 1) from hc) with h | h
      · exact .inl h
      · exact .inr (hdigit _ h)

end ReplicationManager.Go.Strconv
