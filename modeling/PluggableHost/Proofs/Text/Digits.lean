import PluggableHost.Text.Digits

namespace PluggableHost.Text

/-!
# Numbers written in digits

What the digits of a number are, for bases up to sixteen: digits of that base,
whose value is the number, and without a leading zero.
-/

/-- A character that stands for a digit has the value of that digit. -/
theorem digitValue?_digitChar
    {base digit : Nat}
    (small : digit < base)
    (known : base ≤ 16) :
    digitValue? base digit.digitChar = some digit := by
  have raw : ∀ value < 16, digitValue? 16 value.digitChar = some value := by
    decide
  have found := raw digit (by omega)
  unfold digitValue? at found ⊢
  simp only [Option.ite_none_right_eq_some, Option.some.injEq] at found ⊢
  obtain ⟨-, value⟩ := found
  rw [value]
  exact ⟨small, rfl⟩

/-- The character of a digit is a digit of every base above it. -/
theorem isDigitOf_digitChar
    {base digit : Nat}
    (small : digit < base)
    (known : base ≤ 16) :
    isDigitOf base digit.digitChar = true := by
  rw [isDigitOf, digitValue?_digitChar small known]
  rfl

/-- A digit of a base is one of every greater base. -/
theorem isDigitOf_mono
    {lesser greater : Nat}
    (le : lesser ≤ greater)
    {character : Char}
    (isDigit : isDigitOf lesser character = true) :
    isDigitOf greater character = true := by
  unfold isDigitOf digitValue? at isDigit ⊢
  simp only [Option.isSome_ite] at isDigit ⊢
  omega

/-- A digit is one of ASCII, and a letter only in a base beyond ten. -/
theorem code_of_isDigitOf
    {base : Nat}
    (known : base ≤ 16)
    {character : Char}
    (digit : isDigitOf base character = true) :
    (48 ≤ character.toNat ∧ character.toNat ≤ 57) ∨
      (10 < base ∧
        (97 ≤ character.toNat ∧ character.toNat ≤ 102 ∨
          65 ≤ character.toNat ∧ character.toNat ≤ 70)) := by
  unfold isDigitOf digitValue? at digit
  simp only [Option.isSome_ite, Bool.and_eq_true,
    decide_eq_true_eq] at digit
  split at digit
  · omega
  · split at digit
    · omega
    · split at digit <;> omega

/-- A number is written in digits of its base. -/
theorem isDigitOf_of_mem_toDigits
    {base number : Nat}
    (proper : 1 < base)
    (known : base ≤ 16)
    {character : Char}
    (member : character ∈ Nat.toDigits base number) :
    isDigitOf base character = true := by
  induction number using Nat.strongRecOn with
  | _ number inductionHypothesis =>
      rw [Nat.toDigits_eq_if proper] at member
      split at member
      · next small =>
          rw [List.mem_singleton.mp member]
          exact isDigitOf_digitChar small known
      · next large =>
          rcases List.mem_append.mp member with earlier | last
          · have shrinks : number / base < number :=
              Nat.div_lt_self (by omega) proper
            exact inductionHypothesis _ shrinks earlier
          · rw [List.mem_singleton.mp last]
            exact isDigitOf_digitChar (Nat.mod_lt _ (by omega)) known

/-- One more digit is worth its value and the others the base times theirs. -/
theorem digitsValue_append_singleton
    (base : Nat)
    (digits : List Char)
    (last : Char) :
    digitsValue base (digits ++ [last]) =
      digitsValue base digits * base +
        (digitValue? base last).getD 0 := by
  simp [digitsValue, List.foldl_append]

/-- The digits of a number have its value. -/
theorem digitsValue_toDigits
    {base : Nat}
    (proper : 1 < base)
    (known : base ≤ 16)
    (number : Nat) :
    digitsValue base (Nat.toDigits base number) = number := by
  induction number using Nat.strongRecOn with
  | _ number inductionHypothesis =>
      rw [Nat.toDigits_eq_if proper]
      split
      · next small =>
          simp [digitsValue, digitValue?_digitChar small known]
      · next large =>
          have shrinks : number / base < number :=
            Nat.div_lt_self (by omega) proper
          have last : number % base < base :=
            Nat.mod_lt _ (by omega)
          rw [digitsValue_append_singleton,
            inductionHypothesis _ shrinks,
            digitValue?_digitChar last known, Option.getD_some]
          exact Nat.div_add_mod' number base

/-- No number but zero is written with a leading zero. -/
theorem head?_toDigits_ne_zero
    {base number : Nat}
    (proper : 1 < base)
    (positive : 0 < number) :
    (Nat.toDigits base number).head? ≠ some '0' := by
  induction number using Nat.strongRecOn with
  | _ number inductionHypothesis =>
      rw [Nat.toDigits_eq_if proper]
      split
      · simpa using Nat.ne_of_gt positive
      · next large =>
          have shrinks : number / base < number :=
            Nat.div_lt_self positive proper
          have remains : 0 < number / base :=
            Nat.div_pos (by omega) (by omega)
          have earlier := inductionHypothesis _ shrinks remains
          cases shape : Nat.toDigits base (number / base) with
          | nil =>
              exact absurd shape Nat.toDigits_ne_nil
          | cons first others =>
              rw [shape] at earlier
              exact earlier

/-- Several digits have no leading zero. -/
theorem head?_toDigits_of_length
    {base number : Nat}
    (proper : 1 < base)
    (several : 1 < (Nat.toDigits base number).length) :
    (Nat.toDigits base number).head? ≠ some '0' := by
  apply head?_toDigits_ne_zero proper
  apply Nat.pos_of_ne_zero
  rintro rfl
  simp at several

/-! ## What stands after a number -/

/-- The text does not begin with a digit of a base. -/
def Undigited
    (base : Nat)
    (text : List Char) : Prop :=
  ∀ character ∈ text.head?, isDigitOf base character = false

/-- The empty text begins with no digit. -/
theorem undigited_nil (base : Nat) : Undigited base [] := by
  simp [Undigited]

/-- A text begins with no digit when its first character is none. -/
theorem undigited_cons
    {base : Nat}
    {character : Char}
    {rest : List Char} :
    Undigited base (character :: rest) ↔
      isDigitOf base character = false := by
  simp [Undigited]

/-- A text that begins with no digit of a base begins with none of a lesser one. -/
theorem Undigited.mono
    {lesser greater : Nat}
    {text : List Char}
    (undigited : Undigited greater text)
    (le : lesser ≤ greater) :
    Undigited lesser text := by
  intro character first
  have other := undigited character first
  exact Bool.eq_false_iff.mpr fun isDigit =>
    Bool.eq_false_iff.mp other (isDigitOf_mono le isDigit)

/-- No digits are taken from a text that begins with none. -/
theorem Undigited.takeWhile
    {base : Nat}
    {text : List Char}
    (undigited : Undigited base text) :
    text.takeWhile (isDigitOf base) = [] := by
  cases text with
  | nil =>
      rfl
  | cons character rest =>
      simp [undigited_cons.mp undigited]

/-- No digits are dropped from a text that begins with none. -/
theorem Undigited.dropWhile
    {base : Nat}
    {text : List Char}
    (undigited : Undigited base text) :
    text.dropWhile (isDigitOf base) = text := by
  cases text with
  | nil =>
      rfl
  | cons character rest =>
      simp [undigited_cons.mp undigited]

end PluggableHost.Text
