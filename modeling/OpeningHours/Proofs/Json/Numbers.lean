import OpeningHours.Json.Reader
import OpeningHours.Json.Writer
import OpeningHours.Proofs.Decimal.Shortest

/-
Numbers that are written in JSON are read back as they were. The digits of a whole number are read
as that number as long as nothing that could belong to a number stands behind them. A number of
double precision is written as a decimal in one of three layouts; in each of them it is read as the
decimal that the digits stand for, and this is brought to the point of the grid which it came from,
since that point attracts it.
-/

namespace OpeningHours.Json

open Text

/-! ### Parts of numbers -/

/-- A character that can go on with a number. -/
def goesOn (char : Char) : Bool :=
  char.isDigit || char = '.' || char = 'e' || char = 'E'

/-- Nothing stands here that could go on with a number. -/
def NumberEnds (rest : List Char) : Prop :=
  ∀ char ∈ rest.head?, goesOn char = false

/-- No digit stands here. -/
def DigitsEnd (rest : List Char) : Prop :=
  ∀ char ∈ rest.head?, char.isDigit = false

theorem NumberEnds.digitsEnd {rest : List Char} (ends : NumberEnds rest) : DigitsEnd rest := by
  intro char first
  have nothing := ends char first
  simp only [goesOn, Bool.or_eq_false_iff] at nothing
  exact nothing.1.1.1

theorem digitsEnd_cons {char : Char} (noDigit : char.isDigit = false) (rest : List Char) :
    DigitsEnd (char :: rest) := by
  rintro first ⟨⟩
  exact noDigit

/-- Digits are taken up to where they end. -/
theorem spanDigits_append {digits rest : List Char} (all : digits.all Char.isDigit = true)
    (ends : DigitsEnd rest) : spanDigits (digits ++ rest) = (digits, rest) := by
  have all := List.all_eq_true.mp all
  have stop : rest.takeWhile Char.isDigit = [] ∧ rest.dropWhile Char.isDigit = rest := by
    cases rest with
    | nil => exact ⟨rfl, rfl⟩
    | cons char rest => simp [ends char rfl]
  rw [spanDigits, List.takeWhile_append_of_pos all, List.dropWhile_append_of_pos all, stop.1,
    stop.2, List.append_nil]

theorem readFraction_none {rest : List Char} (noPoint : ∀ after, rest ≠ '.' :: after) :
    readFraction rest = some (none, rest) := by
  rw [readFraction]
  exact noPoint

theorem readFraction_some {digits rest : List Char} (nonempty : digits ≠ [])
    (all : digits.all Char.isDigit = true) (ends : DigitsEnd rest) :
    readFraction ('.' :: (digits ++ rest)) = some (some digits, rest) := by
  rw [readFraction, spanDigits_append all ends]
  cases digits with
  | nil => exact absurd rfl nonempty
  | cons first others => rfl

theorem NumberEnds.ne_point {rest : List Char} (ends : NumberEnds rest) :
    ∀ after, rest ≠ '.' :: after := by
  rintro after rfl
  exact absurd (ends '.' rfl) (by decide)

theorem readExponent_none {rest : List Char} (ends : NumberEnds rest) :
    readExponent rest = some (none, rest) := by
  cases rest with
  | nil => rfl
  | cons char rest =>
    have unmarked : ¬ (char = 'e' ∨ char = 'E') := by
      rintro (rfl | rfl)
      all_goals exact absurd (ends _ rfl) (by decide)
    rw [readExponent, if_neg unmarked]

/-- An exponent is read with its sign. -/
theorem readExponent_some {exponent : Int} {rest : List Char} (ends : NumberEnds rest) :
    readExponent ('e' :: (if exponent < 0 then '-' else '+') ::
      (Numeral.padZeros 2 (Numeral.ofNat exponent.natAbs) ++ rest)) =
        some (some exponent, rest) := by
  have all := Numeral.padZeros_all_isDigit 2 (Numeral.ofNat_all_isDigit exponent.natAbs)
  have span := spanDigits_append all ends.digitsEnd
  have someDigits : Numeral.padZeros 2 (Numeral.ofNat exponent.natAbs) ≠ [] :=
    List.append_ne_nil_of_right_ne_nil _ (Numeral.ofNat_ne_nil _)
  have size : Numeral.value (Numeral.padZeros 2 (Numeral.ofNat exponent.natAbs)) =
      exponent.natAbs := by
    rw [Numeral.value_padZeros, Numeral.value_ofNat]
  generalize Numeral.padZeros 2 (Numeral.ofNat exponent.natAbs) = digits at *
  have split : Numeral.splitSign ((if exponent < 0 then '-' else '+') :: (digits ++ rest)) =
      (if exponent < 0 then -1 else 1, digits ++ rest) := by
    split <;> rfl
  have signed : (if exponent < 0 then -1 else 1) * (exponent.natAbs : Int) = exponent := by
    split <;> omega
  cases digits with
  | nil => exact absurd rfl someDigits
  | cons first others =>
    rw [readExponent, if_pos (Or.inl rfl), split]
    dsimp only
    rw [span]
    dsimp only
    rw [size, signed]

/-! ### Whole parts -/

/-- The digits can be the whole part of a number: there are some, and the first of several is no
zero. -/
structure IsWhole (digits : List Char) : Prop where
  nonempty : digits ≠ []
  all : digits.all Char.isDigit = true
  leading : ¬ (digits.head? = some '0' ∧ 1 < digits.length)

theorem isWhole_ofNat (number : Nat) : IsWhole (Numeral.ofNat number) where
  nonempty := Numeral.ofNat_ne_nil number
  all := Numeral.ofNat_all_isDigit number
  leading := by
    rintro ⟨zero, long⟩
    cases number with
    | zero => exact absurd long (by decide)
    | succ number => exact Numeral.head?_ofNat (Nat.succ_pos number) zero

theorem IsWhole.exists_first {digits : List Char} (isWhole : IsWhole digits) :
    ∃ first others, digits = first :: others ∧ first.isDigit = true := by
  have all := isWhole.all
  cases digits with
  | nil => exact absurd rfl isWhole.nonempty
  | cons first others =>
    rw [List.all_cons, Bool.and_eq_true] at all
    exact ⟨first, others, rfl, all.1⟩

theorem IsWhole.exists_first_append {digits : List Char} (isWhole : IsWhole digits)
    (rest : List Char) :
    ∃ first others, digits ++ rest = first :: others ∧ first.isDigit = true := by
  obtain ⟨first, others, rfl, digit⟩ := isWhole.exists_first
  exact ⟨first, others ++ rest, rfl, digit⟩

/-- The sign in front of digits is told apart from them. -/
theorem IsWhole.sign {whole : List Char} (isWhole : IsWhole whole) (negative : Bool)
    (rest : List Char) :
    decide ((Decimal.withSign negative (whole ++ rest)).head? = some '-') = negative ∧
      (if negative then (Decimal.withSign negative (whole ++ rest)).drop 1
        else Decimal.withSign negative (whole ++ rest)) = whole ++ rest := by
  cases negative with
  | true => exact ⟨rfl, rfl⟩
  | false =>
    obtain ⟨first, others, rfl, digit⟩ := isWhole.exists_first
    refine ⟨decide_eq_false ?_, rfl⟩
    rintro ⟨⟩
    cases digit

section

variable (negative : Bool) {whole rest after last : List Char}

/-- Digits alone are read as a whole number. -/
theorem readDigits_int (isWhole : IsWhole whole) (ends : NumberEnds rest) :
    readDigits (Decimal.withSign negative (whole ++ rest)) =
      some (.int (if negative then -(Numeral.value whole : Int) else Numeral.value whole),
        rest) := by
  obtain ⟨sign, unsigned⟩ := isWhole.sign negative rest
  have span := spanDigits_append isWhole.all ends.digitsEnd
  rw [readDigits]
  simp only [sign, unsigned, span, isWhole.nonempty, isWhole.leading, or_self, if_false,
    readFraction_none ends.ne_point, readExponent_none ends, Option.bind_eq_bind,
    Option.bind_some]

/-- Digits with a fraction or an exponent behind them are read as a number of double precision. -/
theorem readDigits_real {fraction : Option (List Char)} {exponent : Option Int}
    (isWhole : IsWhole whole) (ends : DigitsEnd rest)
    (readsFraction : readFraction rest = some (fraction, after))
    (readsExponent : readExponent after = some (exponent, last))
    (isReal : fraction.isSome ∨ exponent.isSome) :
    readDigits (Decimal.withSign negative (whole ++ rest)) =
      some (.real (.ofDecimal negative (Numeral.value (whole ++ fraction.getD []))
        (exponent.getD 0 - (fraction.getD []).length)), last) := by
  obtain ⟨sign, unsigned⟩ := isWhole.sign negative rest
  have span := spanDigits_append isWhole.all ends
  rw [readDigits]
  simp only [sign, unsigned, span, isWhole.nonempty, isWhole.leading, or_self, if_false,
    readsFraction, readsExponent, Option.bind_eq_bind, Option.bind_some]
  cases fraction with
  | some digits => rfl
  | none =>
    cases exponent with
    | some power => rfl
    | none => exact absurd isReal (by simp)

end

/-! ### Layouts of decimals -/

/-- The text begins with a digit, and behind a sign, if there is one, it is read as a decimal that
comes to the value. -/
structure ReadsDecimal (text : List Char) (value : Rat) : Prop where
  begins : ∃ first others, text = first :: others ∧ first.isDigit = true
  read : ∃ (significand : Nat) (exponent : Int), (significand : Rat) * 10 ^ exponent = value ∧
    ∀ negative rest, NumberEnds rest → readDigits (Decimal.withSign negative (text ++ rest)) =
      some (.real (.ofDecimal negative significand exponent), rest)

section

variable {number : Decimal.Digits}

/-- Digits behind the point, perhaps with zeros in front of them. -/
theorem readsDecimal_small (isProper : number.IsProper) (small : number.place ≤ 0) :
    ReadsDecimal (['0', '.'] ++ List.replicate (-number.place).toNat '0' ++ number.digits)
      number.value := by
  have all : (List.replicate (-number.place).toNat '0' ++ number.digits).all Char.isDigit =
      true := by
    rw [List.all_append, isProper.all, List.all_replicate]
    simp
  have someDigits : List.replicate (-number.place).toNat '0' ++ number.digits ≠ [] :=
    List.append_ne_nil_of_right_ne_nil _ isProper.nonempty
  have significand : Numeral.value
      (['0'] ++ (List.replicate (-number.place).toNat '0' ++ number.digits)) =
        Numeral.value number.digits :=
    (Numeral.value_replicate_append 1 _).trans (Numeral.value_replicate_append _ _)
  have power : (0 : Int) - (List.replicate (-number.place).toNat '0' ++ number.digits).length =
      number.place - number.digits.length := by
    rw [List.length_append, List.length_replicate]
    omega
  refine ⟨⟨_, _, rfl, rfl⟩, Numeral.value number.digits, number.place - number.digits.length, rfl,
    fun negative rest ends => ?_⟩
  have whole : IsWhole ['0'] := ⟨by decide, by decide, by decide⟩
  have read := readDigits_real negative whole (digitsEnd_cons (by decide) _)
    (readFraction_some someDigits all ends.digitsEnd) (readExponent_none ends) (.inl rfl)
  rw [Option.getD_some, Option.getD_none, significand, power] at read
  rw [← read]
  simp only [List.append_assoc, List.cons_append, List.nil_append]

/-- Digits on both sides of the point. -/
theorem readsDecimal_mixed (isProper : number.IsProper) (large : 0 < number.place)
    (long : number.place.toNat < number.digits.length) :
    ReadsDecimal (number.digits.take number.place.toNat ++
      '.' :: number.digits.drop number.place.toNat) number.value := by
  have parts := List.take_append_drop number.place.toNat number.digits
  have all := isProper.all
  rw [← parts, List.all_append, Bool.and_eq_true] at all
  have someDigits : number.digits.drop number.place.toNat ≠ [] := by
    rw [ne_eq, List.drop_eq_nil_iff]
    omega
  have whole : IsWhole (number.digits.take number.place.toNat) := by
    refine ⟨?_, all.1, fun zero => isProper.leading ?_⟩
    · rw [ne_eq, List.take_eq_nil_iff]
      exact not_or.mpr ⟨by omega, isProper.nonempty⟩
    · rw [← zero.1, List.head?_take, if_neg (by omega)]
  have power : (0 : Int) - (number.digits.drop number.place.toNat).length =
      number.place - number.digits.length := by
    rw [List.length_drop]
    omega
  refine ⟨whole.exists_first_append _, Numeral.value number.digits,
    number.place - number.digits.length, rfl, fun negative rest ends => ?_⟩
  have read := readDigits_real negative whole (digitsEnd_cons (by decide) _)
    (readFraction_some someDigits all.2 ends.digitsEnd) (readExponent_none ends) (.inl rfl)
  rw [Option.getD_some, Option.getD_none, parts, power] at read
  rw [← read, List.append_assoc, List.cons_append]

/-- Digits in front of the point, perhaps with zeros behind them, and a zero behind the point. -/
theorem readsDecimal_large (isProper : number.IsProper)
    (short : number.digits.length ≤ number.place.toNat) :
    ReadsDecimal (number.digits ++
      List.replicate (number.place.toNat - number.digits.length) '0' ++ '.' :: ['0'])
        number.value := by
  obtain ⟨zeros, isZeros⟩ := Nat.exists_eq_add_of_le short
  rw [isZeros, Nat.add_sub_cancel_left]
  have someDigits : 0 < number.digits.length := List.length_pos_iff.mpr isProper.nonempty
  have place : number.place - number.digits.length = zeros := by omega
  have whole : IsWhole (number.digits ++ List.replicate zeros '0') := by
    refine ⟨List.append_ne_nil_of_left_ne_nil isProper.nonempty _, ?_, fun zero => ?_⟩
    · rw [List.all_append, isProper.all, List.all_replicate]
      simp
    · rw [List.head?_append_of_ne_nil _ isProper.nonempty] at zero
      exact isProper.leading zero.1
  have significand : Numeral.value (number.digits ++ List.replicate zeros '0' ++ ['0']) =
      Numeral.value number.digits * 10 ^ (zeros + 1) := by
    rw [List.append_assoc, ← List.replicate_succ', Numeral.value_append_replicate]
  refine ⟨whole.exists_first_append _, Numeral.value number.digits * 10 ^ (zeros + 1), -1, ?_,
    fun negative rest ends => ?_⟩
  · rw [Decimal.Digits.value, place, zpow_natCast, pow_succ]
    push_cast
    ring
  · have read := readDigits_real negative whole (digitsEnd_cons (by decide) _)
      (@readFraction_some ['0'] rest (by decide) (by decide) ends.digitsEnd)
      (readExponent_none ends) (.inl rfl)
    rw [Option.getD_some, Option.getD_none, significand] at read
    rw [List.append_assoc, List.cons_append, read]
    rfl

/-- One digit in front of the point, the others behind it if there are any, and an exponent. -/
theorem readsDecimal_exponent (isProper : number.IsProper) :
    ReadsDecimal
      ((match number.digits with
        | first :: second :: rest => first :: '.' :: second :: rest
        | short => short) ++ ['e', if number.place - 1 < 0 then '-' else '+'] ++
          Numeral.padZeros 2 (Numeral.ofNat (number.place - 1).natAbs)) number.value := by
  obtain ⟨digits, place⟩ := number
  obtain ⟨someDigits, all, -⟩ := isProper
  dsimp only at someDigits all ⊢
  have noDigit (rest : List Char) : DigitsEnd ('e' :: (if place - 1 < 0 then '-' else '+') ::
      (Numeral.padZeros 2 (Numeral.ofNat (place - 1).natAbs) ++ rest)) :=
    digitsEnd_cons (by decide) _
  match digits with
  | [] => exact absurd rfl someDigits
  | [digit] =>
    have whole : IsWhole [digit] := ⟨someDigits, all, fun zero => Nat.lt_irrefl 1 zero.2⟩
    refine ⟨whole.exists_first_append _, Numeral.value [digit], place - [digit].length, rfl,
      fun negative rest ends => ?_⟩
    have read := readDigits_real negative whole (noDigit rest)
      (readFraction_none (by rintro _ ⟨⟩)) (readExponent_some ends) (.inr rfl)
    simpa using read
  | first :: second :: others =>
    rw [List.all_cons, Bool.and_eq_true] at all
    have whole : IsWhole [first] :=
      ⟨List.cons_ne_nil _ _, by simpa using all.1, fun zero => Nat.lt_irrefl 1 zero.2⟩
    have power : place - 1 - (second :: others).length =
        place - (first :: second :: others).length := by
      simp only [List.length_cons]
      omega
    refine ⟨⟨first, _, rfl, all.1⟩, Numeral.value (first :: second :: others),
      place - (first :: second :: others).length, rfl, fun negative rest ends => ?_⟩
    have read := readDigits_real negative whole (digitsEnd_cons (by decide) _)
      (readFraction_some (List.cons_ne_nil second others) all.2 (noDigit rest))
      (readExponent_some ends) (.inl rfl)
    rw [Option.getD_some, Option.getD_some, power, List.singleton_append] at read
    simpa using read

theorem readsDecimal_layOut (isProper : number.IsProper) :
    ReadsDecimal (Decimal.layOut number) number.value := by
  unfold Decimal.layOut
  dsimp only
  split
  · split
    · next small => exact readsDecimal_small isProper small
    · next large =>
      by_cases long : number.place.toNat < number.digits.length
      · have noZeros : number.place.toNat - number.digits.length = 0 := by omega
        have fraction : (number.digits.drop number.place.toNat).isEmpty = false := by
          rw [List.isEmpty_eq_false_iff, ne_eq, List.drop_eq_nil_iff]
          omega
        rw [noZeros, List.replicate_zero, List.append_nil, fraction, if_neg Bool.false_ne_true,
          List.append_assoc, List.singleton_append]
        exact readsDecimal_mixed isProper (by omega) long
      · have short : number.digits.length ≤ number.place.toNat := Nat.not_lt.mp long
        rw [List.take_of_length_le short, List.drop_of_length_le short, List.isEmpty_nil,
          if_pos rfl, List.append_assoc _ ['.'], List.singleton_append]
        exact readsDecimal_large isProper short
  · exact readsDecimal_exponent isProper

end

/-! ### Numbers of double precision -/

/-- What a point attracts is far from the ends of the range of decimals. -/
theorem between_of_attracts {point : Decimal.GridPoint} (isCanonical : point.IsCanonical)
    (nonzero : 0 < point.significand) (small : point.value < Double.limit) {value : Rat}
    (attracted : point.attracts value = true) :
    (10 : Rat) ^ (-400 : Int) ≤ value ∧ value < 10 ^ (400 : Int) := by
  obtain ⟨low, high, -⟩ := Decimal.GridPoint.within_of_attracts attracted
  have narrower := point.stepBelow_le
  have first := Decimal.GridPoint.step_le nonzero
  have finest := isCanonical.finest_le nonzero
  have limit : Double.limit * 2 ≤ 2 ^ (1075 : Int) := by
    rw [Double.limit, Decimal.powerOfTwo_eq, ← zpow_add_one₀ two_ne_zero]
    exact zpow_le_zpow_right₀ one_le_two (by decide)
  constructor
  · calc (10 : Rat) ^ (-400 : Int)
      _ ≤ 2 ^ Decimal.GridPoint.leastExponent / 2 := Decimal.tenPower_le_finest
      _ ≤ value := by linarith
  · calc value
      _ < Double.limit * 2 := by linarith
      _ ≤ 2 ^ (1075 : Int) := limit
      _ ≤ 10 ^ (400 : Int) := Decimal.two_zpow_le

/-- The digits of a decimal tell its size. -/
theorem between_of_decimal {significand : Nat} (positive : 0 < significand) (exponent : Int) :
    (10 : Rat) ^ ((Numeral.ofNat significand).length + exponent - 1) ≤
        significand * 10 ^ exponent ∧
      (significand : Rat) * 10 ^ exponent <
        10 ^ ((Numeral.ofNat significand).length + exponent) := by
  obtain ⟨low, high⟩ := Numeral.between_of_length positive
  have someDigits : 0 < (Numeral.ofNat significand).length := Nat.length_toDigits_pos
  have low : (10 : Rat) ^ ((Numeral.ofNat significand).length - 1) ≤ significand := by
    exact_mod_cast low
  have high : (significand : Rat) < 10 ^ (Numeral.ofNat significand).length := by
    exact_mod_cast high
  have least : (10 : Rat) ^ ((Numeral.ofNat significand).length + exponent - 1) =
      10 ^ ((Numeral.ofNat significand).length - 1) * 10 ^ exponent := by
    rw [← zpow_natCast, ← zpow_add₀ (by norm_num)]
    congr 1
    omega
  have most : (10 : Rat) ^ ((Numeral.ofNat significand).length + exponent) =
      10 ^ (Numeral.ofNat significand).length * 10 ^ exponent := by
    rw [← zpow_natCast, ← zpow_add₀ (by norm_num)]
  rw [least, most]
  exact ⟨by gcongr, by gcongr⟩

/-- A decimal that a point attracts is read as the point. -/
theorem ofDecimal_of_attracts {point : Decimal.GridPoint} (isCanonical : point.IsCanonical)
    (nonzero : 0 < point.significand) (small : point.value < Double.limit) {significand : Nat}
    {exponent : Int} (attracted : point.attracts (significand * 10 ^ exponent) = true)
    (negative : Bool) :
    Double.ofDecimal negative significand exponent = .finite negative point.value := by
  obtain ⟨positive, isValue⟩ := isCanonical.value_nearest_of_attracts nonzero attracted
  have significandPositive : 0 < significand := by
    by_contra zero
    rw [Nat.eq_zero_of_not_pos zero, Nat.cast_zero, zero_mul] at positive
    exact lt_irrefl _ positive
  obtain ⟨aboveTiny, belowHuge⟩ := between_of_attracts isCanonical nonzero small attracted
  obtain ⟨low, high⟩ := between_of_decimal significandPositive exponent
  have notTiny : ¬ ((Numeral.ofNat significand).length + exponent < -400) := by
    have powers := aboveTiny.trans_lt high
    rw [zpow_lt_zpow_iff_right₀ (by norm_num)] at powers
    omega
  have notHuge : ¬ 400 < (Numeral.ofNat significand).length + exponent := by
    have powers := low.trans_lt belowHuge
    rw [zpow_lt_zpow_iff_right₀ (by norm_num)] at powers
    omega
  unfold Numeral.ofNat at notTiny notHuge
  rw [Double.ofDecimal, if_neg (not_or.mpr ⟨significandPositive.ne', notTiny⟩), if_neg notHuge,
    Decimal.powerOfTen_eq, Double.round, isValue, if_neg (not_le.mpr small)]

/-- The size of a finite number of double precision is read back. -/
theorem readDigits_sizeText {negative : Bool} {size : Rat}
    (onGrid : (Double.finite negative size).IsOnGrid) :
    (∃ first others, Decimal.sizeText size = first :: others ∧ first.isDigit = true) ∧
      ∀ rest, NumberEnds rest →
        readDigits (Decimal.withSign negative (Decimal.sizeText size ++ rest)) =
          some (.real (.finite negative size), rest) := by
  obtain ⟨nonneg, small, isPoint⟩ := onGrid
  unfold Decimal.sizeText
  split
  · next zero =>
    subst zero
    have whole : IsWhole ['0'] := ⟨by decide, by decide, by decide⟩
    exact ⟨⟨_, _, rfl, rfl⟩, fun rest ends =>
      readDigits_real negative whole (digitsEnd_cons (by decide) _)
        (@readFraction_some ['0'] rest (by decide) (by decide) ends.digitsEnd)
        (readExponent_none ends) (.inl rfl)⟩
  · next nonzero =>
    have positive : 0 < size := lt_of_le_of_ne nonneg (Ne.symm nonzero)
    have isCanonical := Decimal.GridPoint.isCanonical_nearest positive
    have significand : 0 < (Decimal.GridPoint.nearest size).significand := by
      by_contra zero
      rw [Decimal.GridPoint.value_eq, Nat.eq_zero_of_not_pos zero, Nat.cast_zero, zero_mul]
        at isPoint
      exact nonzero isPoint.symm
    obtain ⟨isProper, attracted⟩ := Decimal.shortestDigits_spec isCanonical significand
    obtain ⟨begins, decimal, exponent, comesTo, read⟩ := readsDecimal_layOut isProper
    rw [← comesTo] at attracted
    have isSize := ofDecimal_of_attracts isCanonical significand (isPoint.symm ▸ small) attracted
      negative
    exact ⟨begins, fun rest ends => by rw [read negative rest ends, isSize, isPoint]⟩

/-! ### Numbers -/

/-- The names of the numbers that are not finite do not begin with a digit, nor with a digit behind
a minus sign. -/
theorem readNumber_of_digit {first : Char} (digit : first.isDigit = true) (negative : Bool)
    (others : List Char) :
    readNumber (Decimal.withSign negative (first :: others)) =
      readDigits (Decimal.withSign negative (first :: others)) := by
  have apart {char : Char} (noDigit : char.isDigit = false) : (char == first) = false := by
    rw [beq_eq_false_iff_ne]
    rintro rfl
    rw [digit] at noDigit
    cases noDigit
  have letters : ('N' == first) = false ∧ ('I' == first) = false ∧ ('-' == first) = false :=
    ⟨apart rfl, apart rfl, apart rfl⟩
  have ordinary : (specialNumbers.find? fun special =>
      special.1.isPrefixOf (Decimal.withSign negative (first :: others))) = none := by
    cases negative <;> simp [specialNumbers, Decimal.withSign, List.isPrefixOf, letters]
  rw [readNumber, ordinary]

theorem withSign_append (negative : Bool) (text rest : List Char) :
    Decimal.withSign negative text ++ rest = Decimal.withSign negative (text ++ rest) := by
  cases negative <;> rfl

theorem ofInt_eq_withSign (number : Int) :
    Numeral.ofInt number =
      Decimal.withSign (decide (number < 0)) (Numeral.ofNat number.natAbs) := by
  rw [Numeral.ofInt, Decimal.withSign]
  simp only [decide_eq_true_eq]

/-- A whole number is read back. -/
theorem readNumber_ofInt (number : Int) {rest : List Char} (ends : NumberEnds rest) :
    readNumber (Numeral.ofInt number ++ rest) = some (.int number, rest) := by
  have isWhole := isWhole_ofNat number.natAbs
  obtain ⟨first, others, digits, digit⟩ := isWhole.exists_first
  have back : (if decide (number < 0) = true then -(number.natAbs : Int) else number.natAbs) =
      number := by
    simp only [decide_eq_true_eq]
    split <;> omega
  have read := readDigits_int (decide (number < 0)) isWhole ends
  rw [Numeral.value_ofNat, back] at read
  rw [ofInt_eq_withSign, withSign_append, ← read, digits, List.cons_append,
    readNumber_of_digit digit]

/-- A number of double precision is read back. -/
theorem readNumber_writeReal {number : Double} (onGrid : number.IsOnGrid) {rest : List Char}
    (ends : NumberEnds rest) :
    readNumber (writeReal number ++ rest) = some (.real number, rest) := by
  cases number with
  | finite negative size =>
    obtain ⟨⟨first, others, digits, digit⟩, read⟩ := readDigits_sizeText onGrid
    change readNumber (Decimal.withSign negative (Decimal.sizeText size) ++ rest) = _
    rw [withSign_append, ← read rest ends, digits, List.cons_append, readNumber_of_digit digit]
  | infinite negative => cases negative <;> rfl
  | undefined => rfl

/-! ### The beginning of a number -/

/-- A character that begins no value but a number. -/
def beginsNumber (char : Char) : Bool :=
  char.isDigit || char = '-' || char = 'N' || char = 'I'

theorem exists_beginsNumber_withSign {first : Char} (digit : first.isDigit = true)
    (negative : Bool) (others : List Char) :
    ∃ begin rest, Decimal.withSign negative (first :: others) = begin :: rest ∧
      beginsNumber begin = true := by
  cases negative with
  | true => exact ⟨_, _, rfl, rfl⟩
  | false => exact ⟨first, others, rfl, by rw [beginsNumber, digit]; rfl⟩

theorem exists_beginsNumber_ofInt (number : Int) :
    ∃ first others, Numeral.ofInt number = first :: others ∧ beginsNumber first = true := by
  obtain ⟨first, others, digits, digit⟩ := (isWhole_ofNat number.natAbs).exists_first
  rw [ofInt_eq_withSign, digits]
  exact exists_beginsNumber_withSign digit _ others

theorem exists_beginsNumber_writeReal {number : Double} (onGrid : number.IsOnGrid) :
    ∃ first others, writeReal number = first :: others ∧ beginsNumber first = true := by
  cases number with
  | finite negative size =>
    obtain ⟨⟨first, others, digits, digit⟩, -⟩ := readDigits_sizeText onGrid
    change ∃ first others, Decimal.withSign negative (Decimal.sizeText size) = _ ∧ _
    rw [digits]
    exact exists_beginsNumber_withSign digit negative others
  | infinite negative => cases negative <;> exact ⟨_, _, rfl, rfl⟩
  | undefined => exact ⟨_, _, rfl, rfl⟩

end OpeningHours.Json
