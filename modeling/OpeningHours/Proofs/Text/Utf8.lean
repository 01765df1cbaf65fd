import OpeningHours.Text.Utf8

/-
Octets that encode a text are decoded to that text. A character takes one to four octets; its code
is cut into parts of six bits, the first octet telling how many parts follow. The decoder takes the
first octet, waits for the others and puts the code together again, so it is back between two
characters with the one that was encoded.
-/

namespace OpeningHours.Text.Utf8

/-- The octets that encode a text. -/
def encode (text : List Char) : List UInt8 :=
  text.flatMap String.utf8EncodeChar

/-! ### Steps of the decoder -/

theorem toNat_octet {octet : Nat} (small : octet < 256) : (UInt8.ofNat octet).toNat = octet := by
  rw [UInt8.toNat_ofNat', Nat.mod_eq_of_lt small]

variable {octet : Nat} {pending : Pending}

theorem decodeFrom_ascii (ascii : octet < 0x80) (position : Nat) (rest : List UInt8) :
    decodeFrom position none (.ofNat octet :: rest) =
      (decodeFrom (position + 1) none rest).map (Char.ofNat octet :: ·) := by
  rw [decodeFrom, toNat_octet (by omega)]
  exact if_pos ascii

theorem decodeFrom_begin (begins : begin? octet = some pending) (high : 0x80 ≤ octet)
    (small : octet < 256) (position : Nat) (rest : List UInt8) :
    decodeFrom position none (.ofNat octet :: rest) =
      decodeFrom (position + 1) (some pending) rest := by
  rw [decodeFrom, toNat_octet small]
  simp only [if_neg (Nat.not_lt.mpr high), begins]

variable {lead read code part : Nat} {next : CodeRange}

/-- Six more bits, with more of them to come. -/
theorem decodeFrom_more (held : next.holds (part + 0x80) = true) (small : part < 64)
    (owed position : Nat) (rest : List UInt8) :
    decodeFrom position (some ⟨lead, read, code, owed + 2, next⟩) (.ofNat (part + 0x80) :: rest) =
      decodeFrom (position + 1)
        (some ⟨lead, read + 1, code * 64 + part, owed + 1, continuation⟩) rest := by
  rw [decodeFrom, toNat_octet (by omega), Nat.add_sub_cancel]
  dsimp only
  rw [if_pos held, if_neg (by omega)]
  rfl

/-- The last six bits. -/
theorem decodeFrom_last (held : next.holds (part + 0x80) = true) (small : part < 64)
    (position : Nat) (rest : List UInt8) :
    decodeFrom position (some ⟨lead, read, code, 1, next⟩) (.ofNat (part + 0x80) :: rest) =
      (decodeFrom (position + 1) none rest).map (Char.ofNat (code * 64 + part) :: ·) := by
  rw [decodeFrom, toNat_octet (by omega), Nat.add_sub_cancel]
  dsimp only
  rw [if_pos held, if_pos (Nat.le_refl 1)]

/-! ### First octets -/

theorem begin?_two (octet : Nat) (low : 0xc2 ≤ octet) (high : octet < 0xe0) :
    begin? octet = some ⟨octet, 1, octet - 0xc0, 1, continuation⟩ := by
  rw [begin?, if_neg (by omega), if_pos high]

/-- The first of three octets bounds the next one from below where the code could be written with
fewer octets, and from above where it could be a surrogate. -/
theorem begin?_three (octet : Nat) (low : 0xe0 ≤ octet) (high : octet < 0xf0) :
    ∃ next, begin? octet = some ⟨octet, 1, octet - 0xe0, 2, next⟩ ∧
      ∀ second, 0x80 ≤ second → second ≤ 0xbf → (octet = 0xe0 → 0xa0 ≤ second) →
        (octet = 0xed → second ≤ 0x9f) → next.holds second = true := by
  rw [begin?, if_neg (by omega), if_neg (by omega)]
  by_cases first : octet = 0xe0
  · rw [if_pos first]
    exact ⟨_, rfl, fun second _ below above _ => (CodeRange.holds_iff _ _).mpr ⟨above first, below⟩⟩
  · rw [if_neg first]
    by_cases surrogate : octet = 0xed
    · rw [if_pos surrogate]
      exact ⟨_, rfl, fun second above _ _ below =>
        (CodeRange.holds_iff _ _).mpr ⟨above, below surrogate⟩⟩
    · rw [if_neg surrogate, if_pos high]
      exact ⟨_, rfl, fun second above below _ _ => (CodeRange.holds_iff _ _).mpr ⟨above, below⟩⟩

/-- The first of four octets bounds the next one from below where the code could be written with
fewer octets, and from above where it could be larger than any code. -/
theorem begin?_four (octet : Nat) (low : 0xf0 ≤ octet) (high : octet < 0xf5) :
    ∃ next, begin? octet = some ⟨octet, 1, octet - 0xf0, 3, next⟩ ∧
      ∀ second, 0x80 ≤ second → second ≤ 0xbf → (octet = 0xf0 → 0x90 ≤ second) →
        (octet = 0xf4 → second ≤ 0x8f) → next.holds second = true := by
  rw [begin?, if_neg (by omega), if_neg (by omega), if_neg (by omega), if_neg (by omega),
    if_neg (by omega)]
  by_cases first : octet = 0xf0
  · rw [if_pos first]
    exact ⟨_, rfl, fun second _ below above _ => (CodeRange.holds_iff _ _).mpr ⟨above first, below⟩⟩
  · rw [if_neg first]
    by_cases final : octet = 0xf4
    · rw [if_pos final]
      exact ⟨_, rfl, fun second above _ _ below =>
        (CodeRange.holds_iff _ _).mpr ⟨above, below final⟩⟩
    · rw [if_neg final, if_pos (by omega)]
      exact ⟨_, rfl, fun second above below _ _ => (CodeRange.holds_iff _ _).mpr ⟨above, below⟩⟩

/-! ### Characters and texts -/

/-- Six bits make an octet that goes on with a character. -/
theorem continuation_holds (small : part < 64) : continuation.holds (part + 0x80) = true := by
  refine (CodeRange.holds_iff _ _).mpr ⟨Nat.le_add_left _ _, ?_⟩
  rw [show continuation.last = 0xbf from rfl]
  omega

theorem decodeFrom_two {code : Nat} (low : 0x80 ≤ code) (high : code ≤ 0x7ff) (position : Nat)
    (rest : List UInt8) :
    decodeFrom position none
        (.ofNat (code / 64 % 32 + 0xc0) :: .ofNat (code % 64 + 0x80) :: rest) =
      (decodeFrom (position + 1 + 1) none rest).map (Char.ofNat code :: ·) := by
  have begins := begin?_two (code / 64 % 32 + 0xc0) (by omega) (by omega)
  have whole : (code / 64 % 32 + 0xc0 - 0xc0) * 64 + code % 64 = code := by omega
  rw [decodeFrom_begin begins (by omega) (by omega),
    decodeFrom_last (continuation_holds (by omega)) (by omega), whole]

theorem decodeFrom_three {code : Nat} (low : 0x800 ≤ code) (high : code ≤ 0xffff)
    (scalar : code < 0xd800 ∨ 0xdfff < code) (position : Nat) (rest : List UInt8) :
    decodeFrom position none
        (.ofNat (code / 4096 % 16 + 0xe0) :: .ofNat (code / 64 % 64 + 0x80) ::
          .ofNat (code % 64 + 0x80) :: rest) =
      (decodeFrom (position + 1 + 1 + 1) none rest).map (Char.ofNat code :: ·) := by
  obtain ⟨next, begins, held⟩ :=
    begin?_three (code / 4096 % 16 + 0xe0) (by omega) (by omega)
  have second := held (code / 64 % 64 + 0x80) (by omega) (by omega) (by omega) (by omega)
  have whole :
      ((code / 4096 % 16 + 0xe0 - 0xe0) * 64 + code / 64 % 64) * 64 + code % 64 = code := by omega
  rw [decodeFrom_begin begins (by omega) (by omega), decodeFrom_more second (by omega),
    decodeFrom_last (continuation_holds (by omega)) (by omega), whole]

theorem decodeFrom_four {code : Nat} (low : 0x10000 ≤ code) (high : code < 0x110000)
    (position : Nat) (rest : List UInt8) :
    decodeFrom position none
        (.ofNat (code / 262144 % 8 + 0xf0) :: .ofNat (code / 4096 % 64 + 0x80) ::
          .ofNat (code / 64 % 64 + 0x80) :: .ofNat (code % 64 + 0x80) :: rest) =
      (decodeFrom (position + 1 + 1 + 1 + 1) none rest).map (Char.ofNat code :: ·) := by
  obtain ⟨next, begins, held⟩ :=
    begin?_four (code / 262144 % 8 + 0xf0) (by omega) (by omega)
  have second := held (code / 4096 % 64 + 0x80) (by omega) (by omega) (by omega) (by omega)
  have whole :
      (((code / 262144 % 8 + 0xf0 - 0xf0) * 64 + code / 4096 % 64) * 64 + code / 64 % 64) * 64 +
        code % 64 = code := by omega
  rw [decodeFrom_begin begins (by omega) (by omega), decodeFrom_more second (by omega),
    decodeFrom_more (continuation_holds (by omega)) (by omega),
    decodeFrom_last (continuation_holds (by omega)) (by omega), whole]

/-- The octets of a character are decoded to it. -/
theorem decodeFrom_encodeChar (char : Char) (position : Nat) (rest : List UInt8) :
    ∃ later, decodeFrom position none (String.utf8EncodeChar char ++ rest) =
      (decodeFrom later none rest).map (char :: ·) := by
  have valid : char.toNat < 0xd800 ∨ (0xdfff < char.toNat ∧ char.toNat < 0x110000) := char.valid
  have back : Char.ofNat char.toNat = char := Char.ofNat_toNat char
  rw [String.utf8EncodeChar, show char.val.toNat = char.toNat from rfl]
  generalize char.toNat = code at valid back
  subst back
  split
  · exact ⟨_, decodeFrom_ascii (by omega) position rest⟩
  · split
    · exact ⟨_, decodeFrom_two (by omega) (by omega) position rest⟩
    · split
      · exact ⟨_, decodeFrom_three (by omega) (by omega) (by omega) position rest⟩
      · exact ⟨_, decodeFrom_four (by omega) (by omega) position rest⟩

theorem decodeFrom_encode (text : List Char) (position : Nat) :
    decodeFrom position none (encode text) = .ok text := by
  induction text generalizing position with
  | nil => rfl
  | cons char rest inductionHypothesis =>
    obtain ⟨later, step⟩ := decodeFrom_encodeChar char position (encode rest)
    rw [encode, List.flatMap_cons, ← encode, step, inductionHypothesis]
    rfl

/-- What encodes a text is decoded to it. -/
theorem decode_encode (text : List Char) : decode (encode text) = .ok text :=
  decodeFrom_encode text 0

end OpeningHours.Text.Utf8
