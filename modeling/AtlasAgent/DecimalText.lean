import AtlasAgent.NumberText

/-!
# Decimal texts

Texts that are a number in decimal digits and nothing else, and what the
number scanners make of them. A scanner stops at the first character that is
not a digit, so the text may be followed by any such character.
-/

namespace AtlasAgent.DecimalText

open NumberText TextFields

/-- A natural number in decimal digits and nothing else. -/
structure Decimal (text : Token) (value : ℕ) : Prop where
  nonempty : text≠[]
  digits : ∀ c∈text,c.isDigit=true
  value_eq : digitsValue text=value

/-- What follows a number does not begin with another digit. -/
def NoDigit (rest : Token) : Prop := ∀ c∈rest.head?,c.isDigit=false

theorem noDigit_nil : NoDigit [] := fun c hc => by cases hc

theorem noDigit_cons {c : Char} {rest : Token} : NoDigit (c::rest) ↔ c.isDigit=false := by
  simp [NoDigit]

/-- A digit is no space. -/
theorem isSpace_of_isDigit {c : Char} (h : c.isDigit=true) : isSpace c=false := by
  have hcode : 48 ≤ c.toNat ∧ c.toNat≤57 := by
    simpa [Char.isDigit,UInt32.le_iff_toNat_le] using h
  simp only [isSpace,Bool.or_eq_false_iff,decide_eq_false_iff_not,Bool.and_eq_false_iff]
  omega

/-- The decimal text std::to_string and the kernel write for a number. -/
theorem decimal_toDigits (n : ℕ) : Decimal (Nat.toDigits 10 n) n where
  nonempty := Nat.toDigits_ne_nil
  digits c hc := Nat.isDigit_of_mem_toDigits (by decide) (by decide) hc
  value_eq := Nat.ofDigitChars_ten_toDigits

/-- A digit begins no word of lower-case letters. -/
theorem startsWith_of_isDigit {first c : Char} (hfirst : first.isDigit=false)
    (hc : c.isDigit=true) (word rest : List Char) : startsWith (first::word) (c::rest)=false := by
  have hcode : 48 ≤ c.toNat ∧ c.toNat≤57 := by
    simpa [Char.isDigit,UInt32.le_iff_toNat_le] using hc
  have hlower : c.toLower=c := by
    refine dif_neg fun h => ?_
    have hupper : 65≤c.toNat := by simpa [UInt32.le_iff_toNat_le] using h.1
    omega
  have hne : first≠c := fun h => by rw [h,hc] at hfirst; cases hfirst
  rw [startsWith,List.map_cons,hlower,List.isPrefixOf_cons_cons,beq_eq_false_iff_ne.mpr hne,
    Bool.false_and]

/-- A number of so many digits, with zeros in front of it where it has fewer. -/
def padded : ℕ → ℕ → Token
  | 0,_ => []
  | width+1,n => Nat.digitChar (n/10^width)::padded width (n%10^width)

section Scanners

variable {text rest : Token} {value : ℕ}

theorem Decimal.takeWhile_append (h : Decimal text value) (hrest : NoDigit rest) :
    (text++rest).takeWhile Char.isDigit=text := by
  have hnone : rest.takeWhile Char.isDigit=[] := by
    cases rest with
    | nil => rfl
    | cons c rest => exact List.takeWhile_cons_of_neg (by simp [noDigit_cons.mp hrest])
  rw [List.takeWhile_append_of_pos h.digits,hnone,List.append_nil]

theorem Decimal.dropWhile_append (h : Decimal text value) (hrest : NoDigit rest) :
    (text++rest).dropWhile Char.isDigit=rest := by
  have hall : rest.dropWhile Char.isDigit=rest := by
    cases rest with
    | nil => rfl
    | cons c rest => exact List.dropWhile_cons_of_neg (by simp [noDigit_cons.mp hrest])
  rw [List.dropWhile_append_of_pos h.digits,hall]

/-- A decimal text begins with neither a space nor a sign. -/
theorem Decimal.head (h : Decimal text value) :
    ∃ c tail,text=c::tail ∧ c.isDigit=true := by
  cases text with
  | nil => exact absurd rfl h.nonempty
  | cons c tail => exact ⟨c,tail,rfl,h.digits c List.mem_cons_self⟩

/-- No space stands in front of a decimal text. -/
theorem Decimal.head_append (h : Decimal text value) (rest : Token) :
    ∀ c∈(text++rest).head?,isSpace c=false := by
  obtain ⟨d,tail,rfl,hd⟩ := h.head
  rintro c ⟨rfl⟩
  exact isSpace_of_isDigit hd

theorem Decimal.skipSpace_append (h : Decimal text value) (rest : Token) :
    skipSpace (text++rest)=text++rest := by
  obtain ⟨c,tail,rfl,hc⟩ := h.head
  exact List.dropWhile_cons_of_neg (by simp [isSpace_of_isDigit hc])

theorem Decimal.scanSign_append (h : Decimal text value) (rest : Token) :
    scanSign (text++rest)=(false,text++rest) := by
  obtain ⟨c,tail,rfl,hc⟩ := h.head
  have hminus : c≠ '-' := fun hsign => by rw [hsign] at hc; exact absurd hc (by decide)
  have hplus : c≠ '+' := fun hsign => by rw [hsign] at hc; exact absurd hc (by decide)
  rw [List.cons_append,scanSign]
  · exact fun _ hsign => hminus (List.cons.inj hsign).1
  · exact fun _ hsign => hplus (List.cons.inj hsign).1

/-- The strtol family converts a decimal text to its value. -/
theorem Decimal.scanInteger_append (h : Decimal text value) (hrest : NoDigit rest) :
    scanInteger (text++rest)=some (false,value) := by
  rw [scanInteger,h.skipSpace_append,scanSigned,h.scanSign_append]
  dsimp only
  rw [h.takeWhile_append hrest,if_neg h.nonempty,h.value_eq]

/-- A decimal unsigned long is what std::stoul returns. -/
theorem Decimal.stoul (h : Decimal text value) (hsize : value < size64) :
    NumberText.stoul text=.ok value := by
  have hscan := h.scanInteger_append noDigit_nil
  rw [List.append_nil] at hscan
  rw [NumberText.stoul,hscan]
  dsimp only
  rw [if_neg (by omega),signed,if_neg (by decide),Int.emod_eq_of_lt (by omega) (by omega),
    Int.toNat_natCast]

/-- A decimal text is read as a double without being cut or changed, unless it
is too large for one. -/
theorem Decimal.fromCharsDouble (h : Decimal text value) :
    fromCharsDouble text=if overflow ≤ value then none else some (.finite value) := by
  obtain ⟨c,rest,rfl,hc⟩ := h.head
  have hminus : c≠ '-' := fun heq => by rw [heq] at hc; exact absurd hc (by decide)
  have hwhole := h.takeWhile_append noDigit_nil
  have hrest := h.dropWhile_append noDigit_nil
  rw [List.append_nil] at hwhole hrest
  have hscan : scanDecimal (c::rest)=some (value : ℚ) := by
    rw [scanDecimal,scanMantissa,hwhole,hrest]
    simp [scanExponent,h.value_eq]
  have hnormal : ¬((value : ℚ)≠0 ∧ (value : ℚ)≤underflow) := by
    rintro ⟨hne,hle⟩
    have hone : (1 : ℚ)≤value := by
      exact_mod_cast Nat.one_le_iff_ne_zero.mpr (Nat.cast_ne_zero.mp hne)
    exact absurd (hone.trans hle) (by
      rw [underflow,one_div,not_le]
      exact inv_lt_one_of_one_lt₀ (one_lt_pow₀ (by norm_num) (by norm_num)))
  rw [NumberText.fromCharsDouble]
  · rw [startsWith_of_isDigit (by decide) hc,startsWith_of_isDigit (by decide) hc,hscan]
    dsimp only
    rw [if_neg Bool.false_ne_true,if_neg Bool.false_ne_true,if_neg hnormal,signedFinite,
      if_neg Bool.false_ne_true]
  · exact fun _ heq => hminus (List.cons.inj heq).1

end Scanners

end AtlasAgent.DecimalText
