import FlowGuard.Json.Codec

/-!
The literals of JSON text, read back. A text that is written as a string literal stands for itself again, whatever its
characters are, and reading the literal stops at its closing quote. The digits of a number stand for that number, and
reading them stops where no digit, point or exponent follows.
-/

namespace FlowGuard.Json

theorem hexDigit?_lowerHexDigit : ∀ n, n < 16 → hexDigit? (lowerHexDigit n) = some n := by
  decide

/-- The three ways to write a character: behind a backslash, by its number, or as it is. -/
theorem escapeChar_cases (c : Char) :
    (∃ e, e ≠ 'u' ∧ escapeChar c = ['\\', e] ∧ simpleEscape? e = some c) ∨
      (∃ a b, escapeChar c = ['\\', 'u', '0', '0', a, b] ∧ hexFour? '0' '0' a b = some c.toNat ∧
        c.toNat < 0x20) ∨
      (escapeChar c = [c] ∧ c ≠ '"' ∧ c ≠ '\\' ∧ 0x20 ≤ c.toNat) := by
  by_cases hnamed : c ∈ ['"', '\\', '\x08', '\x0c', '\n', '\x0d', '\t']
  · left
    simp only [List.mem_cons, List.not_mem_nil, or_false] at hnamed
    rcases hnamed with rfl | rfl | rfl | rfl | rfl | rfl | rfl <;>
      exact ⟨_, by decide, rfl, rfl⟩
  · simp only [List.mem_cons, List.not_mem_nil, or_false, not_or] at hnamed
    obtain ⟨hquote, hslash, hb, hf, hn, hr, ht⟩ := hnamed
    right
    simp only [escapeChar, hquote, hslash, hb, hf, hn, hr, ht, if_false]
    by_cases hlow : c.toNat < 0x20
    · left
      refine ⟨_, _, if_pos hlow, ?_, hlow⟩
      have hhigh := hexDigit?_lowerHexDigit (c.toNat / 16) (by omega)
      have hrest := hexDigit?_lowerHexDigit (c.toNat % 16) (by omega)
      have hzero : hexDigit? '0' = some 0 := rfl
      simp only [hexFour?, hzero, hhigh, hrest, Option.bind_eq_bind, Option.bind_some, Option.pure_def,
        Option.some.injEq]
      omega
    · exact .inr ⟨if_neg hlow, hquote, hslash, by omega⟩

theorem stringBody?_escapeChar (c : Char) (rest : List Char) :
    stringBody? (escapeChar c ++ rest) =
      (stringBody? rest).map fun found => (escapeChar c ++ found.1, found.2) := by
  rcases escapeChar_cases c with ⟨e, hu, he, hs⟩ | ⟨a, b, he, hhex, -⟩ | ⟨he, hquote, hslash, hlow⟩
  · rw [he]
    cases hr : stringBody? rest <;> simp [stringBody?, hu, hs, hr]
  · rw [he]
    cases hr : stringBody? rest <;> simp [stringBody?, hhex, hr]
  · rw [he]
    have hnot : ¬c.toNat < 0x20 := by omega
    cases hr : stringBody? rest <;> simp [stringBody?, hslash, hnot, hr]

/-- A literal is read up to the quote behind it. -/
theorem stringBody?_escape (text rest : List Char) :
    stringBody? (escape text ++ '"' :: rest) = some (escape text, rest) := by
  induction text with
  | nil => rfl
  | cons c text ih =>
    rw [escape, List.flatMap_cons, List.append_assoc, stringBody?_escapeChar]
    rw [escape] at ih
    rw [ih]
    rfl

theorem unescape?_escapeChar (c : Char) (rest : List Char) :
    unescape? (escapeChar c ++ rest) = (unescape? rest).map (c :: ·) := by
  rcases escapeChar_cases c with ⟨e, hu, he, hs⟩ | ⟨a, b, he, hhex, hlow⟩ | ⟨he, hquote, hslash, hlow⟩
  · rw [he]
    cases hr : unescape? rest <;> simp [unescape?, hu, hs, hr]
  · rw [he]
    have hplain : c.toNat < 0xD800 := by omega
    cases hr : unescape? rest <;> simp [unescape?, hhex, hplain, hr, Char.ofNat_toNat]
  · rw [he]
    cases hr : unescape? rest <;> simp [unescape?, hslash, hr]

/-- A literal stands for the text that it was made from. -/
@[simp] theorem unescape?_escape (text : List Char) : unescape? (escape text) = some text := by
  induction text with
  | nil => rfl
  | cons c text ih =>
    rw [escape] at ih
    rw [escape, List.flatMap_cons, unescape?_escapeChar, ih]
    rfl

theorem isDigit_of_mem (n : Nat) : ∀ c ∈ Nat.toDigits 10 n, c.isDigit = true :=
  fun _ hc => Nat.isDigit_of_mem_toDigits (by decide) (by decide) hc

/-- The first digit is a zero for zero only, which has no other digit. -/
theorem toDigits_cases (n : Nat) :
    Nat.toDigits 10 n = ['0'] ∨ ∃ d ds, Nat.toDigits 10 n = d :: ds ∧ d ≠ '0' := by
  induction n using Nat.strongRecOn with
  | ind n ih =>
    rw [Nat.toDigits_eq_if (by decide)]
    split
    case isTrue hlt =>
      rcases Nat.eq_zero_or_pos n with rfl | hpos
      · exact .inl rfl
      · have hdigit : ∀ d, d < 10 → 0 < d → Nat.digitChar d ≠ '0' := by decide
        exact .inr ⟨_, [], rfl, hdigit n hlt hpos⟩
    case isFalse hge =>
      right
      rcases ih (n / 10) (by omega) with hzero | ⟨d, ds, hd, hne⟩
      · -- the digits in front spell a number that is not zero
        have hval := Nat.ofDigitChars_ten_toDigits (n := n / 10)
        rw [hzero] at hval
        have : n / 10 = 0 := hval.symm
        omega
      · exact ⟨d, ds ++ [Nat.digitChar (n % 10)], by rw [hd, List.cons_append], hne⟩

/-- The digits of a number stand for it. -/
@[simp] theorem natural?_toDigits (n : Nat) : natural? (Nat.toDigits 10 n) = some n := by
  have hall : (Nat.toDigits 10 n).all Char.isDigit = true := List.all_eq_true.mpr (isDigit_of_mem n)
  have hval : decimal (Nat.toDigits 10 n) = n := by
    rw [decimal, ← Nat.ofDigitChars_eq_foldl, Nat.ofDigitChars_ten_toDigits]
  rcases toDigits_cases n with hzero | ⟨d, ds, hd, hne⟩
  · rw [hzero] at hall hval ⊢
    simp [natural?, hval]
  · rw [hd] at hall hval ⊢
    simp only [natural?, hall, hne, hval, Bool.not_true, Bool.false_eq_true, if_false, false_and]

theorem naturalBelow?_ofNat {bound n : Nat} (hn : n < bound) : naturalBelow? bound (ofNat n) = some n := by
  simp [naturalBelow?, ofNat, Option.filter, hn]

theorem lt_of_naturalBelow? {bound n : Nat} {v : Json} (h : naturalBelow? bound v = some n) : n < bound := by
  cases v with
  | number literal => exact of_decide_eq_true (Option.filter_eq_some_iff.mp h).2
  | _ => cases h

/-- What may stand behind a number: nothing that prolongs it. -/
def EndsNumber (rest : List Char) : Prop :=
  ∀ c ∈ rest.head?, c.isDigit = false ∧ c ≠ '.' ∧ c ≠ 'e' ∧ c ≠ 'E'

theorem takeWhile_digits (ds rest : List Char) (hds : ∀ c ∈ ds, c.isDigit = true) (hrest : EndsNumber rest) :
    (ds ++ rest).takeWhile Char.isDigit = ds ∧ (ds ++ rest).dropWhile Char.isDigit = rest := by
  have hstop : rest.takeWhile Char.isDigit = [] ∧ rest.dropWhile Char.isDigit = rest := by
    cases rest with
    | nil => exact ⟨rfl, rfl⟩
    | cons c rest =>
      have hc := (hrest c rfl).1
      simp [hc]
  rw [List.takeWhile_append_of_pos hds, List.dropWhile_append_of_pos hds, hstop.1, hstop.2]
  exact ⟨List.append_nil ds, rfl⟩

/-- Two numbers with what follows them read alike only if the numbers are the same and so is what follows. -/
theorem toDigits_append_inj {m n : Nat} {s t : List Char} (hs : EndsNumber s) (ht : EndsNumber t)
    (h : Nat.toDigits 10 m ++ s = Nat.toDigits 10 n ++ t) : m = n ∧ s = t := by
  obtain ⟨htake, hdrop⟩ := takeWhile_digits (Nat.toDigits 10 m) s (isDigit_of_mem m) hs
  obtain ⟨htake', hdrop'⟩ := takeWhile_digits (Nat.toDigits 10 n) t (isDigit_of_mem n) ht
  rw [h] at htake hdrop
  have hdigits : Nat.toDigits 10 n = Nat.toDigits 10 m := htake'.symm.trans htake
  have hread := natural?_toDigits n
  rw [hdigits, natural?_toDigits] at hread
  exact ⟨Option.some.inj hread, hdrop.symm.trans hdrop'⟩

theorem integer?_toDigits (n : Nat) (rest : List Char) (hrest : EndsNumber rest) :
    integer? (Nat.toDigits 10 n ++ rest) = some (Nat.toDigits 10 n, rest) := by
  rcases toDigits_cases n with hzero | ⟨d, ds, hd, hne⟩
  · rw [hzero]
    rfl
  · obtain ⟨htake, hdrop⟩ := takeWhile_digits (Nat.toDigits 10 n) rest (isDigit_of_mem n) hrest
    rw [hd] at htake hdrop ⊢
    simp only [integer?, List.cons_append] at htake hdrop ⊢
    split
    · next heq => exact absurd (List.cons.inj heq).1 hne
    · simp [digits?, htake, hdrop]

/-- The digits of a number are read as a number literal. -/
theorem number?_toDigits (n : Nat) (rest : List Char) (hrest : EndsNumber rest) :
    number? (Nat.toDigits 10 n ++ rest) = some (Nat.toDigits 10 n, rest) := by
  have hunsigned : unsigned? (Nat.toDigits 10 n ++ rest) = some (Nat.toDigits 10 n, rest) := by
    have hfraction : fraction? rest = some ([], rest) := by
      cases rest with
      | nil => rfl
      | cons c rest => simp [fraction?, (hrest c rfl).2.1]
    have hexponent : exponent? rest = some ([], rest) := by
      cases rest with
      | nil => rfl
      | cons c rest => simp [exponent?, (hrest c rfl).2.2]
    simp [unsigned?, integer?_toDigits n rest hrest, hfraction, hexponent]
  cases hds : Nat.toDigits 10 n with
  | nil => exact absurd hds Nat.toDigits_ne_nil
  | cons d ds =>
    have hd := isDigit_of_mem n d (by simp [hds])
    have hsign : d ≠ '-' := by
      rintro rfl
      cases hd
    rw [hds, List.cons_append] at hunsigned
    simp [number?, hsign, hunsigned]

end FlowGuard.Json
