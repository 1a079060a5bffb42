import FlowGuard.Run.Naming
import Mathlib.Algebra.Group.Nat.Defs

/-!
How symbols are classified and named, whatever the decoders of mangled symbols answer. Which of them is asked follows
from the spelling of the symbol, and what becomes of its answer follows from the answer alone. The two spellings are
given by the positions of their characters; the second one is also a pattern with an optional mark and a repeated class
that both overlap the `@` behind them, and asking for a position is the same as asking for a match. A function without
a name is named by its address, of which every digit is given.
-/

namespace FlowGuard

namespace Flavor

def IsWord (c : Char) : Prop :=
  ('a' ≤ c ∧ c ≤ 'z') ∨ ('A' ≤ c ∧ c ≤ 'Z') ∨ ('0' ≤ c ∧ c ≤ '9') ∨ c = '_'

def IsDecorated (c : Char) : Prop :=
  IsWord c ∨ c = '@' ∨ c = '$' ∨ c = '?'

/-- One or two underscores, a `Z` and a word character stand at the start. -/
def StartsItanium (s : String) : Prop :=
  ∃ n c rest, (n = 1 ∨ n = 2) ∧ IsWord c ∧ s.toList = List.replicate n '_' ++ 'Z' :: c :: rest

/-- A question mark stands at the start, and an `@` at the third position or later with nothing but decorated
characters between them. -/
def StartsDecorated (s : String) : Prop :=
  s.toList[0]? = some '?' ∧ ∃ j, 2 ≤ j ∧ s.toList[j]? = some '@' ∧
    ∀ i, 1 ≤ i → i < j → ∃ c, s.toList[i]? = some c ∧ IsDecorated c

/-- A question mark, another one if any, one or more decorated characters and an `@` can be matched at the start. -/
def MatchesDecorated (s : String) : Prop :=
  ∃ mark body rest, (mark = [] ∨ mark = ['?']) ∧ body ≠ [] ∧ (∀ c ∈ body, IsDecorated c) ∧
    s.toList = '?' :: (mark ++ (body ++ '@' :: rest))

theorem isWordChar_iff (c : Char) : isWordChar c = true ↔ IsWord c := by
  have hrange (low high : Char) : (decide (low ≤ c) && decide (c ≤ high)) = true ↔ low ≤ c ∧ c ≤ high := by
    rw [Bool.and_eq_true, decide_eq_true_iff, decide_eq_true_iff]
  have hupper : c.isUpper = true ↔ 'A' ≤ c ∧ c ≤ 'Z' := decide_eq_true_iff
  have hlower : c.isLower = true ↔ 'a' ≤ c ∧ c ≤ 'z' := hrange 'a' 'z'
  have hdigit : c.isDigit = true ↔ '0' ≤ c ∧ c ≤ '9' := hrange '0' '9'
  change (((c.isUpper || c.isLower) || c.isDigit) || decide (c = '_')) = true ↔ IsWord c
  rw [Bool.or_eq_true, Bool.or_eq_true, Bool.or_eq_true, hupper, hlower, hdigit, decide_eq_true_iff, or_assoc,
    or_assoc, or_left_comm]
  rfl

theorem isDecoratedChar_iff (c : Char) : isDecoratedChar c = true ↔ IsDecorated c := by
  simp only [isDecoratedChar, IsDecorated, Bool.or_eq_true, decide_eq_true_eq, isWordChar_iff, or_assoc]

theorem looksItanium_iff (s : String) : looksItanium s.toList = true ↔ StartsItanium s := by
  constructor
  · intro h
    unfold looksItanium at h
    split at h
    case h_1 c rest he => exact ⟨1, c, rest, .inl rfl, (isWordChar_iff c).mp h, he⟩
    case h_2 c rest he => exact ⟨2, c, rest, .inr rfl, (isWordChar_iff c).mp h, he⟩
    case h_3 => cases h
  · rintro ⟨n, c, rest, hn, hc, he⟩
    rw [he]
    rcases hn with rfl | rfl <;> exact (isWordChar_iff c).mpr hc

/-- A character stands in the leading stretch exactly if all in front of it and itself belong there. -/
theorem mem_takeWhile_iff (p : Char → Bool) (c : Char) (s : List Char) :
    c ∈ s.takeWhile p ↔ p c = true ∧ ∃ front rest, s = front ++ c :: rest ∧ ∀ d ∈ front, p d = true := by
  induction s with
  | nil => simp
  | cons d s ih =>
    rw [List.takeWhile_cons]
    split
    case isTrue hd =>
      rw [List.mem_cons, ih]
      constructor
      · rintro (rfl | ⟨hc, front, rest, rfl, hfront⟩)
        · exact ⟨hd, [], s, rfl, by simp⟩
        · exact ⟨hc, d :: front, rest, rfl, by simpa [hd] using hfront⟩
      · rintro ⟨hc, front, rest, he, hfront⟩
        cases front with
        | nil => exact .inl (List.cons.inj he).1.symm
        | cons e front =>
          obtain ⟨rfl, rfl⟩ := List.cons.inj he
          exact .inr ⟨hc, front, rest, rfl, fun x hx => hfront x (by simp [hx])⟩
    case isFalse hd =>
      simp only [List.not_mem_nil, false_iff, not_and, not_exists]
      rintro hc front rest he hfront
      cases front with
      | nil => exact hd ((List.cons.inj he).1 ▸ hc)
      | cons e front => exact hd ((List.cons.inj he).1 ▸ hfront e (by simp))

/-- The text behind a question mark goes on with decorated characters up to an `@`. -/
def HasBody (s : List Char) : Prop :=
  ∃ body rest, body ≠ [] ∧ (∀ c ∈ body, IsDecorated c) ∧ s = '?' :: (body ++ '@' :: rest)

theorem looksDecorated_iff_hasBody (s : List Char) : looksDecorated s = true ↔ HasBody s := by
  have hat : isDecoratedChar '@' = true := by decide
  constructor
  · intro h
    unfold looksDecorated at h
    split at h
    case h_1 behind =>
      cases behind with
      | nil => cases h
      | cons c behind =>
        rw [List.takeWhile_cons] at h
        split at h
        case isTrue hc =>
          -- the character that is dropped keeps the body from being empty, also when it is itself an `@`
          rw [List.drop_one, List.tail_cons, List.contains_iff_mem] at h
          obtain ⟨-, front, rest, rfl, hfront⟩ := (mem_takeWhile_iff _ _ _).mp h
          refine ⟨c :: front, rest, by simp, ?_, rfl⟩
          intro d hd
          rcases List.mem_cons.mp hd with rfl | hd
          · exact (isDecoratedChar_iff _).mp hc
          · exact (isDecoratedChar_iff d).mp (hfront d hd)
        case isFalse => cases h
    case h_2 => cases h
  · rintro ⟨body, rest, hne, hbody, rfl⟩
    cases body with
    | nil => exact absurd rfl hne
    | cons c front =>
      have hc := (isDecoratedChar_iff c).mpr (hbody c (by simp))
      rw [looksDecorated, List.cons_append, List.takeWhile_cons, if_pos hc, List.drop_one, List.tail_cons,
        List.contains_iff_mem]
      exact (mem_takeWhile_iff _ _ _).mpr
        ⟨hat, front, rest, rfl, fun d hd => (isDecoratedChar_iff d).mpr (hbody d (by simp [hd]))⟩

/-- The body ends in front of the position of the `@`. -/
theorem startsDecorated_iff_hasBody (s : String) : StartsDecorated s ↔ HasBody s.toList := by
  unfold StartsDecorated HasBody
  constructor
  · rintro ⟨hmark, j, hj, hat, hbetween⟩
    cases hs : s.toList with
    | nil => rw [hs] at hmark; cases hmark
    | cons c behind =>
      rw [hs] at hmark hat hbetween
      obtain rfl : c = '?' := by simpa using hmark
      obtain ⟨i, rfl⟩ : ∃ i, j = i + 1 := ⟨j - 1, by omega⟩
      rw [List.getElem?_cons_succ] at hat
      obtain ⟨hi, hat⟩ := List.getElem?_eq_some_iff.mp hat
      refine ⟨behind.take i, behind.drop (i + 1), ?_, ?_, ?_⟩
      · apply List.ne_nil_of_length_pos
        rw [List.length_take]
        omega
      · intro d hd
        obtain ⟨k, hk, rfl⟩ := List.mem_iff_getElem.mp hd
        rw [List.length_take] at hk
        obtain ⟨c, hget, hc⟩ := hbetween (k + 1) (by omega) (by omega)
        rw [List.getElem?_cons_succ, List.getElem?_eq_getElem (by omega)] at hget
        rw [List.getElem_take, Option.some.inj hget]
        exact hc
      · rw [← hat, ← List.drop_eq_getElem_cons hi, List.take_append_drop]
  · rintro ⟨body, rest, hne, hbody, he⟩
    rw [he]
    refine ⟨rfl, body.length + 1, ?_, ?_, ?_⟩
    · have := List.length_pos_iff.mpr hne
      omega
    · simp
    · intro i hi hlt
      obtain ⟨k, rfl⟩ : ∃ k, i = k + 1 := ⟨i - 1, by omega⟩
      have hk : k < body.length := by omega
      refine ⟨body[k], ?_, hbody _ (List.getElem_mem hk)⟩
      rw [List.getElem?_cons_succ, List.getElem?_append_left hk, List.getElem?_eq_getElem hk]

theorem matchesDecorated_iff_hasBody (s : String) : MatchesDecorated s ↔ HasBody s.toList := by
  constructor
  · rintro ⟨mark, body, rest, hmark, hne, hbody, he⟩
    refine ⟨mark ++ body, rest, by simp [hne], ?_, by simp [he]⟩
    intro c hc
    rcases List.mem_append.mp hc with hc | hc
    · rcases hmark with rfl | rfl
      · cases hc
      · obtain rfl := List.mem_singleton.mp hc
        exact .inr (.inr (.inr rfl))
    · exact hbody c hc
  · rintro ⟨body, rest, hne, hbody, he⟩
    exact ⟨[], body, rest, .inl rfl, hne, hbody, he⟩

end Flavor

namespace Width

def upperDigit (n : Nat) : Char :=
  if n < 10 then Char.ofNat ('0'.toNat + n) else Char.ofNat ('A'.toNat + (n - 10))

/-- The last digits of a number, zeros in front included. -/
def lastDigits : Nat → Nat → List Char
  | 0, _ => []
  | places + 1, n => lastDigits places (n / 16) ++ [upperDigit (n % 16)]

@[simp] theorem length_lastDigits (places n : Nat) : (lastDigits places n).length = places := by
  induction places generalizing n with
  | zero => rfl
  | succ places ih => rw [lastDigits, List.length_append, ih, List.length_singleton]

theorem lastDigits_mod (places n : Nat) : lastDigits places (n % 16 ^ places) = lastDigits places n := by
  induction places generalizing n with
  | zero => rfl
  | succ places ih =>
    have hfront : n % 16 ^ (places + 1) / 16 = n / 16 % 16 ^ places := by
      rw [Nat.pow_succ', Nat.mod_mul_right_div_self]
    have hlast : n % 16 ^ (places + 1) % 16 = n % 16 := by
      rw [Nat.pow_succ', Nat.mod_mul_right_mod]
    rw [lastDigits, lastDigits, hfront, hlast, ih]

theorem lastDigits_zero (places : Nat) : lastDigits places 0 = List.replicate places '0' := by
  induction places with
  | zero => rfl
  | succ places ih =>
    rw [lastDigits, Nat.zero_div, ih, List.replicate_succ']
    rfl

theorem toUpper_digitChar : ∀ n, n < 16 → (Nat.digitChar n).toUpper = upperDigit n := by
  decide

/-- Filling up with zeros gives the last digits of a number that has no others. -/
theorem filled_toDigits (places n : Nat) (hn : n < 16 ^ (places + 1)) :
    List.replicate (places + 1 - (Nat.toDigits 16 n).length) '0' ++ (Nat.toDigits 16 n).map Char.toUpper =
      lastDigits (places + 1) n := by
  induction places generalizing n with
  | zero =>
    have hsmall : n < 16 := by simpa using hn
    rw [Nat.toDigits_of_lt_base hsmall]
    simp [lastDigits, toUpper_digitChar n hsmall, Nat.mod_eq_of_lt hsmall]
  | succ places ih =>
    rw [lastDigits]
    by_cases hsmall : n < 16
    · rw [Nat.toDigits_of_lt_base hsmall, Nat.div_eq_of_lt hsmall, Nat.mod_eq_of_lt hsmall, lastDigits_zero]
      simp [toUpper_digitChar n hsmall]
    · have hfront : n / 16 < 16 ^ (places + 1) := by
        rw [Nat.pow_succ] at hn
        omega
      rw [← ih (n / 16) hfront, Nat.toDigits_eq_if (by decide), if_neg hsmall]
      simp [toUpper_digitChar (n % 16) (Nat.mod_lt n (by decide))]

theorem upperHex_eq (places n : Nat) (hn : n < 16 ^ (places + 1)) :
    upperHex (places + 1) n = String.ofList (lastDigits (places + 1) n) := by
  rw [← filled_toDigits places n hn, upperHex, List.length_map]

/-- A pointer is spelled with two digits a byte, whatever its value. -/
theorem pointerText_eq (w : Width) (a : Address) :
    w.pointerText a = String.ofList (lastDigits (2 * w.pointerSize) a.toNat) := by
  cases w with
  | bits32 =>
    have hsize : UInt32.size = 16 ^ (7 + 1) := by decide
    have hlow := lastDigits_mod (7 + 1) a.toNat
    rw [pointerText, hsize, upperHex_eq 7 _ (Nat.mod_lt _ (by decide)), hlow]
    rfl
  | bits64 =>
    have hlt : a.toNat < 16 ^ (15 + 1) := a.toNat_lt_size
    exact upperHex_eq 15 _ hlt

theorem pointerText_ne_empty (w : Width) (a : Address) : w.pointerText a ≠ "" := by
  intro htext
  have hlength := congrArg String.length htext
  rw [pointerText_eq, String.length_ofList, length_lastDigits] at hlength
  cases w <;> cases hlength

end Width

namespace Decoders

variable (d : Decoders)

theorem flavor_of_rejected {s : String} (hs : d.cratePath s = none) :
    (d.flavor s = .itanium ↔ Flavor.StartsItanium s) ∧
      (d.flavor s = .decorated ↔ ¬Flavor.StartsItanium s ∧ Flavor.StartsDecorated s) ∧
      (d.flavor s = .plain ↔ ¬Flavor.StartsItanium s ∧ ¬Flavor.StartsDecorated s) := by
  rw [Flavor.startsDecorated_iff_hasBody, ← Flavor.looksDecorated_iff_hasBody, ← Flavor.looksItanium_iff]
  unfold flavor
  rw [hs]
  cases Flavor.looksItanium s.toList <;> cases Flavor.looksDecorated s.toList <;> simp

theorem decode?_of_plain {s : String} (hs : d.flavor s = .plain) : d.decode? s = none := by
  rw [decode?, hs, decodeAs?]

theorem demangle?_eq_some_iff (s name : String) :
    d.demangle? s = some name ↔ d.decode? s = some name ∧ name ≠ "" := by
  rw [demangle?, Option.filter_eq_some_iff, bne_iff_ne]

/-- The two ways to a name: a plain symbol is one, and a mangled one stands for one. -/
theorem shownName?_eq_some_iff (s name : String) :
    d.shownName? s = some name ↔
      s ≠ "" ∧ (d.flavor s = .plain ∧ name = s ∨ d.decode? s = some name ∧ name ≠ "") := by
  unfold shownName?
  by_cases hempty : s = ""
  · simp [hempty]
  · rw [if_neg hempty]
    by_cases hplain : d.flavor s = .plain
    · simp [hempty, hplain, d.decode?_of_plain hplain, eq_comm]
    · simp [hempty, hplain, d.demangle?_eq_some_iff]

theorem shownName?_eq_none_iff (s : String) :
    d.shownName? s = none ↔ s = "" ∨ d.flavor s ≠ .plain ∧ (d.decode? s = none ∨ d.decode? s = some "") := by
  unfold shownName?
  by_cases hempty : s = ""
  · simp [hempty]
  · rw [if_neg hempty]
    by_cases hplain : d.flavor s = .plain
    · simp [hempty, hplain]
    · cases hname : d.decode? s <;> simp [hempty, hplain, demangle?, hname]

theorem shownName?_ne_empty (s : String) : d.shownName? s ≠ some "" := by
  intro hname
  obtain ⟨hs, ⟨-, he⟩ | ⟨-, hne⟩⟩ := (d.shownName?_eq_some_iff s "").mp hname
  · exact hs he.symm
  · exact hne rfl

/-- Without a name that can be shown, the address stands for the function. -/
theorem function_of_nameless {symbolAt? : Address → Option String} (w : Width) {a : Address}
    (hname : symbolAt? a = none ∨ ∃ symbol, symbolAt? a = some symbol ∧ d.shownName? symbol = none) :
    d.function symbolAt? w a = w.pointerText a := by
  unfold function
  rcases hname with hnone | ⟨symbol, hsome, hnone⟩
  · simp [hnone]
  · simp [hsome, hnone]

theorem function_ne_empty (symbolAt? : Address → Option String) (w : Width) (a : Address) :
    d.function symbolAt? w a ≠ "" := by
  unfold function
  split
  case h_1 name hname =>
    rintro rfl
    obtain ⟨symbol, -, hsymbol⟩ := Option.bind_eq_some_iff.mp hname
    exact d.shownName?_ne_empty symbol hsymbol
  case h_2 => exact w.pointerText_ne_empty a

end Decoders

end FlowGuard
