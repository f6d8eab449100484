import AssetPublish.Proofs.Number.Division
import AssetPublish.Proofs.Reporting
import AssetPublish.Proofs.Value.Numerals

/-!
# What the text of a size says

From 1024 bytes on a size is shown in tenths of a unit.  The number of tenths is that of the exact
quotient, although it is computed with machine numbers, and sizes in order have texts in order, also
where the unit changes.

The unit is chosen before the number of tenths is rounded.  Just below the next unit rounding
therefore gives 1024 of the smaller one, and these are the only sizes whose unit does not fit.

The statement is about texts and not about the numbers behind them.  A text is read back with a
small reader of its own, and what it denotes is compared: so the order of two sizes is the order of
what their texts say, whatever their units are.

## What is here

* `ofBytes?_eq_some` — the form that is chosen for a size, by the exact quotient.
* `ByteSize.value` — the number of bytes that a form stands for; `value_mono` says that larger sizes
  have larger ones.
* `shownAs?`, `denoted?` — reading the text of a size; `denoted?_sizeText?` says that the text
  denotes what its form stands for.
* `sizes_exact_and_ordered` — texts are exact up to their rounding, and in order.
* `JustBelow`, `unit_fits_iff` — for which sizes the unit does not fit.
-/

set_option autoImplicit false

namespace AssetPublish

open Number

namespace SizeUnit

/-- The unit is left as soon as there are 1024 of it, unless it is the largest one. -/
theorem ofBytes_cases (n : Nat) :
    (n < 1024 ^ 2 ∧ ofBytes n = kilobyte) ∨ (1024 ^ 2 ≤ n ∧ n < 1024 ^ 3 ∧ ofBytes n = megabyte) ∨
      (1024 ^ 3 ≤ n ∧ ofBytes n = gigabyte) := by
  rw [ofBytes, Nat.pow_eq, Nat.pow_eq]
  by_cases hkilo : n < 1024 ^ 2
  · exact Or.inl ⟨hkilo, if_pos hkilo⟩
  · by_cases hmega : n < 1024 ^ 3
    · exact Or.inr (Or.inl ⟨Nat.not_lt.1 hkilo, hmega, by rw [if_neg hkilo, if_pos hmega]⟩)
    · exact Or.inr (Or.inr ⟨Nat.not_lt.1 hmega, by rw [if_neg hkilo, if_neg hmega]⟩)

theorem pow_power_le {n : Nat} (h : 1024 ≤ n) : 1024 ^ (ofBytes n).power ≤ n := by
  rcases ofBytes_cases n with ⟨_, heq⟩ | ⟨hle, _, heq⟩ | ⟨hle, heq⟩
  · rw [heq]
    exact h
  · rw [heq]
    exact hle
  · rw [heq]
    exact hle

theorem lt_pow_power {n : Nat} (hunit : ofBytes n ≠ gigabyte) :
    n < 1024 ^ ((ofBytes n).power + 1) := by
  rcases ofBytes_cases n with ⟨hlt, heq⟩ | ⟨_, hlt, heq⟩ | ⟨_, heq⟩
  · rw [heq]
    exact hlt
  · rw [heq]
    exact hlt
  · exact absurd heq hunit

theorem power_le (unit : SizeUnit) : unit.power ≤ 3 := by cases unit <;> decide

/-- Larger sizes have the same unit or a larger one. -/
theorem power_mono {a b : Nat} (h : a ≤ b) :
    ofBytes a = ofBytes b ∨ ofBytes a ≠ gigabyte ∧ (ofBytes a).power + 1 ≤ (ofBytes b).power := by
  -- Where the unit of `a` is the larger one the bounds contradict `h`.
  rcases ofBytes_cases a with ⟨_, ha'⟩ | ⟨_, _, ha'⟩ | ⟨_, ha'⟩ <;>
    rcases ofBytes_cases b with ⟨_, hb'⟩ | ⟨_, _, hb'⟩ | ⟨_, hb'⟩ <;>
    rw [ha', hb'] <;> first | omega | decide

end SizeUnit

/-! ## The form of a size -/

namespace ByteSize

variable {n : Nat}

/-- The quotient that is shown is the machine number at the end of repeated division. -/
theorem ofBytes?_divided (h : 1024 ≤ n) (hn : n < 2 ^ 53) :
    ofBytes? n = some (rounded ((divided n (SizeUnit.ofBytes n).power).roundPlaces 1)
      (SizeUnit.ofBytes n)) := by
  have hpos : 0 < n := by omega
  have hpower := (SizeUnit.ofBytes n).power_le
  have hpower' : 1 ≤ (SizeUnit.ofBytes n).power := by cases SizeUnit.ofBytes n <;> decide
  have hfirst : nearest n 1024 = wholeOver n 10 := by
    refine nearest_eq_of_value (isMachine_wholeOver hpos hn (by omega)) (by decide) ?_
    rw [value_wholeOver hn]
    norm_num
  have hscale : (wholeOver n 10).scale (-10 * ((SizeUnit.ofBytes n).power - 1))
      = divided n (SizeUnit.ofBytes n).power := by
    have hshift : -10 * (((SizeUnit.ofBytes n).power : ℤ) - 1)
        = -((10 * ((SizeUnit.ofBytes n).power - 1) : ℕ) : ℤ) := by
      push_cast [hpower']
      ring
    rw [divided_eq hpos hn (by omega), hshift, scale_wholeOver]
    congr 1
    omega
  have hhuge : (nearest n 1024).isHuge = false :=
    isHuge_nearest (by decide) (by have hlog := log2_le_of_lt hn; omega)
  rw [hfirst] at hhuge
  have hlarge : ¬ (n : ℤ) < 1024 := by omega
  rw [ofBytes?, if_neg hlarge]
  simp only [Int.toNat_natCast, hfirst, hhuge, hscale]
  rfl

/-- Repeated division gives the exact quotient by a unit, of which the tenths are rounded. -/
theorem divided_exact (hpos : 0 < n) (hn : n < 2 ^ 53) (unit : SizeUnit) :
    (divided n unit.power).value = n / 1024 ^ unit.power ∧
      Near ((divided n unit.power).roundPlaces 1) (10 * (n / 1024 ^ unit.power)) := by
  have hpower := unit.power_le
  have hvalue := value_divided hpos hn (show unit.power ≤ 100 by omega)
  have hnear := near_roundPlaces (divided n unit.power) 1
  rw [hvalue, pow_one] at hnear
  exact ⟨hvalue, hnear⟩

/-- **The form of a size** holds the tenths of the exact quotient.  The quotient that is rounded is
exact, so that only one rounding takes place. -/
theorem ofBytes?_eq_some (h : 1024 ≤ n) (hn : n < 2 ^ 53) :
    ∃ tenths, ofBytes? n = some (rounded tenths (SizeUnit.ofBytes n)) ∧
      Near tenths (10 * (n / 1024 ^ (SizeUnit.ofBytes n).power)) :=
  ⟨_, ofBytes?_divided h hn, (divided_exact (by omega) hn _).2⟩

/-- Below 1024 bytes nothing is rounded. -/
theorem ofBytes?_of_lt (h : n < 1024) : ofBytes? n = some (exact n) :=
  if_pos (by exact_mod_cast h)

/-! ## The number of bytes -/

/-- The number of bytes that a form stands for. -/
def value : ByteSize → ℚ
  | exact bytes => bytes
  | rounded tenths unit => tenths / 10 * 1024 ^ unit.power

/-- At least one of the unit is shown, and at most 1024 unless it is the largest one. -/
theorem tenths_bounds {tenths : Nat} (h : 1024 ≤ n)
    (hnear : Near tenths (10 * (n / 1024 ^ (SizeUnit.ofBytes n).power))) :
    10 ≤ tenths ∧ (SizeUnit.ofBytes n ≠ .gigabyte → tenths ≤ 10240) := by
  have hpos : (0 : ℚ) < 1024 ^ (SizeUnit.ofBytes n).power := by positivity
  constructor
  · have hle : (1024 : ℚ) ^ (SizeUnit.ofBytes n).power ≤ n := by
      exact_mod_cast SizeUnit.pow_power_le h
    refine (near_self 10).mono hnear ?_
    rw [Nat.cast_ofNat, le_mul_iff_one_le_right (by norm_num), one_le_div₀ hpos]
    exact hle
  · intro hunit
    have hlt : (n : ℚ) < 1024 ^ (SizeUnit.ofBytes n).power * 1024 := by
      have hlt := SizeUnit.lt_pow_power hunit
      rw [pow_succ] at hlt
      exact_mod_cast hlt
    refine hnear.mono (near_self 10240) ?_
    have hquotient : (n : ℚ) / 1024 ^ (SizeUnit.ofBytes n).power ≤ 1024 := by
      rw [div_le_iff₀ hpos, mul_comm]
      exact hlt.le
    push_cast
    linarith

/-- **Larger sizes are shown as larger ones**, or as equal ones.  In the same unit this is the order
of rounding; where the unit changes, what is shown of the smaller size is at most one of the larger
unit. -/
theorem value_mono {a b : Nat} {x y : ByteSize} (hle : a ≤ b) (hb : b < 2 ^ 53)
    (hx : ofBytes? a = some x) (hy : ofBytes? b = some y) : x.value ≤ y.value := by
  by_cases hsmall : b < 1024
  · rw [ofBytes?_of_lt (hle.trans_lt hsmall), Option.some.injEq] at hx
    rw [ofBytes?_of_lt hsmall, Option.some.injEq] at hy
    rw [← hx, ← hy, value, value]
    exact_mod_cast hle
  have hlarge := Nat.not_lt.1 hsmall
  obtain ⟨tenths, hy', hnear⟩ := ofBytes?_eq_some hlarge hb
  have htenths : (10 : ℚ) ≤ tenths := by exact_mod_cast (tenths_bounds hlarge hnear).1
  rw [hy', Option.some.injEq] at hy
  rw [← hy, value]
  by_cases hsmall' : a < 1024
  · -- From bytes to a unit: what is shown is at least one unit, which is 1024 bytes or more.
    rw [ofBytes?_of_lt hsmall', Option.some.injEq] at hx
    rw [← hx, value]
    have hunit : (1024 : ℚ) ≤ 1024 ^ (SizeUnit.ofBytes b).power :=
      le_self_pow₀ (by norm_num) (by cases SizeUnit.ofBytes b <;> decide)
    have ha : ((a : ℤ) : ℚ) ≤ 1024 := by exact_mod_cast hsmall'.le
    nlinarith
  have hlarge' := Nat.not_lt.1 hsmall'
  obtain ⟨fewer, hx', hnear'⟩ := ofBytes?_eq_some hlarge' (hle.trans_lt hb)
  rw [hx', Option.some.injEq] at hx
  rw [← hx, value]
  rcases SizeUnit.power_mono hle with hunit | ⟨hunit, hpower⟩
  · -- In one unit the quotients are in order, and rounding keeps the order.
    rw [hunit] at hnear' ⊢
    have hpos : (0 : ℚ) < 1024 ^ (SizeUnit.ofBytes b).power := by positivity
    have hquotients : (10 : ℚ) * (a / 1024 ^ (SizeUnit.ofBytes b).power)
        ≤ 10 * (b / 1024 ^ (SizeUnit.ofBytes b).power) := by
      gcongr
    have hfewer : (fewer : ℚ) ≤ tenths := by exact_mod_cast hnear'.mono hnear hquotients
    gcongr
  · -- At most 1024 of the smaller unit are shown, and at least one of the larger.
    have hfewer : (fewer : ℚ) ≤ 10240 := by
      exact_mod_cast (tenths_bounds hlarge' hnear').2 hunit
    calc (fewer : ℚ) / 10 * 1024 ^ (SizeUnit.ofBytes a).power
        ≤ 10240 / 10 * 1024 ^ (SizeUnit.ofBytes a).power := by gcongr
      _ = 1024 ^ ((SizeUnit.ofBytes a).power + 1) := by rw [pow_succ]; ring
      _ ≤ 1024 ^ (SizeUnit.ofBytes b).power := pow_le_pow_right₀ (by norm_num) hpower
      _ = 10 / 10 * 1024 ^ (SizeUnit.ofBytes b).power := by ring
      _ ≤ tenths / 10 * 1024 ^ (SizeUnit.ofBytes b).power := by gcongr

/-! ## Reading the text of a size -/

/-- The number that a text of decimal digits denotes. -/
def digits? (text : String) : Option Nat :=
  if text ≠ "" ∧ text.toList.all Char.isDigit then some (Value.Reader.digitsValue text.toList)
  else none

/-- The number that digits denote, with digits behind a point or without. -/
def decimal? (text : String) : Option ℚ :=
  match Text.fields '.' text with
  | [whole] => (digits? whole).map Nat.cast
  | [whole, fraction] => do
    let whole ← digits? whole
    let places := fraction.length
    let fraction ← digits? fraction
    return whole + fraction / 10 ^ places
  | _ => none

/-- The number in the text of a size, and the abbreviation of the unit behind it.  A number and a
symbol, with one space between them. -/
def shownAs? (text : String) : Option (ℚ × String) :=
  match Text.fields ' ' text with
  | [number, symbol] => (decimal? number).map fun number => (number, symbol)
  | _ => none

/-- The number of bytes that an abbreviation stands for. -/
def bytesIn? : String → Option ℚ
  | "B" => some 1
  | "KB" => some 1024
  | "MB" => some (1024 ^ 2)
  | "GB" => some (1024 ^ 3)
  | _ => none

/-- The number of bytes that a text denotes. -/
def denoted? (text : String) : Option ℚ := do
  let (number, symbol) ← shownAs? text
  let bytes ← bytesIn? symbol
  return number * bytes

theorem toList_toString (n : Nat) : (toString n).toList = Nat.toDigits 10 n := by
  rw [Nat.toString_eq_repr, Nat.toList_repr]

theorem digits?_toString (n : Nat) : digits? (toString n) = some n := by
  have hne : toString n ≠ "" := fun hempty => by
    have hlist := congrArg String.toList hempty
    rw [toList_toString] at hlist
    exact absurd (congrArg List.length hlist) (Nat.ne_of_gt Nat.length_toDigits_pos)
  have hall : (toString n).toList.all Char.isDigit = true := by
    rw [toList_toString, List.all_eq_true]
    exact fun c hc => Value.Reader.isDigit_of_mem_toDigits hc
  rw [digits?, if_pos ⟨hne, hall⟩, toList_toString, Value.Reader.digitsValue_toDigits]

/-- Digits hold none of the characters that separate the parts of a size. -/
theorem not_mem_toString {c : Char} (hc : c.isDigit = false) (n : Nat) :
    c ∉ (toString n).toList := by
  rw [toList_toString]
  intro hmem
  rw [Value.Reader.isDigit_of_mem_toDigits hmem] at hc
  exact absurd hc (by decide)

theorem decimal?_toString (n : Nat) : decimal? (toString n) = some (n : ℚ) := by
  have hfields : Text.fields '.' (toString n) = [toString n] := by
    rw [Text.fields, Text.splitChars_of_not_mem (not_mem_toString (by decide) n), List.map_cons,
      List.map_nil, String.ofList_toList]
  rw [decimal?, hfields]
  simp only [digits?_toString, Option.map_some]

/-- Two parts of a text that are separated from each other are found again. -/
theorem fields_pair {sep : Char} {front behind : String} (hfront : sep ∉ front.toList)
    (hbehind : sep ∉ behind.toList) :
    Text.fields sep (front ++ String.singleton sep ++ behind) = [front, behind] := by
  rw [Text.fields, String.toList_append, String.toList_append, String.toList_singleton,
    List.append_assoc, List.singleton_append, Text.splitChars_append_sep hfront,
    Text.splitChars_of_not_mem hbehind]
  simp

/-- Tenths are read back. -/
theorem decimal?_tenths (tenths : Nat) :
    decimal? (toString (tenths / 10) ++ "." ++ toString (tenths % 10)) = some (tenths / 10 : ℚ) := by
  have hpoint : ∀ n : Nat, '.' ∉ (toString n).toList := not_mem_toString (by decide)
  have hlength : (toString (tenths % 10)).length = 1 := by
    rw [← String.length_toList, toList_toString, Nat.toDigits_of_lt_base (by omega)]
    rfl
  have hsplit : (tenths : ℚ) = (tenths / 10 : ℕ) * 10 + (tenths % 10 : ℕ) := by
    exact_mod_cast (Nat.div_add_mod' tenths 10).symm
  have hfields := fields_pair (hpoint (tenths / 10)) (hpoint (tenths % 10))
  rw [decimal?, show "." = String.singleton '.' from rfl, hfields]
  simp only [digits?_toString, hlength, Option.bind_eq_bind, Option.bind_some, Option.pure_def,
    Option.some.injEq, pow_one]
  rw [hsplit]
  ring

/-- The text of whole bytes is read back. -/
theorem shownAs?_exact (n : Nat) : shownAs? (toString n ++ " B") = some ((n : ℚ), "B") := by
  have hfields := fields_pair (not_mem_toString (by decide) n) (show ' ' ∉ "B".toList by decide)
  rw [shownAs?, show " B" = String.singleton ' ' ++ "B" from rfl, ← String.append_assoc, hfields]
  simp only [decimal?_toString, Option.map_some]

/-- The text of a rounded size is read back. -/
theorem shownAs?_rounded (tenths : Nat) (unit : SizeUnit) :
    shownAs? (rounded tenths unit).text = some ((tenths / 10 : ℚ), unit.symbol) := by
  have hnumber : ' ' ∉ (toString (tenths / 10) ++ "." ++ toString (tenths % 10)).toList := by
    rw [String.toList_append, String.toList_append, List.mem_append, List.mem_append]
    rintro ((hwhole | hpoint) | hrest)
    · exact not_mem_toString (by decide) _ hwhole
    · exact absurd hpoint (by decide)
    · exact not_mem_toString (by decide) _ hrest
  have hsymbol : ' ' ∉ unit.symbol.toList := by cases unit <;> decide
  rw [shownAs?, text, show " " = String.singleton ' ' from rfl, fields_pair hnumber hsymbol]
  simp only [decimal?_tenths, Option.map_some]

theorem bytesIn?_symbol (unit : SizeUnit) :
    bytesIn? unit.symbol = some (1024 ^ unit.power) := by
  cases unit <;> simp [SizeUnit.symbol, SizeUnit.power, bytesIn?]

theorem exists_ofBytes? (hn : n < 2 ^ 53) : ∃ size, ofBytes? n = some size := by
  by_cases hlt : n < 1024
  · exact ⟨_, ofBytes?_of_lt hlt⟩
  · exact ⟨_, ofBytes?_divided (Nat.not_lt.1 hlt) hn⟩

/-- **The text of a size denotes the number of bytes that the form stands for.**  Reading does not
know how the text was made, so that nothing of the form is lost in it. -/
theorem denoted?_sizeText? {size : ByteSize} (h : ofBytes? n = some size) :
    (sizeText? n).bind denoted? = some size.value := by
  rw [sizeText?, h, Option.map_some, Option.bind_some]
  cases size with
  | exact bytes =>
    have hexact : bytes = n := by
      by_cases hlt : n < 1024
      · rw [ofBytes?_of_lt hlt] at h
        exact (exact.inj (Option.some.inj h)).symm
      · rw [ofBytes?, if_neg (by omega)] at h
        simp only at h
        split at h
        · exact absurd h (by simp)
        · exact absurd h (by simp)
    have htext : (exact bytes).text = toString n ++ " B" := by rw [hexact]; rfl
    rw [htext, denoted?, shownAs?_exact, value, hexact]
    simp [bytesIn?]
  | rounded tenths unit =>
    rw [denoted?, shownAs?_rounded, value]
    simp [bytesIn?_symbol]

/-! ## What is shown -/

/-- **The text of a size is exact up to its rounding, and texts are in order.**  Below 1024 bytes
the text is the number itself.  From there on it is the exact quotient by the unit, rounded to
tenths with a half to the even one; none of the divisions by 1024 that lead to it loses anything.
Of two sizes the larger one is shown as more bytes, or as as many, in whatever units. -/
theorem sizes_exact_and_ordered :
    (∀ n : Nat, n < 1024 → sizeText? n = some (toString n ++ " B")) ∧
    (∀ n : Nat, 1024 ≤ n → n < 2 ^ 53 → ∃ count symbol tenths,
      (n < 1024 ^ 2 ∧ count = 1 ∧ symbol = "KB" ∨
        1024 ^ 2 ≤ n ∧ n < 1024 ^ 3 ∧ count = 2 ∧ symbol = "MB" ∨
        1024 ^ 3 ≤ n ∧ count = 3 ∧ symbol = "GB") ∧
      (divided n count).value = n / 1024 ^ count ∧
      tenths = (divided n count).roundPlaces 1 ∧
      Near tenths (10 * (n / 1024 ^ count)) ∧
      sizeText? n
        = some (toString (tenths / 10) ++ "." ++ toString (tenths % 10) ++ " " ++ symbol)) ∧
    ∀ a b : Nat, a ≤ b → b < 2 ^ 53 → ∃ x y, (sizeText? a).bind denoted? = some x ∧
      (sizeText? b).bind denoted? = some y ∧ x ≤ y := by
  refine ⟨fun n h => ?_, fun n h hn => ?_, fun a b hle hb => ?_⟩
  · rw [sizeText?, ofBytes?_of_lt h]
    rfl
  · obtain ⟨hvalue, hnear⟩ := divided_exact (by omega) hn (SizeUnit.ofBytes n)
    refine ⟨_, (SizeUnit.ofBytes n).symbol, _, ?_, hvalue, rfl, hnear, ?_⟩
    · rcases SizeUnit.ofBytes_cases n with ⟨hlt, heq⟩ | ⟨hle, hlt, heq⟩ | ⟨hle, heq⟩
      · exact Or.inl ⟨hlt, by rw [heq]; exact ⟨rfl, rfl⟩⟩
      · exact Or.inr (Or.inl ⟨hle, hlt, by rw [heq]; exact ⟨rfl, rfl⟩⟩)
      · exact Or.inr (Or.inr ⟨hle, by rw [heq]; exact ⟨rfl, rfl⟩⟩)
    · rw [sizeText?, ofBytes?_divided h hn]
      rfl
  · obtain ⟨x, hx⟩ := exists_ofBytes? (hle.trans_lt hb)
    obtain ⟨y, hy⟩ := exists_ofBytes? hb
    exact ⟨_, _, denoted?_sizeText? hx, denoted?_sizeText? hy, value_mono hle hb hx hy⟩

theorem sizes_exact_and_ordered_tie :
    (512 : Nat) < 1024 ∧ (1024 : Nat) ≤ 1280 ∧ (1280 : Nat) < 2 ^ 53 ∧ (512 : Nat) ≤ 1280 ∧
      sizeText? (512 : Nat) = some (toString (512 : Nat) ++ " B") ∧
      (∃ tenths : Nat, Near tenths (10 * ((1280 : Nat) / 1024 ^ 1)) ∧ sizeText? (1280 : Nat)
        = some (toString (tenths / 10) ++ "." ++ toString (tenths % 10) ++ " " ++ "KB")) ∧
      ∃ x y, (sizeText? (512 : Nat)).bind denoted? = some x ∧
        (sizeText? (1280 : Nat)).bind denoted? = some y ∧ x ≤ y := by
  obtain ⟨hbytes, hunits, horder⟩ := sizes_exact_and_ordered
  refine ⟨by decide, by decide, by decide, by decide, hbytes 512 (by decide), ?_,
    horder 512 1280 (by decide) (by decide)⟩
  obtain ⟨count, symbol, tenths, hunit, -, -, hnear, htext⟩ :=
    hunits 1280 (by decide) (by decide)
  rcases hunit with ⟨-, rfl, rfl⟩ | ⟨hle, -⟩ | ⟨hle, -⟩
  · exact ⟨tenths, hnear, htext⟩
  · exact absurd hle (by decide)
  · exact absurd hle (by decide)

example : sizeText? 1280 = some "1.2 KB" := by rfl

example : sizeText? 1792 = some "1.8 KB" := by rfl

/-! ## Units that do not fit -/

/-- The sizes within a twentieth of a unit below 1024 of it, where there is a larger unit.  A
twentieth is half of the last digit that is shown, and the bounds are the first whole numbers of
bytes from there on. -/
def JustBelow (n : Nat) : Prop :=
  1048525 ≤ n ∧ n < 1024 ^ 2 ∨ 1073689396 ≤ n ∧ n < 1024 ^ 3

instance (n : Nat) : Decidable (JustBelow n) := by unfold JustBelow; infer_instance

/-- Which sizes are rounded to 1024 of their unit. -/
theorem tenths_lt_iff {tenths : Nat}
    (hnear : Near tenths (10 * (n / 1024 ^ (SizeUnit.ofBytes n).power))) :
    tenths < 10240 ↔ 20 * n < 20479 * 1024 ^ (SizeUnit.ofBytes n).power := by
  have hpos : (0 : ℚ) < 1024 ^ (SizeUnit.ofBytes n).power := by positivity
  obtain ⟨ratio, hratio⟩ : ∃ ratio : ℚ, ratio = n / 1024 ^ (SizeUnit.ofBytes n).power := ⟨_, rfl⟩
  have hn : (n : ℚ) = ratio * 1024 ^ (SizeUnit.ofBytes n).power := by
    rw [hratio, div_mul_cancel₀ _ hpos.ne']
  have hcondition : 20 * n < 20479 * 1024 ^ (SizeUnit.ofBytes n).power ↔ 20 * ratio < 20479 := by
    rw [← Nat.cast_lt (α := ℚ)]
    push_cast
    rw [hn, ← mul_assoc, mul_lt_mul_iff_left₀ hpos]
  rw [← hratio] at hnear
  rw [hcondition]
  have hlow := hnear.low
  have hhigh := hnear.high
  constructor
  · intro hlt
    have hle : (tenths : ℚ) + 1 ≤ 10240 := by exact_mod_cast hlt
    -- In the middle the number of tenths would be the even one, and 10239 is not.
    refine lt_of_le_of_ne (by linarith) fun hmiddle => ?_
    have hodd : tenths = 10239 := by
      have hge : (10239 : ℚ) ≤ tenths := by linarith
      have hge' : 10239 ≤ tenths := by exact_mod_cast hge
      omega
    rcases hnear.tie with heven | ⟨-, hstrict⟩
    · omega
    · rw [hodd] at hstrict
      push_cast at hstrict
      linarith
  · intro hlt
    have hle : (tenths : ℚ) < 10240 := by linarith
    exact_mod_cast hle

/-- **When the unit of a size fits.**  The number that is shown is always 1 or more.  With a larger
unit at hand it is below 1024 just if the size is not within a twentieth of a unit below 1024 of it;
the sizes that are show as 1024 of the smaller unit.  The largest unit has no condition, since there
is no other to change to. -/
theorem unit_fits_iff {n : Nat} (h : 1024 ≤ n) (hn : n < 2 ^ 53) :
    ∃ text number symbol, sizeText? n = some text ∧ shownAs? text = some (number, symbol) ∧
      1 ≤ number ∧ (symbol = "KB" ∨ symbol = "MB" →
        (number < 1024 ↔ ¬ JustBelow n) ∧ (JustBelow n → number = 1024)) := by
  obtain ⟨tenths, hform, hnear⟩ := ofBytes?_eq_some h hn
  obtain ⟨hleast, hmost⟩ := tenths_bounds h hnear
  have hleast' : (10 : ℚ) ≤ tenths := by exact_mod_cast hleast
  refine ⟨(rounded tenths (SizeUnit.ofBytes n)).text, tenths / 10, (SizeUnit.ofBytes n).symbol,
    by rw [sizeText?, hform, Option.map_some], shownAs?_rounded _ _, by linarith, fun hsymbol => ?_⟩
  have hsmaller : SizeUnit.ofBytes n ≠ .gigabyte := fun hunit => by
    rw [hunit] at hsymbol
    exact absurd hsymbol (by decide)
  have hbelow : (tenths : ℚ) / 10 < 1024 ↔ ¬ JustBelow n := by
    rw [div_lt_iff₀ (by norm_num), show (1024 * 10 : ℚ) = (10240 : ℕ) by norm_num, Nat.cast_lt,
      tenths_lt_iff hnear, JustBelow]
    rcases SizeUnit.ofBytes_cases n with ⟨hlt, heq⟩ | ⟨hle, hlt, heq⟩ | ⟨_, heq⟩
    · rw [heq, SizeUnit.power]
      omega
    · rw [heq, SizeUnit.power]
      omega
    · exact absurd heq hsmaller
  refine ⟨hbelow, fun hjust => ?_⟩
  have hmost' : (tenths : ℚ) ≤ 10240 := by exact_mod_cast hmost hsmaller
  have hnot : ¬ (tenths : ℚ) / 10 < 1024 := fun hlt => hbelow.1 hlt hjust
  linarith

theorem unit_fits_iff_lastKilobyte :
    (1024 : Nat) ≤ 1048575 ∧ (1048575 : Nat) < 2 ^ 53 ∧ JustBelow 1048575 ∧
      ∃ text number symbol, sizeText? (1048575 : Nat) = some text ∧
        shownAs? text = some (number, symbol) ∧ 1 ≤ number ∧
        (symbol = "KB" ∨ symbol = "MB" → number = 1024) := by
  have hjust : JustBelow 1048575 := by decide
  obtain ⟨text, number, symbol, htext, hshown, hone, hfits⟩ :=
    unit_fits_iff (show 1024 ≤ 1048575 by decide) (by decide)
  exact ⟨by decide, by decide, hjust, text, number, symbol, htext, hshown, hone,
    fun hsymbol => (hfits hsymbol).2 hjust⟩

/-- The last size in kilobytes is shown as 1024 of them, with megabytes at hand. -/
theorem not_fits_lastKilobyte :
    ¬ ∀ n : Nat, 1024 ≤ n → n < 2 ^ 53 → ∀ text number symbol, sizeText? n = some text →
      shownAs? text = some (number, symbol) →
        1 ≤ number ∧ (symbol = "KB" ∨ symbol = "MB" → number < 1024) := by
  intro hall
  have htext : sizeText? (1048575 : Nat) = some "1024.0 KB" := by rfl
  have hshown : shownAs? "1024.0 KB" = some (1024, "KB") := by
    have hread := shownAs?_rounded 10240 .kilobyte
    norm_num at hread
    exact hread
  exact absurd ((hall 1048575 (by decide) (by decide) _ _ _ htext hshown).2 (Or.inl rfl))
    (lt_irrefl _)

end ByteSize
end AssetPublish
