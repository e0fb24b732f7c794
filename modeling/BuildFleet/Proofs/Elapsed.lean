import BuildFleet.Elapsed
/-!
# Elapsed time as text (`format_elapsed`)

A number is written in digits that give it back, without a zero in front (`isDecimal_toString`). The text
of a span is made of such numbers, each with its unit behind it, so the seconds of the text can be counted
again (`countFrom_renderSeconds`). It says the rounded count of seconds and nothing else
(`render_exact`).
-/
namespace BuildFleet

/-! ## Decimal numbers -/

/-- The text is the number in decimal digits, without leading zeros. -/
structure IsDecimal (text : String) (n : Nat) : Prop where
  nonempty : text ≠ ""
  digits : ∀ c ∈ text.toList, c.isDigit = true
  noLeadingZero : text.toList.head? = some '0' → text = "0"
  value : Nat.ofDigitChars 10 text.toList 0 = n

theorem eq_zero_of_head?_toDigits {n : Nat} (h : (Nat.toDigits 10 n).head? = some '0') : n = 0 := by
  induction n using Nat.strongRecOn with
  | _ n ih =>
    rw [Nat.toDigits_eq_if (by omega)] at h
    split at h
    · simpa using h
    · obtain ⟨c, cs, hfront⟩ :=
        List.exists_cons_of_ne_nil (Nat.toDigits_ne_nil (n := n / 10) (b := 10))
      rw [hfront] at h
      have hzero : n / 10 = 0 := ih (n / 10) (by omega) (hfront ▸ h)
      omega

theorem isDecimal_toString (n : Nat) : IsDecimal (toString n) n := by
  have hchars : (toString n).toList = Nat.toDigits 10 n := by
    rw [Nat.toString_eq_repr, Nat.toList_repr]
  refine ⟨?_, ?_, ?_, ?_⟩
  · intro hempty
    rw [hempty] at hchars
    exact Nat.toDigits_ne_nil hchars.symm
  · intro c hc
    rw [hchars] at hc
    exact Nat.isDigit_of_mem_toDigits (by omega) (by omega) hc
  · intro hzero
    rw [hchars] at hzero
    rw [eq_zero_of_head?_toDigits hzero]
    rfl
  · rw [hchars, Nat.ofDigitChars_ten_toDigits]

namespace Span

/-! ## Counting the seconds of a text -/

def secondsIn? : Char → Option Nat
  | 'h' => some 3600
  | 'm' => some 60
  | 's' => some 1
  | _ => none

/-- Counts the seconds of a text on top of those counted so far; `held` is the number before the next
unit, as far as it has been read. -/
def countFrom (counted held : Nat) : List Char → Nat
  | [] => counted
  | c :: rest =>
    match secondsIn? c with
    | some unit => countFrom (counted + held * unit) 0 rest
    | none => countFrom counted (10 * held + (c.toNat - '0'.toNat)) rest

theorem secondsIn?_of_isDigit {c : Char} (h : c.isDigit = true) : secondsIn? c = none := by
  unfold secondsIn?
  split
  · cases h
  · cases h
  · cases h
  · rfl

theorem countFrom_digits {digits : List Char} (h : ∀ c ∈ digits, c.isDigit = true)
    (counted held : Nat) (rest : List Char) :
    countFrom counted held (digits ++ rest) =
      countFrom counted (Nat.ofDigitChars 10 digits held) rest := by
  induction digits generalizing held with
  | nil => rw [List.nil_append, Nat.ofDigitChars_nil]
  | cons c digits ih =>
    rw [List.cons_append, countFrom, secondsIn?_of_isDigit (h c List.mem_cons_self),
      ih fun d hd => h d (List.mem_cons_of_mem c hd), Nat.ofDigitChars_cons]

theorem countFrom_field {letter : Char} {unit : Nat} (h : secondsIn? letter = some unit)
    (n counted : Nat) (rest : List Char) :
    countFrom counted 0 ((toString n).toList ++ letter :: rest) =
      countFrom (counted + n * unit) 0 rest := by
  have hn := isDecimal_toString n
  rw [countFrom_digits hn.digits, hn.value, countFrom, h]

theorem countFrom_renderSeconds (n : Nat) : countFrom 0 0 (renderSeconds n).toList = n := by
  have hours : secondsIn? 'h' = some 3600 := rfl
  have minutes : secondsIn? 'm' = some 60 := rfl
  have seconds : secondsIn? 's' = some 1 := rfl
  have hh : "h".toList = ['h'] := rfl
  have hm : "m".toList = ['m'] := rfl
  have hs : "s".toList = ['s'] := rfl
  unfold renderSeconds
  dsimp only
  split
  · simp only [String.toList_append, hh, hm, hs, List.append_assoc, List.cons_append,
      List.nil_append]
    rw [countFrom_field hours, countFrom_field minutes, countFrom_field seconds, countFrom]
    omega
  split
  · simp only [String.toList_append, hm, hs, List.append_assoc, List.cons_append, List.nil_append]
    rw [countFrom_field minutes, countFrom_field seconds, countFrom]
    omega
  · rw [String.toList_append, hs, countFrom_field seconds, countFrom]
    omega

/-! ## Fields -/

/-- A count of seconds in its fields. That of hours is there from the first hour on, that of minutes from
the first minute on. -/
theorem renderSeconds_eq (n : Nat) : renderSeconds n =
    (if n < 3600 then "" else toString (n / 3600) ++ "h") ++
      (if n < 60 then "" else toString (n % 3600 / 60) ++ "m") ++ toString (n % 60) ++ "s" := by
  unfold renderSeconds
  dsimp only
  by_cases hhour : n < 3600
  · rw [if_neg (by omega), if_pos hhour, String.empty_append]
    by_cases hminute : n < 60
    · rw [if_neg (by omega), if_pos hminute, String.empty_append]
    · rw [if_pos (by omega), if_neg hminute]
  · rw [if_pos (by omega), if_neg hhour, if_neg (by omega), ← String.append_assoc]

/-! ## Rounding -/

/-- The seconds of a span, rounded to the nearest whole one; half a second goes up, and less than a
millisecond does not count. -/
def nearestSecond (t : Span) : Nat := (1000 * t.seconds.toNat + t.millis + 500) / 1000

variable {t : Span}

theorem toNat_rounded (h : t.nearestSecond < UInt64.size) : t.rounded.toNat = t.nearestSecond := by
  have hmillis : t.millis < 1000 := by
    have hnanos := t.nanos_lt
    unfold millis
    omega
  unfold nearestSecond at h ⊢
  unfold rounded
  split
  · have hsize : UInt64.size = 2 ^ 64 := rfl
    rw [UInt64.toNat_add, UInt64.toNat_one, Nat.mod_eq_of_lt (by omega)]
    omega
  · omega

theorem render_eq (h : t.nearestSecond < UInt64.size) :
    t.render = renderSeconds t.nearestSecond := by
  rw [render, toNat_rounded h]

/-- **A span is rendered exactly and without ambiguity** (`format_elapsed`). As long as the rounded
count of seconds fits into 64 bits, the text has that count in hours, minutes below 60 and seconds
below 60, each in decimal digits without leading zeros; hours are left out exactly below an hour,
and minutes exactly below a minute. Two spans have the same text exactly if they round to the same
second. -/
theorem render_exact (h : t.nearestSecond < UInt64.size) :
    (∃ (hours minutes seconds : Nat) (hoursText minutesText secondsText : String),
      IsDecimal hoursText hours ∧ IsDecimal minutesText minutes ∧ IsDecimal secondsText seconds ∧
      minutes < 60 ∧ seconds < 60 ∧
      3600 * hours + 60 * minutes + seconds = t.nearestSecond ∧
      t.render = (if t.nearestSecond < 3600 then "" else hoursText ++ "h") ++
        (if t.nearestSecond < 60 then "" else minutesText ++ "m") ++ secondsText ++ "s") ∧
    ∀ u : Span, u.nearestSecond < UInt64.size →
      (t.render = u.render ↔ t.nearestSecond = u.nearestSecond) := by
  refine ⟨⟨t.nearestSecond / 3600, t.nearestSecond % 3600 / 60, t.nearestSecond % 60, _, _, _,
    isDecimal_toString _, isDecimal_toString _, isDecimal_toString _, by omega, by omega, by omega,
    (render_eq h).trans (renderSeconds_eq _)⟩, fun u hu => ?_⟩
  rw [render_eq h, render_eq hu]
  constructor
  · intro htext
    calc t.nearestSecond = countFrom 0 0 (renderSeconds t.nearestSecond).toList :=
          (countFrom_renderSeconds _).symm
      _ = countFrom 0 0 (renderSeconds u.nearestSecond).toList := by rw [htext]
      _ = u.nearestSecond := countFrom_renderSeconds _
  · intro hcount
    rw [hcount]

/-- Half a second more than 59 minutes and 59 seconds, which carries over both fields. -/
def almostAnHour : Span := ⟨3599, 500000000, by omega⟩

/-- An hour and half a second, but for a nanosecond. -/
def overAnHour : Span := ⟨3600, 499999999, by omega⟩

theorem almostAnHour_rendered :
    almostAnHour.nearestSecond < UInt64.size ∧ overAnHour.nearestSecond < UInt64.size ∧
    almostAnHour.nearestSecond = 3600 ∧ almostAnHour.render = "1h0m0s" ∧
    overAnHour.render = "1h0m0s" := by
  have hfits : almostAnHour.nearestSecond < UInt64.size := by decide
  have hfits' : overAnHour.nearestSecond < UInt64.size := by decide
  have hrender : almostAnHour.render = "1h0m0s" := by decide +kernel
  refine ⟨hfits, hfits', by decide, hrender, ?_⟩
  rw [← hrender, eq_comm, (render_exact hfits).2 overAnHour hfits']
  decide

end Span

end BuildFleet
